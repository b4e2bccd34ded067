import MapReduce.Console.Entities
import MapReduce.Engine.Lifecycle
import MapReduce.Engine.Admin
import MapReduce.Engine.Dispatcher
import Std.Data.HashSet

/-! A simulated deployment of the engine: the engine, its world, and the messages the broker has
delivered but no worker has taken yet. Pending messages can be processed in any order, dropped or
delivered again, which is how a broker that delivers at least once behaves.

The simulation shows ids by short names: invocations as `I001`, `I002`, … and requests as `R001`,
… in the order they were made, and reads those names back wherever a command gives an id. Ids are
minted in increasing order, so the order of creation is the order of the ids' values. -/

namespace MapReduce

namespace Console

/-- A simulated deployment and what the console remembers about it. -/
structure Simulation where
  engine : Engine
  world : World
  /-- Messages delivered and not yet taken, in delivery order. -/
  pending : List Delivery := []
  /-- Requests packaged by the console, by id. -/
  packaged : List (String × PackagedRequest) := []
  /-- The message taken last. -/
  last : Option Delivery := none
  /-- The short name of each id named so far. -/
  names : List (String × String) := []
  invocations : Nat := 0
  requests : Nat := 0
  /-- Whether every array inside a result is shown sorted. -/
  deep : Bool := false
  /-- Whether the store keeps its data in memory. -/
  memory : Bool := true

/-- Whether a character is a lowercase hexadecimal digit. -/
def isHexDigit (c : Char) : Bool := c.isDigit || ('a' ≤ c && c ≤ 'f')

/-- Whether the first `n` characters are lowercase hexadecimal digits. -/
def hexPrefix : Nat → List Char → Bool
  | 0, _ => true
  | _ + 1, [] => false
  | n + 1, c :: cs => isHexDigit c && hexPrefix n cs

/-- The characters of a text with every named id replaced by its name, reading from the left; an
id is a run of 32 hexadecimal digits, so only such a run is looked up. -/
def nameIdsIn (names : List (String × String)) : List Char → List Char
  | [] => []
  | c :: cs =>
    let named := if hexPrefix 32 (c :: cs) then List.lookup (String.ofList ((c :: cs).take 32)) names
      else none
    match named with
    | some a => a.toList ++ nameIdsIn names ((c :: cs).drop 32)
    | none => c :: nameIdsIn names cs
termination_by l => l.length
decreasing_by
  all_goals simp only [List.length_drop, List.length_cons]
  all_goals omega

namespace Simulation

/-- Runs an engine computation on the simulated world. -/
def run {α : Type} (s : Simulation) (m : EngineM α) : Except Fault α × Simulation :=
  let (r, w) := (m.run).run s.world
  (r, { s with world := w })

/-- The id a name stands for; a text that names nothing is an id itself. -/
def idOf (s : Simulation) (x : String) : String :=
  match s.names.find? (·.2 == x) with
  | some (r, _) => r
  | none => x

/-- A text with every named id in it replaced by its name. -/
def display (s : Simulation) (x : String) : String :=
  if s.names.isEmpty then x else String.ofList (nameIdsIn s.names x.toList)

/-- A value as shown: named ids replaced by their names in every string and key. -/
def showJson (s : Simulation) (j : Json) : Json := Json.mapText s.display j

/-- A value as read: every string and key that is a name replaced by its id. -/
def resolveJson (s : Simulation) (j : Json) : Json := Json.mapText s.idOf j

end Simulation

/-- Whether a text is an id: 32 lowercase hexadecimal digits. -/
def isHexId (x : String) : Bool :=
  x.length == 32 && x.all fun c => c.isDigit || ('a' ≤ c && c ≤ 'f')

/-- The value of a lowercase hexadecimal text. -/
def hexValue (x : String) : Nat :=
  x.foldl (fun acc c => acc * 16 + (if c.isDigit then c.toNat - 48 else c.toNat - 87)) 0

/-- A number written with at least three digits. -/
def pad3 (n : Nat) : String :=
  let t := toString n
  String.ofList (List.replicate (3 - t.length) '0') ++ t

namespace Simulation

/-- The stored ids of a class of entity that have no name yet, in order of value. -/
def unnamed (s : Simulation) (cls : String) : List String :=
  let named : Std.HashSet String := s.names.foldl (fun acc (r, _) => acc.insert r) {}
  let ids := s.world.store.backend.paths.filterMap fun p =>
    match p.splitOn "/" with
    | ["entities", c, _, id] =>
      if c == cls && isHexId id && !(named.contains id) then some id else none
    | _ => none
  ids.eraseDups.mergeSort fun a b => hexValue a ≤ hexValue b

/-- Names the ids of new invocations and requests, in creation order. -/
def nameNewIds (s : Simulation) : Simulation :=
  let s := (s.unnamed "invocation").foldl (fun s id =>
    { s with invocations := s.invocations + 1,
             names := s.names ++ [(id, "I" ++ pad3 (s.invocations + 1))] }) s
  (s.unnamed "request").foldl (fun s id =>
    { s with requests := s.requests + 1,
             names := s.names ++ [(id, "R" ++ pad3 (s.requests + 1))] }) s

/-- Moves the broker's waiting messages to the pending list. -/
def collect (s : Simulation) : Simulation :=
  let (msgs, b) := s.world.broker.takeAll
  { s with pending := s.pending ++ msgs, world := { s.world with broker := b } }

/-- A value as shown, deep-sorted when asked. -/
def canonJson (s : Simulation) (j : Json) : Json :=
  let j := s.showJson j
  if s.deep then Json.deepSort j else j

/-- Pairs as shown, in the order of their compact texts. -/
def pairsJson (s : Simulation) (ps : List Pair) : Json :=
  .arr (Json.sortByText (ps.map fun (k, v) => s.canonJson (.arr [k, v])))

/-- Stored records as shown, in the order of their compact texts. -/
def recordsJson (s : Simulation) (records : List Json) : Json :=
  .arr (Json.sortByText (records.map s.canonJson))

end Simulation

/-- An entity without its times. -/
def entityJson {α : Type} [Entity α] (x : α) : Json := stripTimes (Entity.toJson x)

/-- The reply to an engine result; an abort stops the script. -/
def faultAnswer {α : Type} (r : Except Fault α) (f : α → Json) : Answer Json :=
  match r with
  | .ok a => .ok (okReply (f a))
  | .error (.error e) => .ok (engineErrorReply e)
  | .error .abort => .error .abort

/-- What handling a message came to. -/
def outcomeJson : HandleOutcome → Json
  | .mapped n => obj [("mapped", .nat n)]
  | .returned n => obj [("returned", .nat n)]
  | .reduced b => obj [("reduced", .bool b)]
  | .duplicate => .str "duplicate"
  | .abandoned => .str "abandoned"

/-- One processed message: its class, invocation and step when it can be read, its topic, and
its outcome or failure. -/
def processedJson (d : Delivery) (r : Except Fault HandleOutcome) : Answer Json := do
  let base : List (String × Json) := match classify d.body with
    | .ok (dir, m) => [("class", .str dir.text), ("invocation", .str m.invocation), ("step", .str m.step)]
    | .error _ => []
  let base := base ++ [("topic", .str d.topic)]
  match r with
  | .ok o => .ok (obj (base ++ [("outcome", outcomeJson o)]))
  | .error (.error e) => .ok (obj (base ++ [("failed", engineErrorReply e)]))
  | .error .abort => .error .abort

/-- A cleanup report. -/
def CleanupReport.toJson (r : CleanupReport) : Json :=
  obj [("requests", .nat r.requests), ("invocations", .nat r.invocations), ("deleted", .nat r.deleted),
    ("already_gone", .nat r.alreadyGone), ("planned", .arr (r.planned.map Json.str))]

/-- Argument declarations: a name, of pairs, or an array of a name and a type, where a missing
name or type, or one that is no text, is empty. Any other value declares pairs under an empty
name; a field that is no array declares nothing. -/
def specOf (j : Json) (name : String) : List ArgumentSpec :=
  match field j name with
  | some (.arr xs) => xs.map fun
    | .arr ys => ⟨((ys.head?).bind Json.getStr?).getD "", ((ys[1]?).bind Json.getStr?).getD ""⟩
    | x => ⟨(x.getStr?).getD "", "pairs"⟩
  | _ => []

/-- The class of entity a command names. -/
def classOf (st : Json) : Answer String := reqStr st "class"

/-- Loads an entity of a named class. -/
def loadEntityJson (cls : String) (idn : List String) : Answer (EngineM Json) :=
  match cls with
  | "workflow" => .ok (do pure (entityJson (← Engine.load Workflow idn).data))
  | "job" => .ok (do pure (entityJson (← Engine.load Job idn).data))
  | "step" => .ok (do pure (entityJson (← Engine.load Step idn).data))
  | "handler" => .ok (do pure (entityJson (← Engine.load Handler idn).data))
  | "request" => .ok (do pure (entityJson (← Engine.load Request idn).data))
  | "invocation" => .ok (do pure (entityJson (← Engine.load Invocation idn).data))
  | _ => .error (.malformed "unknown class")

/-- Deletes an entity of a named class. -/
def deleteEntity (cls : String) (idn : List String) : Answer (EngineM Unit) :=
  match cls with
  | "workflow" => .ok (EngineM.domain (EntityStore.delete Workflow idn))
  | "job" => .ok (EngineM.domain (EntityStore.delete Job idn))
  | "step" => .ok (EngineM.domain (EntityStore.delete Step idn))
  | "handler" => .ok (EngineM.domain (EntityStore.delete Handler idn))
  | "request" => .ok (EngineM.domain (EntityStore.delete Request idn))
  | "invocation" => .ok (EngineM.domain (EntityStore.delete Invocation idn))
  | _ => .error (.malformed "unknown class")

/-- The number of messages a run processes at most. -/
def processingLimit : Nat := 1000000

namespace Simulation

/-- A cleanup report as shown, the planned deletions in order. -/
def reportJson (s : Simulation) (r : CleanupReport) : Json :=
  CleanupReport.toJson { r with planned := (r.planned.map s.display).mergeSort (· ≤ ·) }

/-- The packaged request a command names. -/
def packagedOf (s : Simulation) (st : Json) : Answer PackagedRequest := do
  let id := s.idOf (← reqStr st "request")
  match s.packaged.find? (·.1 == id) with
  | some (_, p) => .ok p
  | none => .error (.malformed "unknown request")

/-- A rendered body as shown: its pairs in order. -/
def bodyJson (s : Simulation) (b : Json) : Json :=
  match b.get? "pairs" with
  | some (.arr xs) => b.set "pairs" (s.pairsJson (xs.map pairOfInput))
  | _ => b

/-- What submitting came to. -/
def submitOutcomeJson (s : Simulation) : SubmitOutcome → Json
  | .accepted r => obj [("accepted", .str r)]
  | .completed r ps body =>
    obj [("completed", .str r), ("pairs", s.pairsJson ps), ("body", (body.map s.bodyJson).getD .null)]

/-- Processes one message and remembers it as the last one taken. -/
def processOne (s : Simulation) (d : Delivery) : Answer (Json × Simulation) := do
  let (r, s) := s.run (s.engine.handleRaw d.body)
  let j ← processedJson d r
  .ok (j, { s with last := some d })

/-- Processes the pending messages and those delivered meanwhile, at most `limit` of them; the
last one taken is remembered. -/
def processPending (s : Simulation) (limit : Nat) : List Processed × Simulation :=
  let ((log, left), w) := (s.engine.processMessages limit s.pending).run s.world
  let s := { s with world := w, pending := left }
  match log.getLast? with
  | some p => (log, { s with last := some p.delivery })
  | none => (log, s)

/-- The processed messages of a run. -/
def processLog (log : List Processed) : Answer (List Json) :=
  log.mapM fun p => processedJson p.delivery p.outcome

/-- An invocation graph as shown: nodes by name, edges in order. -/
def graphJson (s : Simulation) (g : InvocationGraph) : Json :=
  let nodes := g.nodes.map fun n =>
    obj [("id", .str (s.display n.id)), ("invocation", s.showJson ((n.invocation.map entityJson).getD .null)),
      ("arguments", s.showJson (.arr n.arguments)), ("post_combine", s.showJson (.arr n.postCombine)),
      ("post_reduce", s.recordsJson n.postReduce)]
  let idText (j : Json) : String := ((j.get? "id").bind Json.getStr?).getD ""
  let nodes := nodes.mergeSort fun a b => idText a ≤ idText b
  let edges := g.edges.map fun e =>
    Json.arr [.str (s.display e.source), .str (s.display e.target), .str e.relation.text]
  obj [("nodes", .arr nodes), ("edges", .arr (Json.sortByText edges))]

/-- The root invocation a command names: that of a request, or an invocation itself. -/
def graphRoot (s : Simulation) (st : Json) (wf : String) : Answer (EngineM String) := do
  match strField? st "request" with
  | some r =>
    .ok (do
      let req ← Engine.load Request [wf, s.idOf r]
      pure req.data.invocation)
  | none => .ok (pure (s.idOf (← reqStr st "invocation")))

/-- The results rendered so far; a result written to a file is read back from it. -/
def renderedJson (s : Simulation) : Json :=
  .arr (s.world.rendered.map fun r =>
    match r.body with
    | some b => obj [("request", .str r.request), ("body", s.bodyJson b)]
    | none =>
      let file := match s.engine.writer with
        | .file dir =>
          match s.world.files.readFile (Location.ofText (Engine.resultPath dir r.request)) with
          | .ok text => match Json.read text with
            | .ok f => s.bodyJson f
            | .error _ => .null
          | .error _ => .null
        | .inline => .null
      obj [("request", .str r.request), ("body", .null), ("file", file)])

/-- The stored keys at or below a root, as the memory store dumps them, shown and in order; a
segment of twenty digits, a name in order of creation, is shown as `#`. -/
def keysJson (s : Simulation) (root : String) : Json :=
  let paths := s.world.store.backend.paths.filter (MemoryStore.underRoot root)
  let shown := paths.map fun p =>
    "/".intercalate ((p.splitOn "/").map fun seg =>
      if seg.length == 20 && seg.all Char.isDigit then "#" else seg)
  .arr (((shown.map s.display).mergeSort (· ≤ ·)).map Json.str)

end Simulation

end Console

end MapReduce
