import MapReduce.Domain.Error
import MapReduce.Json.Decode
import MapReduce.Hash.Sha256
import MapReduce.Text.Blank

/-! The six kinds of entity: workflows, jobs, steps, handlers, requests and invocations. Each has a
class name, an identity below `entities/<class>/`, a check run before every save, and a JSON
form. -/

namespace MapReduce

open Decode (Fields)

/-- A kind of stored entity. -/
class Entity (α : Type) where
  /-- The class name in the entity's path. -/
  className : String
  /-- The identity segments below the class. -/
  identity : α → List String
  /-- The check and derivation run before every save. -/
  presave : α → Except DomainError α
  /-- The JSON fields in their declared order. -/
  fields : α → List (String × Json)
  /-- Reads an entity from JSON. -/
  decode : Json → Except String α

namespace Entity

/-- The JSON value of an entity. -/
def toJson {α : Type} [Entity α] (x : α) : Json := Json.mkObj (fields x)

/-- The stored text of an entity: the compact text of its JSON value. -/
def toText {α : Type} [Entity α] (x : α) : String := Json.write (toJson x)

end Entity

/-- The direction of an invocation. -/
inductive Direction where
  | map
  | reduce
  deriving DecidableEq, Repr, Inhabited

namespace Direction

/-- The name of a direction. -/
def text : Direction → String
  | .map => "map"
  | .reduce => "reduce"

/-- The direction of a name. -/
def ofText? : String → Option Direction
  | "map" => some .map
  | "reduce" => some .reduce
  | _ => none

/-- Reads a direction. -/
def decode : Json → Except String Direction :=
  Decode.unitVariant [("map", .map), ("reduce", .reduce)]

end Direction

/-- The fan-out state of an invocation: none yet, or `count` children of which `waiting` have
not reduced. -/
inductive FanOut where
  | leaf
  | fannedOut (count waiting : Nat)
  deriving DecidableEq, Repr, Inhabited

namespace FanOut

/-- The JSON form: an object tagged by `state`. -/
def toJson : FanOut → Json
  | .leaf => .obj [("state", .str "leaf")]
  | .fannedOut c w => .obj [("count", .nat c), ("state", .str "fanned_out"), ("waiting", .nat w)]

/-- The names of the states. -/
def tags : List String := ["leaf", "fanned_out"]

/-- Reads the name of a state. -/
def tag : Json → Except String String
  | .str s => if tags.contains s then .ok s else Decode.unknownVariant s tags
  | v => Decode.invalid v "variant identifier"

/-- The counters of a fanned-out state, by name or by position. -/
def counters : Json → Except String FanOut :=
  Decode.struct "struct variant FanOut::FannedOut" 2
    (FanOut.fannedOut <$> Fields.required "count" 0 Decode.nat64 <*>
      Fields.required "waiting" 1 Decode.nat64)

/-- Reads a fan-out state: an object whose `state` member names it, with the counters as other
members, or an array of the name followed by the counters. A leaf ignores whatever follows its
name. -/
def decode : Json → Except String FanOut
  | .obj kvs =>
    match Json.lookup kvs "state" with
    | none => .error ("missing field " ++ Decode.quoted "state")
    | some t => do
      let name ← tag t
      if name = "leaf" then .ok .leaf else counters (.obj kvs)
  | .arr [] => .error ("missing field " ++ Decode.quoted "state")
  | .arr (t :: rest) => do
    let name ← tag t
    if name = "leaf" then .ok .leaf
    else do
      let f ← counters (.arr (rest.take 2))
      if rest.length > 2 then
        .error ("invalid length " ++ toString rest.length ++ ", expected 2 elements in sequence")
      else .ok f
  | v => Decode.invalid v "internally tagged enum FanOut"

end FanOut

/-- A workflow: the namespace of jobs, steps and handlers. -/
structure Workflow where
  name : String
  description : String
  handlersState : Option String := none
  deriving DecidableEq, Repr, Inhabited

instance : Entity Workflow where
  className := "workflow"
  identity w := [w.name]
  presave w := .ok w
  fields w := [("workflow_name", .str w.name), ("description", .str w.description),
    ("handlers_state", Json.optStr w.handlersState)]
  decode := Decode.struct "struct Workflow" 3
    (Workflow.mk <$> Fields.required "workflow_name" 0 Decode.string <*>
      Fields.required "description" 1 Decode.string <*>
      Fields.withDefault "handlers_state" 2 none (Decode.option Decode.string))

/-- A job: a named entry point starting at a step. -/
structure Job where
  workflow : String
  name : String
  description : String
  initialStep : String
  deriving DecidableEq, Repr, Inhabited

instance : Entity Job where
  className := "job"
  identity j := [j.workflow, j.name]
  presave j :=
    if Text.isBlankText j.initialStep then .error (.validation "El job necesita un step inicial")
    else .ok j
  fields j := [("workflow_name", .str j.workflow), ("job_name", .str j.name),
    ("description", .str j.description), ("initial_step_name", .str j.initialStep)]
  decode := Decode.struct "struct Job" 4
    (Job.mk <$> Fields.required "workflow_name" 0 Decode.string <*>
      Fields.required "job_name" 1 Decode.string <*>
      Fields.required "description" 2 Decode.string <*>
      Fields.required "initial_step_name" 3 Decode.string)

/-- A step: a map handler, and optionally a combiner and a reducer. -/
structure Step where
  workflow : String
  name : String
  description : String
  mapHandler : String
  combineHandler : Option String := none
  reduceHandler : Option String := none
  deriving DecidableEq, Repr, Inhabited

namespace Step

/-- A step needs a map handler, and its handlers must be pairwise distinct. -/
def validate (s : Step) : Except DomainError Unit :=
  if Text.isBlankText s.mapHandler then
    .error (.validation ("Step [" ++ s.name ++ "] sin handler de map"))
  else if some s.mapHandler = s.reduceHandler || some s.mapHandler = s.combineHandler ||
      (s.combineHandler.isSome && s.combineHandler = s.reduceHandler) then
    .error (.validation ("Step [" ++ s.name ++
      "]: los handlers de map, combine y reduce deben ser distintos"))
  else .ok ()

end Step

instance : Entity Step where
  className := "step"
  identity s := [s.workflow, s.name]
  presave s := (Step.validate s).map fun _ => s
  fields s := [("workflow_name", .str s.workflow), ("step_name", .str s.name),
    ("description", .str s.description), ("map_handler_name", .str s.mapHandler),
    ("combine_handler_name", Json.optStr s.combineHandler),
    ("reduce_handler_name", Json.optStr s.reduceHandler)]
  decode := Decode.struct "struct Step" 6
    (Step.mk <$> Fields.required "workflow_name" 0 Decode.string <*>
      Fields.required "step_name" 1 Decode.string <*>
      Fields.required "description" 2 Decode.string <*>
      Fields.required "map_handler_name" 3 Decode.string <*>
      Fields.withDefault "combine_handler_name" 4 none (Decode.option Decode.string) <*>
      Fields.withDefault "reduce_handler_name" 5 none (Decode.option Decode.string))

/-- The role of a handler. -/
inductive HandlerKind where
  | mapper
  | combiner
  | reducer
  deriving DecidableEq, Repr, Inhabited

namespace HandlerKind

/-- The name of a role. -/
def text : HandlerKind → String
  | .mapper => "mapper"
  | .combiner => "combiner"
  | .reducer => "reducer"

/-- The role of a name. -/
def ofText? : String → Option HandlerKind
  | "mapper" => some .mapper
  | "combiner" => some .combiner
  | "reducer" => some .reducer
  | _ => none

/-- Reads a role. -/
def decode : Json → Except String HandlerKind :=
  Decode.unitVariant [("mapper", .mapper), ("combiner", .combiner), ("reducer", .reducer)]

end HandlerKind

/-- A declared argument of a handler: its name and type. -/
structure ArgumentSpec where
  name : String
  argType : String
  deriving DecidableEq, Repr, Inhabited

namespace ArgumentSpec

/-- The JSON form. -/
def toJson (a : ArgumentSpec) : Json := .obj [("arg_type", .str a.argType), ("name", .str a.name)]

/-- Reads an argument declaration. -/
def decode : Json → Except String ArgumentSpec :=
  Decode.struct "struct ArgumentSpec" 2
    (ArgumentSpec.mk <$> Fields.required "name" 0 Decode.string <*>
      Fields.required "arg_type" 1 Decode.string)

end ArgumentSpec

/-- The version of a handler's source: the hexadecimal SHA-256 digest of its text. -/
def sourceVersion (source : String) : String := Sha256.hexDigestOfString source

/-- The capability that asks for no topic of its own. -/
def capabilityNone : String := "none"

/-- A handler: its source, the kind of source, the version derived from the source, its role and
the capability it requires. -/
structure Handler where
  workflow : String
  name : String
  description : String
  argumentSpec : List ArgumentSpec
  source : String
  sourceType : String
  version : String
  kind : HandlerKind
  requiredCapability : String
  deriving DecidableEq, Repr, Inhabited

namespace Handler

/-- A new handler: no description, the version of its source, no required capability. -/
def new (workflow name : String) (kind : HandlerKind) (args : List ArgumentSpec)
    (source sourceType : String) : Handler :=
  ⟨workflow, name, "", args, source, sourceType, sourceVersion source, kind, capabilityNone⟩

/-- The topic suffix: the trimmed capability, unless it is empty or `none`. -/
def topicSuffix (h : Handler) : Option String := capabilitySuffix h.requiredCapability
where
  /-- The topic suffix of a capability. -/
  capabilitySuffix (cap : String) : Option String :=
    let c := Text.trim cap
    if c.isEmpty || c == capabilityNone then none else some c

end Handler

instance : Entity Handler where
  className := "handler"
  identity h := [h.workflow, h.name]
  presave h :=
    if Text.isBlankText h.sourceType then
      .error (.validation ("Handler [" ++ h.name ++ "] sin tipo de fuente"))
    else .ok { h with version := sourceVersion h.source }
  fields h := [("workflow_name", .str h.workflow), ("handler_name", .str h.name),
    ("description", .str h.description), ("argument_spec", .arr (h.argumentSpec.map (·.toJson))),
    ("source", .str h.source), ("source_type", .str h.sourceType), ("version", .str h.version),
    ("handler_type", .str h.kind.text), ("required_capability", .str h.requiredCapability)]
  decode := Decode.struct "struct Handler" 9
    (Handler.mk <$> Fields.required "workflow_name" 0 Decode.string <*>
      Fields.required "handler_name" 1 Decode.string <*>
      Fields.required "description" 2 Decode.string <*>
      Fields.required "argument_spec" 3 (Decode.list ArgumentSpec.decode) <*>
      Fields.required "source" 4 Decode.string <*>
      Fields.required "source_type" 5 Decode.string <*>
      Fields.withDefault "version" 6 "" Decode.string <*>
      Fields.required "handler_type" 7 HandlerKind.decode <*>
      Fields.required "required_capability" 8 Decode.string)

/-- The bytes hashed for a set of handlers: for each (name, version) pair in sorted order, the
name, a zero byte, the version and a line feed. -/
def handlersStateBytes (pairs : List (String × String)) : Array UInt8 :=
  let sorted := pairs.mergeSort fun a b => a.1 < b.1 || (a.1 == b.1 && a.2 ≤ b.2)
  sorted.foldl (fun acc (n, v) => ((acc ++ n.toUTF8.data).push 0 ++ v.toUTF8.data).push 10) #[]

/-- The state of a workflow's handlers: the digest of their sorted (name, version) pairs, the same
for every order of the handlers. -/
def handlersState (pairs : List (String × String)) : String :=
  Sha256.hexDigest (handlersStateBytes pairs)

/-- A request to run a job. -/
structure Request where
  workflow : String
  id : String
  job : String
  invocation : String
  context : Json := .null
  isBlocking : Bool
  isDone : Bool := false
  failedInvocation : Option String := none
  createdAt : String
  doneAt : Option String := none
  deriving Repr, Inhabited

namespace Request

/-- The request marked done at a time. -/
def markDone (r : Request) (now : String) : Request := { r with isDone := true, doneAt := some now }

/-- The request marked failed at an invocation, and so done. -/
def markFailed (r : Request) (invocation : String) (now : String) : Request :=
  { r with failedInvocation := some invocation }.markDone now

/-- Whether the request failed. -/
def isFailed (r : Request) : Bool := r.failedInvocation.isSome

end Request

instance : Entity Request where
  className := "request"
  identity r := [r.workflow, r.id]
  presave r := .ok r
  fields r := [("workflow_name", .str r.workflow), ("request_id", .str r.id),
    ("job_name", .str r.job), ("invocation_id", .str r.invocation), ("context", r.context),
    ("is_blocking", .bool r.isBlocking), ("is_done", .bool r.isDone),
    ("failed_invocation_id", Json.optStr r.failedInvocation), ("created_at", .str r.createdAt),
    ("done_at", Json.optStr r.doneAt)]
  decode := Decode.struct "struct Request" 10
    (Request.mk <$> Fields.required "workflow_name" 0 Decode.string <*>
      Fields.required "request_id" 1 Decode.string <*>
      Fields.required "job_name" 2 Decode.string <*>
      Fields.required "invocation_id" 3 Decode.string <*>
      Fields.withDefault "context" 4 .null .ok <*>
      Fields.required "is_blocking" 5 Decode.bool <*>
      Fields.required "is_done" 6 Decode.bool <*>
      Fields.withDefault "failed_invocation_id" 7 none (Decode.option Decode.string) <*>
      Fields.required "created_at" 8 Decode.timestamp <*>
      Fields.withDefault "done_at" 9 none (Decode.option Decode.timestamp))

/-- One node of the graph of invocations. -/
structure Invocation where
  workflow : String
  id : String
  parent : Option String := none
  step : String
  direction : Direction
  fanOut : FanOut := .leaf
  error : Option String := none
  createdAt : String
  deriving DecidableEq, Repr, Inhabited

namespace Invocation

/-- Publishes the fan-out once, with `count` children all waiting; never with none. -/
def setFanOut (inv : Invocation) (count : Nat) : Except DomainError Invocation :=
  if count = 0 then .error (.validation ("Invocación [" ++ inv.id ++ "]: fan-out de cero hijos"))
  else match inv.fanOut with
    | .fannedOut _ _ =>
      .error (.validation ("Invocación [" ++ inv.id ++ "]: el fan-out ya estaba fijado"))
    | .leaf => .ok { inv with fanOut := .fannedOut count count }

/-- Counts one child as reduced; answers how many still wait. -/
def decrementWaiting (inv : Invocation) : Except DomainError (Nat × Invocation) :=
  match inv.fanOut with
  | .fannedOut c (w + 1) => .ok (w, { inv with fanOut := .fannedOut c w })
  | .fannedOut _ 0 =>
    .error (.validation ("Invocación [" ++ inv.id ++ "]: contador de espera ya en cero"))
  | .leaf =>
    .error (.validation ("Invocación [" ++ inv.id ++ "]: no tiene fan-out que decrementar"))

/-- Whether the invocation has fanned out. -/
def isFannedOut (inv : Invocation) : Bool :=
  match inv.fanOut with
  | .fannedOut _ _ => true
  | .leaf => false

end Invocation

instance : Entity Invocation where
  className := "invocation"
  identity i := [i.workflow, i.id]
  presave i := .ok i
  fields i := [("workflow_name", .str i.workflow), ("invocation_id", .str i.id),
    ("parent_invocation_id", Json.optStr i.parent), ("step_name", .str i.step),
    ("direction", .str i.direction.text), ("fan_out", i.fanOut.toJson),
    ("error", Json.optStr i.error), ("created_at", .str i.createdAt)]
  decode := Decode.struct "struct Invocation" 8
    (Invocation.mk <$> Fields.required "workflow_name" 0 Decode.string <*>
      Fields.required "invocation_id" 1 Decode.string <*>
      Fields.withDefault "parent_invocation_id" 2 none (Decode.option Decode.string) <*>
      Fields.required "step_name" 3 Decode.string <*>
      Fields.required "direction" 4 Direction.decode <*>
      Fields.withDefault "fan_out" 5 .leaf FanOut.decode <*>
      Fields.withDefault "error" 6 none (Decode.option Decode.string) <*>
      Fields.required "created_at" 7 Decode.timestamp)

end MapReduce
