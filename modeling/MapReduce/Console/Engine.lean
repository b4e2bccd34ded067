import MapReduce.Console.Simulation

/-! Engine scripts: commands that define workflows, submit requests, deliver, drop and redeliver
messages, and look into the store, run on a simulated deployment. After every command the
broker's new messages join the pending ones and new ids get their names, and the reply shows ids by
name. -/

namespace MapReduce

namespace Console

namespace Simulation

/-- The reply to an engine computation run on the simulation. -/
def reply {α : Type} (s : Simulation) (m : EngineM α) (f : α → Json) : Answer (Json × Simulation) := do
  let (r, s) := s.run m
  .ok (← faultAnswer r f, s)

/-- The pairs a command gives as arguments, as given: they hold no ids. -/
def argsOf (st : Json) : List Pair := pairsOf st "args"

/-- The handler a command describes. -/
def handlerOf (wf name : String) (kind : HandlerKind) (spec : List ArgumentSpec) (st : Json) : Handler :=
  let h := Handler.new wf name kind spec (strOr st "source" name) (strOr st "source_type" "native")
  let h := match strField? st "capability" with
    | some c => { h with requiredCapability := c }
    | none => h
  { h with description := strOr st "description" "" }

/-- The arguments the runner of a handler checks: those a command gives for it, or the handler's. -/
def runnerSpecOf (st : Json) (spec : List ArgumentSpec) : List ArgumentSpec :=
  match field st "runner_args" with
  | some _ => specOf st "runner_args"
  | none => spec

/-- The pending message a command points at, its index taken modulo their number. -/
def pendingAt (s : Simulation) (st : Json) : Answer (Option (Nat × Delivery)) := do
  let i ← reqNat st "index"
  if s.pending.isEmpty then return none
  let k := i % s.pending.length
  .ok ((s.pending[k]?).map fun d => (k, d))

/-- Commands that look into the store and the world. -/
def inspectStep (s : Simulation) (d wf : String) (st : Json) : Answer (Json × Simulation) := do
  let e := s.engine
  match d with
  | "dataset" =>
    let ds ← datasetOf st
    let ds := { ds with invocation := s.idOf ds.invocation }
    s.reply (EngineM.domain ds.list) fun rs =>
      if ds.kind == .postReduce then s.recordsJson rs else .arr rs
  | "delete_dataset" =>
    let ds ← datasetOf st
    s.reply (EngineM.domain { ds with invocation := s.idOf ds.invocation }.delete) fun _ => .null
  | "edges" =>
    let k ← match RelationKind.ofText? (← reqStr st "kind") with
      | some k => .ok k
      | none => .error (.malformed "unknown relation kind")
    s.reply (EngineM.domain (Relations.mk wf (s.idOf (← reqStr st "invocation")) k).targetsWithData)
      fun ts => .arr (Json.sortByText (ts.map fun (t, m) => s.showJson (.arr [.str t, m])))
  | "session_get" =>
    s.reply (EngineM.domain ((Session.mk wf (s.idOf (← reqStr st "invocation"))).get (← reqStr st "name")))
      fun v => v.getD .null
  | "session_set" =>
    s.reply (EngineM.domain ((Session.mk wf (s.idOf (← reqStr st "invocation"))).set (← reqStr st "name")
      (valueOf st))) fun _ => .null
  | "graph" =>
    let root ← s.graphRoot st wf
    s.reply (do invocationGraph wf (← root)) s.graphJson
  | "graph_query" =>
    let root ← s.graphRoot st wf
    let node := s.idOf (← reqStr st "node")
    let k ← match RelationKind.ofText? (strOr st "kind" "mapped") with
      | some k => .ok k
      | none => .error (.malformed "unknown relation kind")
    s.reply (do invocationGraph wf (← root)) fun g =>
      obj [("found", .bool (g.node? node).isSome),
        ("children", .arr (((g.childrenOf node k).map s.display).mergeSort (· ≤ ·) |>.map Json.str))]
  | "cleanup_pass" => s.reply (e.cleanupPass (boolOr st "simulate" false) wf) s.reportJson
  | "prune" =>
    s.reply (Engine.pruneRequest (boolOr st "simulate" false) wf (s.idOf (← reqStr st "request"))) s.reportJson
  | "schedule_cleanup" => s.reply (e.scheduleCleanup wf (s.idOf (← reqStr st "request"))) Json.bool
  | "cleanup_queue" =>
    s.reply (EngineM.domain (CleanupQueue.mk wf).list) fun es => .arr (es.map fun (_, x) => Json.str x.request)
  | "conflicts" =>
    let cls ← classOf st
    let count ← reqNat st "count"
    let patch := match field st "patch" with
      | some (.obj kvs) => kvs
      | _ => []
    let rival : Rival := ⟨cls, count, patch⟩
    let rivals := s.world.store.rivals.filter (·.entityClass != cls) ++ [rival]
    .ok (okReply .null, { s with world := { s.world with store := { s.world.store with rivals } } })
  | "keys" =>
    if !s.memory then return (malformedReply "step needs the memory backend", s)
    let segments ← reqStrList st "prefix"
    match (Identity.ofList (segments.map s.idOf)).encode with
    | .error err => .ok (engineErrorReply (.kv err), s)
    | .ok root => .ok (okReply (s.keysJson root), s)
  | "topics" => .ok (okReply (.arr (s.world.broker.topics.map Json.str)), s)
  | "events" => .ok (okReply (.arr (s.world.events.map fun (a, b) => Json.arr [.str a, .str b])), s)
  | "rendered" => .ok (okReply s.renderedJson, s)
  | "request_failed" =>
    s.reply (Engine.load Request [wf, s.idOf (← reqStr st "request")]) fun r => .bool r.data.isFailed
  | "store_len" =>
    if !s.memory then return (malformedReply "step needs the memory backend", s)
    .ok (okReply (.nat s.world.store.backend.paths.length), s)
  | _ => .ok (malformedReply "unknown engine step", s)

/-- Commands on messages: delivering, dropping and redelivering them, and handling one directly. -/
def messageStep (s : Simulation) (d wf : String) (st : Json) : Answer (Json × Simulation) := do
  let e := s.engine
  match d with
  | "close_broker" =>
    if s.world.broker.isOpen then
      let (msgs, b) := s.world.broker.close
      .ok (okReply (.bool true), { s with pending := s.pending ++ msgs, world := { s.world with broker := b } })
    else .ok (okReply (.bool false), s)
  | "drain" =>
    let limit := ((field st "limit").bind Json.getNat?).getD processingLimit
    let (log, s) := s.processPending limit
    .ok (okReply (.arr (← processLog log)), s)
  | "dispatch" =>
    if !s.world.broker.isOpen then return (malformedReply "broker closed", s)
    let (log, s) := s.processPending processingLimit
    let st := DispatchStats.ofProcessed log
    .ok (okReply (obj [("received", .nat st.received), ("processed", .nat st.processed),
      ("duplicates", .nat st.duplicates), ("abandoned", .nat st.abandoned), ("failed", .nat st.failed)]), s)
  | "process_at" =>
    match ← s.pendingAt st with
    | none => .ok (malformedReply "no message at index", s)
    | some (k, msg) =>
      let (j, s) ← { s with pending := s.pending.eraseIdx k }.processOne msg
      .ok (okReply j, s)
  | "drop_at" =>
    let k ← reqNat st "index"
    match s.pending[k]? with
    | none => .ok (malformedReply "no message at index", s)
    | some msg => .ok (okReply (.str msg.topic), { s with pending := s.pending.eraseIdx k })
  | "pending" =>
    .ok (okReply (.arr (s.pending.map fun msg =>
      match classify msg.body with
      | .ok (dir, m) => Json.arr [.str msg.topic, .str dir.text, .str m.invocation, .str m.step]
      | .error _ => Json.arr [.str msg.topic])), s)
  | "redeliver" =>
    match s.last with
    | none => .ok (malformedReply "nothing delivered yet", s)
    | some msg =>
      let (j, s) ← s.processOne msg
      .ok (okReply j, s)
  | "raw" =>
    let body := match field st "body" with
      | some (.str b) => b
      | some v => Json.write (s.resolveJson v)
      | none => ""
    s.reply (e.handleRaw body) outcomeJson
  | "handle" =>
    let dir ← directionOf (← reqStr st "class")
    let m : WireMessage := ⟨((field st "format_version").bind Json.getNat?).getD 1, wf,
      s.idOf (← reqStr st "request"), s.idOf (← reqStr st "invocation"), ← reqStr st "step"⟩
    s.reply (e.handle dir m) outcomeJson
  | "inflate" =>
    let m : WireMessage := ⟨1, wf, s.idOf (← reqStr st "request"), s.idOf (← reqStr st "invocation"),
      ← reqStr st "step"⟩
    s.reply (Engine.inflate m) fun c =>
      obj [("workflow", .str c.workflow.name), ("request", .str c.request.data.id),
        ("invocation", .str c.invocation.data.id), ("direction", .str c.invocation.data.direction.text),
        ("job", .str c.job.name), ("step", .str c.step.name),
        ("handler", (c.handler.map fun h => Json.str h.name).getD .null),
        ("deflated", Json.mkObj c.deflate.fields),
        ("request_version_set", .bool c.request.version.isSome)]
  | "decrement" => s.reply (e.decrementParent wf (s.idOf (← reqStr st "invocation"))) Json.bool
  | "queue_reduce" =>
    let req := s.idOf (← reqStr st "request")
    let inv := s.idOf (← reqStr st "invocation")
    s.reply (do
      let target ← Engine.load Invocation [wf, inv]
      e.queueReduce req target.data) fun r => .str r.id
  | _ => s.inspectStep d wf st

/-- Submits a request in the background: packages and pushes it with an engine that waits two
seconds, or without end, then processes every pending message, then waits for the result. -/
def submitInBackground (s : Simulation) (wf : String) (st : Json) : Answer (Json × Simulation) := do
  let e := s.engine
  if !s.world.broker.isOpen then return (malformedReply "broker closed", s)
  let job ← reqStr st "job"
  let waiting : Option Nat := if boolOr st "no_timeout" false then none else some 2000000000
  let bg : Engine := { e with config := { e.config with waitTimeout := waiting } }
  let (r1, s) := s.run (do
    let p ← bg.packageRequest wf job (argsOf st) ((field st "context").getD (.obj [])) true
    bg.pushRequest p
    pure p)
  let (log, s) := s.processPending processingLimit
  let processed ← processLog log
  let (outcome, s) ← match r1 with
    | .error (.error err) => .ok (engineErrorReply err, s)
    | .error .abort => .error .abort
    | .ok p =>
      let (r2, s) := s.run (bg.awaitResult p)
      match r2 with
      | .ok o => .ok (s.submitOutcomeJson o, s)
      | .error (.error err) => .ok (engineErrorReply err, s)
      | .error .abort => .error .abort
  .ok (okReply (obj [("outcome", outcome), ("processed", .arr processed)]), s)

/-- Commands on requests and entities. -/
def requestStep (s : Simulation) (d wf : String) (st : Json) : Answer (Json × Simulation) := do
  let e := s.engine
  match d with
  | "submit" =>
    let job ← reqStr st "job"
    let context := (field st "context").getD (.obj [])
    let (r, s) := s.run (e.packageRequest wf job (argsOf st) context (boolOr st "blocking" true))
    match r with
    | .error f => .ok (← faultAnswer (α := Unit) (.error f) fun _ => .null, s)
    | .ok p =>
      let s := { s with packaged := s.packaged ++ [(p.request.data.id, p)] }
      let (pushed, s) : Json × Simulation :=
        if boolOr st "push" true then
          let (r, s) := s.run (e.pushRequest p)
          match r with
          | .ok () => (.bool true, s)
          | .error (.error err) => (engineErrorReply err, s)
          | .error .abort => (.null, s)
        else (.null, s)
      .ok (okReply (obj [("request", .str p.request.data.id), ("root", .str p.invocation.id),
        ("handler", .str p.handler.name), ("pushed", pushed)]), s)
  | "submit_call" =>
    s.reply (e.submit wf (← reqStr st "job") (argsOf st) ((field st "context").getD (.obj []))
      (boolOr st "blocking" false)) s.submitOutcomeJson
  | "push" =>
    let p ← s.packagedOf st
    s.reply (e.pushRequest p) fun _ => .null
  | "submit_bg" => s.submitInBackground wf st
  | "block" =>
    let p ← s.packagedOf st
    s.reply (e.blockForResult p) fun c =>
      obj [("request", entityJson c.request), ("pairs", s.pairsJson c.pairs)]
  | "put_invocation" =>
    let data := obj [("data", (field st "data").getD .null)]
    match decodeData (α := Invocation) (dataOf "invocation" data) with
    | .error err => .ok (domainErrorReply err, s)
    | .ok inv => s.reply (EngineM.domain (EntityStore.create inv)) fun r => entityJson r.data
  | "request" => s.reply (Engine.load Request [wf, s.idOf (← reqStr st "request")]) fun r => entityJson r.data
  | "invocation" =>
    s.reply (Engine.load Invocation [wf, s.idOf (← reqStr st "invocation")]) fun r => entityJson r.data
  | "load" =>
    let idn := (← reqStrList st "identity").map s.idOf
    s.reply (← loadEntityJson (← classOf st) idn) id
  | "delete_entity" =>
    let idn := (← reqStrList st "identity").map s.idOf
    s.reply (← deleteEntity (← classOf st) idn) fun _ => .null
  | _ => s.messageStep d wf st

/-- Runs one command: defining workflows and handlers first, then the other kinds. -/
def step (s : Simulation) (st : Json) : Answer (Json × Simulation) := do
  let d ← reqStr st "do"
  let wf := strOr st "workflow" "wf"
  let e := s.engine
  match d with
  | "create_workflow" => s.reply (Engine.createWorkflow wf (strOr st "description" "")) recordJson
  | "handler" | "save_handler" =>
    let name ← reqStr st "name"
    let kind := (HandlerKind.ofText? (strOr st "type" "mapper")).getD .mapper
    let spec := specOf st "args"
    let runnerSpec := runnerSpecOf st spec
    let s := match field st "behavior" with
      | some b => (s.run (Engine.register wf name ⟨runnerSpec, Script.ofJson b⟩)).2
      | none => s
    if boolOr st "entity" true then s.reply (e.saveHandler (handlerOf wf name kind spec st)) recordJson
    else .ok (okReply .null, s)
  | "register" =>
    let name ← reqStr st "name"
    let runnerSpec := runnerSpecOf st (specOf st "args")
    s.reply (Engine.register wf name ⟨runnerSpec, Script.ofJson ((field st "behavior").getD .null)⟩)
      fun _ => .null
  | "unregister" => s.reply (Engine.unregister wf (← reqStr st "name")) Json.bool
  | "registered" => s.reply (Engine.isRegistered wf (← reqStr st "name")) Json.bool
  | "delete_handler" => s.reply (e.deleteHandler wf (← reqStr st "name")) fun _ => .null
  | "refresh_state" => s.reply (e.refreshHandlersState wf) Json.str
  | "create_step" =>
    let step : Step := ⟨wf, ← reqStr st "name", strOr st "description" "", strOr st "map" "",
      strField? st "combine", strField? st "reduce"⟩
    s.reply (Engine.createStep step) recordJson
  | "create_job" =>
    let job : Job := ⟨wf, ← reqStr st "name", strOr st "description" "", strOr st "initial" ""⟩
    s.reply (Engine.createJob job) recordJson
  | _ => s.requestStep d wf st

/-- The quiet period a script asks for, in seconds: a negative or too long one counts as none. -/
def quietOf (c : Json) : Nat :=
  match field c "quiet_s" with
  | some (.num n) =>
    let x := n.toBinary64
    if x.neg && !x.isZero then 0
    else match secondsToNanos x with
      | some ns => if ns < Nat.pow 10 27 then ns else 0
      | none => 0
  | _ => 0

/-- The engine a script asks for and its first world. The engine reads the fixed clock, works
below a scratch directory, handles one message at a time, waits at most 30 ms and retries at most
50 times. A result writer that writes below a plain file cannot write at all. -/
def start (input : Json) (store : Store) : Simulation :=
  let c := (field input "config").getD (.obj [])
  let num (name : String) : Option Nat := (field c name).bind Json.getNat?
  let writerName := strOr c "writer" "inline"
  let config : EngineConfig := {
    maxAttempts := max 1 (min 50 ((num "attempts").getD 5))
    maxInFlight := 1
    waitTimeout := some (min 30 ((num "wait_ms").getD 5) * 1000000)
    mapTemplate := strOr c "map_template" defaultMapTemplate
    reduceTemplate := strOr c "reduce_template" defaultReduceTemplate
    cleanupRequests := boolOr c "cleanup" true
    cleanupBatch := max 1 ((num "batch").getD 1000)
    quietPeriod := quietOf c
    fence := boolOr c "fence" true
    fileRoot := "scratch/files" }
  let writer : ResultWriter := match writerName with
    | "file" => .file "scratch/results"
    | "file_broken" => .file "scratch/blocker/results"
    | _ => .inline
  let dirs : List (List String × FileEntry) := [(["scratch"], .dir), (["scratch", "files"], .dir)]
  let files : FileSystem := match writerName with
    | "file_broken" => ⟨dirs ++ [(["scratch", "blocker"], .file "")]⟩
    | _ => ⟨dirs⟩
  let notifier : Notifier := if boolOr c "log_notifier" false then .logging else .recording
  { engine := ⟨config, notifier, writer, defaultTime⟩, world := { store, files },
    deep := strOr input "canon" "" == "deep", memory := isMemory store }

/-- Runs one command and then takes in the broker's new messages and names the new ids; the reply
shows ids by name. -/
def advance (s : Simulation) (st : Json) : Answer (Json × Simulation) := do
  let (o, s) ← s.step st
  let s := s.collect.nameNewIds
  .ok (s.showJson o, s)

end Simulation

/-- Runs a script of engine commands on a simulation over the store it asks for. -/
def runEngineScript (input : Json) : Answer Json := do
  match ← openStore input with
  | .error ans => .ok ans
  | .ok store =>
    let (outs, _) ← runSteps Simulation.advance (Simulation.start input store) (← reqArr input "steps")
    .ok (okReply (.arr outs))

end Console

end MapReduce
