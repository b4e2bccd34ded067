import MapReduce.Console.Store

/-! Entity scripts: the six entities and the collections kept beside them, run on a store. Entities
are shown without their times, since those are the clock's, and with whether a request is done.
A change command edits an entity through an atomic update, and rival writes between the read and
the write make the update retry. -/

namespace MapReduce

namespace Console

/-- An entity shown without its times: `created_at`, `claimed_at` and `queued_at` removed,
`done_at` as whether it is set. -/
def stripTimes (j : Json) : Json :=
  match j with
  | .obj kvs =>
    let kvs := kvs.filter fun (k, _) => k != "created_at" && k != "claimed_at" && k != "queued_at"
    .obj (kvs.map fun (k, v) => if k == "done_at" then (k, .bool !v.isNull) else (k, v))
  | v => v

/-- A stored entity: its version and its data without times. -/
def recordJson {α : Type} [Entity α] (r : Record α) : Json :=
  obj [("version", (r.version.map Json.nat).getD .null), ("data", stripTimes (Entity.toJson r.data))]

/-- The reply to a domain result. -/
def domAnswer {α : Type} (r : Except DomainError α) (f : α → Json) : Json :=
  match r with
  | .ok a => okReply (f a)
  | .error e => domainErrorReply e

/-- The entity data of a command, with the clock's time as the creation time of a request or an
invocation that gives none. -/
def dataOf (cls : String) (st : Json) : Json :=
  let d := (field st "data").getD .null
  if (cls == "request" || cls == "invocation") && (d.get? "created_at").isNone then
    d.set "created_at" (.str defaultTime)
  else d

/-- Entities that a command can change: a change is an object naming one edit to make, the
first of the edits it names in a fixed order for each class, or a failure to report instead. -/
class Mutable (α : Type) where
  mutate : Json → α → Except DomainError α

/-- The failure a change asks for, or the edits. -/
def failOr {α : Type} (m : Json) (k : Unit → Except DomainError α) : Except DomainError α :=
  match strField? m "fail" with
  | some msg => .error (.validation msg)
  | none => k ()

/-- A string, or none for anything else. -/
def optStrOf (j : Json) : Option String := j.getStr?

instance : Mutable Invocation where
  mutate m inv := failOr m fun _ =>
    match (field m "set_fan_out").bind Json.getNat?, field m "decrement", field m "set_error" with
    | some n, _, _ => inv.setFanOut n
    | none, some _, _ => (inv.decrementWaiting).map (·.2)
    | none, none, some e => .ok { inv with error := optStrOf e }
    | none, none, none => .ok inv

instance : Mutable Request where
  mutate m r := failOr m fun _ =>
    match field m "mark_done", strField? m "mark_failed" with
    | some _, _ => .ok (r.markDone defaultTime)
    | none, some i => .ok (r.markFailed i defaultTime)
    | none, none => .ok r

instance : Mutable Workflow where
  mutate m w := failOr m fun _ =>
    match field m "set_state", strField? m "set_description" with
    | some s, _ => .ok { w with handlersState := optStrOf s }
    | none, some d => .ok { w with description := d }
    | none, none => .ok w

instance : Mutable Handler where
  mutate m h := failOr m fun _ =>
    match strField? m "set_source", strField? m "set_source_type" with
    | some s, _ => .ok { h with source := s }
    | none, some t => .ok { h with sourceType := t }
    | none, none => .ok h

instance : Mutable Step where
  mutate m s := failOr m fun _ =>
    match field m "set_reduce", field m "set_combine" with
    | some r, _ => .ok { s with reduceHandler := optStrOf r }
    | none, some c => .ok { s with combineHandler := optStrOf c }
    | none, none => .ok s

instance : Mutable Job where
  mutate m j := failOr m fun _ =>
    match strField? m "set_initial" with
    | some i => .ok { j with initialStep := i }
    | none => .ok j

/-- Runs a domain computation on a store. -/
def runDom {α : Type} (s : Store) (m : DomainM α) : Except DomainError α × Store := m.run s

/-- Entity data decoded, a failure counting as a serialization failure. -/
def decodeData {α : Type} [Entity α] (d : Json) : Except DomainError α :=
  match Entity.decode d with
  | .ok x => .ok x
  | .error e => .error (.serialization e)

/-- The commands on entities of one class: create, save, load, refresh, delete, list, watch, the
entity's key, an atomic update against a number of rival writes, and checks of what a failure
was. -/
def entityStep (α : Type) [Entity α] [Mutable α] (maxAttempts : Nat) (cls : String) (s : Store)
    (st : Json) : Answer (Json × Store) := do
  let d ← reqStr st "do"
  let versionOpt := (field st "version").bind Json.getNat?
  match d with
  | "create" =>
    match decodeData (α := α) (dataOf cls st) with
    | .error e => .ok (domainErrorReply e, s)
    | .ok x =>
      let (r, s) := runDom s (EntityStore.create x)
      .ok (domAnswer r recordJson, s)
  | "save" =>
    match decodeData (α := α) (dataOf cls st) with
    | .error e => .ok (domainErrorReply e, s)
    | .ok x =>
      let (r, s) := runDom s (EntityStore.save ⟨x, versionOpt⟩)
      .ok (domAnswer r recordJson, s)
  | "load" =>
    let idn ← reqStrList st "identity"
    let (r, s) := runDom s (EntityStore.load α idn)
    .ok (domAnswer r recordJson, s)
  | "try_load" =>
    let idn ← reqStrList st "identity"
    let (r, s) := runDom s (EntityStore.tryLoad α idn)
    .ok (domAnswer r fun o => (o.map recordJson).getD .null, s)
  | "refresh" =>
    match decodeData (α := α) (dataOf cls st) with
    | .error e => .ok (domainErrorReply e, s)
    | .ok x =>
      let (r, s) := runDom s (EntityStore.refresh ⟨x, versionOpt⟩)
      .ok (domAnswer r recordJson, s)
  | "delete" =>
    let idn ← reqStrList st "identity"
    let (r, s) := runDom s (EntityStore.delete α idn)
    .ok (domAnswer r fun _ => .null, s)
  | "list" =>
    let parent ← reqStrList st "parent"
    let (r, s) := runDom s (EntityStore.list α parent)
    .ok (domAnswer r fun rs => .arr (Json.sortByText (rs.map recordJson)), s)
  | "watch" =>
    let idn ← reqStrList st "identity"
    let since := (field st "since").bind Json.getNat?
    let (r, s) := runDom s (EntityStore.watch α idn since)
    .ok (domAnswer r recordJson, s)
  | "entity_key" =>
    let idn ← reqStrList st "identity"
    .ok (match (EntityStore.entityKey α idn).encode with
      | .ok p => okReply (.str p)
      | .error e => kvErrorReply e, s)
  | "atomic_update" =>
    let idn ← reqStrList st "identity"
    let m := (field st "mutate").getD (.obj [])
    let conflicts := ((field st "conflicts").bind Json.getNat?).getD 0
    let key := EntityStore.entityKey α idn
    let mutate : Nat → α → DomainM (α × Unit) := fun k x => do
      if k ≤ conflicts then
        let _ ← liftKv (Kv.set key (Entity.toText x))
      let y ← liftDomain (Mutable.mutate m x)
      pure (y, ())
    let ((r, calls), s) := (EntityStore.atomicUpdateCounting maxAttempts idn mutate).run s
    .ok (match r with
      | .ok (rec, ()) => okReply (obj [("record", recordJson rec), ("calls", .nat calls)])
      | .error e => (domainErrorReply e).set "calls" (.nat calls), s)
  | "check" =>
    let action ← reqStr st "action"
    let res : Answer (Except DomainError (Option Nat) × Store) := match action with
      | "save" => match decodeData (α := α) (dataOf cls st) with
        | .error e => .ok (.error e, s)
        | .ok x => .ok (runDom s (do let r ← EntityStore.save ⟨x, versionOpt⟩; pure r.version))
      | "load" => do
        let idn ← reqStrList st "identity"
        .ok (runDom s (do let r ← EntityStore.load α idn; pure r.version))
      | "delete" => do
        let idn ← reqStrList st "identity"
        .ok (runDom s (do EntityStore.delete α idn; pure none))
      | _ => .error (.malformed "unknown check action")
    match res with
    | .error (.malformed m) => .ok (malformedReply m, s)
    | .error e => .error e
    | .ok (r, s) =>
      .ok (match r with
        | .ok v => okReply (obj [("ok", .bool true), ("version", (v.map Json.nat).getD .null)])
        | .error e => okReply (obj [("ok", .bool false), ("not_found", .bool e.isNotFound),
            ("precondition_failed", .bool e.isPreconditionFailed),
            ("already_exists", .bool e.isAlreadyExists)]), s)
  | "persisted" =>
    match decodeData (α := α) (dataOf cls st) with
    | .error e => .ok (domainErrorReply e, s)
    | .ok x => .ok (okReply (.bool (Record.isPersisted (⟨x, versionOpt⟩ : Record α))), s)
  | _ => .ok (malformedReply "unknown domain step", s)

/-- The dataset a command names. -/
def datasetOf (st : Json) : Answer Dataset := do
  let kind ← reqStr st "kind"
  match DatasetKind.ofText? kind with
  | some k => .ok ⟨strOr st "workflow" "wf", ← reqStr st "invocation", k⟩
  | none => .error (.malformed "unknown dataset kind")

/-- The relations a command names. -/
def relationsOf (st : Json) : Answer Relations := do
  let kind ← reqStr st "kind"
  match RelationKind.ofText? kind with
  | some k => .ok ⟨strOr st "workflow" "wf", ← reqStr st "from", k⟩
  | none => .error (.malformed "unknown relation kind")

/-- Runs one command on the entities and collections of a store. -/
def domainStep (maxAttempts : Nat) (s : Store) (st : Json) : Answer (Json × Store) := do
  let d ← reqStr st "do"
  let wf := strOr st "workflow" "wf"
  let unit (m : DomainM Unit) : Answer (Json × Store) :=
    let (r, s) := runDom s m
    .ok (domAnswer r fun _ => .null, s)
  match d with
  | "dataset_add" => unit ((← datasetOf st).add ((field st "record").getD .null))
  | "dataset_list" =>
    let (r, s) := runDom s (← datasetOf st).list
    .ok (domAnswer r Json.arr, s)
  | "dataset_list_pairs" =>
    let (r, s) := runDom s (← datasetOf st).pairs
    .ok (domAnswer r fun ps => .arr (ps.map pairJson), s)
  | "dataset_list_groups" =>
    let (r, s) := runDom s (← datasetOf st).groups
    .ok (domAnswer r fun gs => .arr (gs.map Group.toJson), s)
  | "dataset_delete" => unit (← datasetOf st).delete
  | "dataset_kind" =>
    let ds ← datasetOf st
    .ok (okReply (obj [("kind", .str ds.kind.text), ("display", .str ds.kind.text)]), s)
  | "rel_add" => unit ((← relationsOf st).add (← reqStr st "to") (field st "metadata"))
  | "rel_list" =>
    let (r, s) := runDom s (← relationsOf st).targets
    .ok (domAnswer r fun ts => .arr ((ts.mergeSort (· ≤ ·)).map Json.str), s)
  | "rel_list_data" =>
    let (r, s) := runDom s (← relationsOf st).targetsWithData
    .ok (domAnswer r fun ts => .arr (Json.sortByText (ts.map fun (t, m) => Json.arr [.str t, m])), s)
  | "rel_delete" => unit (← relationsOf st).delete
  | "rel_kind" =>
    let rl ← relationsOf st
    .ok (okReply (obj [("kind", .str rl.kind.text), ("display", .str rl.kind.text)]), s)
  | "session_get" =>
    let (r, s) := runDom s ((Session.mk wf (← reqStr st "invocation")).get (← reqStr st "name"))
    .ok (domAnswer r fun o => o.getD .null, s)
  | "session_set" =>
    unit ((Session.mk wf (← reqStr st "invocation")).set (← reqStr st "name") (valueOf st))
  | "session_list" =>
    let (r, s) := runDom s (Session.mk wf (← reqStr st "invocation")).list
    .ok (domAnswer r fun ts => .arr (Json.sortByText (ts.map fun (t, m) => Json.arr [.str t, m])), s)
  | "session_delete" => unit (Session.mk wf (← reqStr st "invocation")).delete
  | "claim" =>
    let dir ← reqStr st "direction"
    let dir ← match Direction.ofText? dir with
      | some d => .ok d
      | none => .error (.malformed "direction must be map or reduce")
    let (r, s) := runDom s ((Claims.mk wf (← reqStr st "invocation")).claim dir defaultTime)
    .ok (domAnswer r Json.bool, s)
  | "claim_delete" => unit (Claims.mk wf (← reqStr st "invocation")).delete
  | "cleanup_add" => unit ((CleanupQueue.mk wf).add (← reqStr st "request") defaultTime)
  | "cleanup_list" =>
    let (r, s) := runDom s (CleanupQueue.mk wf).list
    .ok (domAnswer r fun es => .arr (es.map fun (n, e) => Json.arr [.str n, .str e.request]), s)
  | "cleanup_remove" => unit ((CleanupQueue.mk wf).remove (← reqStr st "key"))
  | "keys" =>
    match s.backend with
    | .memory m =>
      let key ← keyOf st "prefix"
      .ok (kvAnswer (m.dump key) fun items => .arr (items.map fun (p, _) => Json.str p), s)
    | _ => .ok (malformedReply "step needs the memory backend", s)
  | "max_attempts" => .ok (okReply (.nat maxAttempts), s)
  | _ =>
    match strField? st "class" with
    | some "workflow" => entityStep Workflow maxAttempts "workflow" s st
    | some "job" => entityStep Job maxAttempts "job" s st
    | some "step" => entityStep Step maxAttempts "step" s st
    | some "handler" => entityStep Handler maxAttempts "handler" s st
    | some "request" => entityStep Request maxAttempts "request" s st
    | some "invocation" => entityStep Invocation maxAttempts "invocation" s st
    | _ => .ok (malformedReply "unknown entity class", s)

/-- Runs a script of entity commands on the store it asks for, with the retry ceiling it asks for
between 1 and 50. -/
def runDomainScript (input : Json) : Answer Json := do
  match ← openStore input with
  | .error ans => .ok ans
  | .ok s =>
    let ma := max 1 (min 50 (((field input "max_attempts").bind Json.getNat?).getD 5))
    let (outs, _) ← runSteps (domainStep ma) s (← reqArr input "steps")
    .ok (okReply (obj [("max_attempts", .nat ma), ("steps", .arr outs)]))

end Console

end MapReduce
