import MapReduce.Domain.Store
import MapReduce.Data.KeyOrder

/-! The collections that accompany invocations: datasets (ordered queues of records), relations
between invocations, sessions (named values of an invocation), claims (the marks that an
invocation's work has started) and the queue of requests waiting to be cleaned up. -/

namespace MapReduce

/-- The kind of a dataset of an invocation. -/
inductive DatasetKind where
  | arguments
  | postCombine
  | postReduce
  deriving DecidableEq, Repr, Inhabited

namespace DatasetKind

/-- All kinds, in order. -/
def all : List DatasetKind := [.arguments, .postCombine, .postReduce]

/-- The name of a kind. -/
def text : DatasetKind → String
  | .arguments => "arguments"
  | .postCombine => "post_combine"
  | .postReduce => "post_reduce"

/-- The kind of a name. -/
def ofText? : String → Option DatasetKind
  | "arguments" => some .arguments
  | "post_combine" => some .postCombine
  | "post_reduce" => some .postReduce
  | _ => none

end DatasetKind

/-- A dataset: the ordered queue `queues/dataset/<wf>/<invocation>/<kind>`. -/
structure Dataset where
  workflow : String
  invocation : String
  kind : DatasetKind
  deriving DecidableEq, Repr, Inhabited

namespace Dataset

/-- The queue holding the dataset. -/
def queue (d : Dataset) : Queue :=
  Queue.ofIdentity ⟨["dataset", d.workflow, d.invocation, d.kind.text]⟩

/-- Appends a record. -/
def add (d : Dataset) (record : Json) : DomainM Unit := do
  let _ ← liftKv (d.queue.add record)
  pure ()

/-- The records in the order they were added. -/
def list (d : Dataset) : DomainM (List Json) := liftKv d.queue.list

/-- Reads records of a shape, in order; the first that does not read fails. -/
def listAs {α : Type} (d : Dataset) (dec : Json → Except String α) : DomainM (List α) := do
  let items ← d.list
  liftKv (Kv.liftExcept (items.mapM fun j =>
    match dec j with
    | .ok a => .ok a
    | .error e => .error (.encoding e)))

/-- The pairs of `{"p": [k, v]}` records. -/
def pairs (d : Dataset) : DomainM (List Pair) := d.listAs decodePairRecord

/-- The groups of `{"k": key, "vl": values}` records. -/
def groups (d : Dataset) : DomainM (List Group) := d.listAs Group.decode

/-- Removes the dataset. -/
def delete (d : Dataset) : DomainM Unit := liftKv d.queue.delete

end Dataset

/-- The kind of a relation between invocations. -/
inductive RelationKind where
  | mapped
  | reduced
  deriving DecidableEq, Repr, Inhabited

namespace RelationKind

/-- All kinds, in order. -/
def all : List RelationKind := [.mapped, .reduced]

/-- The name of a kind. -/
def text : RelationKind → String
  | .mapped => "mapped"
  | .reduced => "reduced"

/-- The kind of a name. -/
def ofText? : String → Option RelationKind
  | "mapped" => some .mapped
  | "reduced" => some .reduced
  | _ => none

end RelationKind

/-- The relations of one kind from an invocation: the tree
`entity_trees/relationships/<wf>/<from>/<kind>`, one child per target. -/
structure Relations where
  workflow : String
  source : String
  kind : RelationKind
  deriving DecidableEq, Repr, Inhabited

namespace Relations

/-- The tree holding the relations. -/
def tree (r : Relations) : Tree :=
  Tree.ofIdentity ⟨["relationships", r.workflow, r.source, r.kind.text]⟩

/-- Adds a target with metadata (an empty object when none is given); a target is added once. -/
def add (r : Relations) (target : String) (metadata : Option Json) : DomainM Unit := do
  let _ ← liftKv (r.tree.add target (metadata.getD (.obj [])))
  pure ()

/-- The targets, in the store's order. -/
def targets (r : Relations) : DomainM (List String) := liftKv r.tree.listKeys

/-- The targets with their metadata, in the store's order. -/
def targetsWithData (r : Relations) : DomainM (List (String × Json)) := liftKv r.tree.list

/-- Removes the relations. -/
def delete (r : Relations) : DomainM Unit := liftKv r.tree.delete

end Relations

/-- The session of an invocation: the tree `entity_trees/sessions/<wf>/<invocation>`. -/
structure Session where
  workflow : String
  invocation : String
  deriving DecidableEq, Repr, Inhabited

namespace Session

/-- The tree holding the session. -/
def tree (s : Session) : Tree := Tree.ofIdentity ⟨["sessions", s.workflow, s.invocation]⟩

/-- The value of a name; none when it is not set. -/
def get (s : Session) (name : String) : DomainM (Option Json) := fun st =>
  match (s.tree.get name).run st with
  | (.ok v, st') => (.ok (some v), st')
  | (.error e, st') => if e.isNotFound then (.ok none, st') else (.error (.kv e), st')

/-- Sets the value of a name. -/
def set (s : Session) (name : String) (v : Json) : DomainM Unit := do
  let _ ← liftKv (s.tree.set name v)
  pure ()

/-- The names and values, in the store's order. -/
def list (s : Session) : DomainM (List (String × Json)) := liftKv s.tree.list

/-- Removes the session. -/
def delete (s : Session) : DomainM Unit := liftKv s.tree.delete

end Session

/-- The claims of an invocation: the tree `entity_trees/claims/<wf>/<invocation>`, one child per
direction whose work has started. -/
structure Claims where
  workflow : String
  invocation : String
  deriving DecidableEq, Repr, Inhabited

namespace Claims

/-- The tree holding the claims. -/
def tree (c : Claims) : Tree := Tree.ofIdentity ⟨["claims", c.workflow, c.invocation]⟩

/-- Claims a direction: true when this call made the claim, false when it was made before. -/
def claim (c : Claims) (d : Direction) (now : String) : DomainM Bool := fun st =>
  match (c.tree.add d.text (.obj [("claimed_at", .str now)])).run st with
  | (.ok _, st') => (.ok true, st')
  | (.error e, st') => if e.isAlreadyExists then (.ok false, st') else (.error (.kv e), st')

/-- Removes the claims. -/
def delete (c : Claims) : DomainM Unit := liftKv c.tree.delete

end Claims

/-- An entry of the cleanup queue: a request and when it was queued. -/
structure CleanupEntry where
  request : String
  queuedAt : String
  deriving DecidableEq, Repr, Inhabited

namespace CleanupEntry

/-- The JSON form. -/
def toJson (e : CleanupEntry) : Json :=
  .obj [("queued_at", .str e.queuedAt), ("request_id", .str e.request)]

/-- Reads an entry, by name or by position; the time is kept in its normal form. -/
def decode : Json → Except String CleanupEntry :=
  Decode.struct "struct CleanupEntry" 2
    (CleanupEntry.mk <$> Decode.Fields.required "request_id" 0 Decode.string <*>
      Decode.Fields.required "queued_at" 1 Decode.timestamp)

end CleanupEntry

/-- The queue of requests of a workflow waiting to be cleaned up:
`queues/request_cleanup/<wf>`. -/
structure CleanupQueue where
  workflow : String
  deriving DecidableEq, Repr, Inhabited

namespace CleanupQueue

/-- The queue holding the entries. -/
def queue (q : CleanupQueue) : Queue := Queue.ofIdentity ⟨["request_cleanup", q.workflow]⟩

/-- Queues a request. -/
def add (q : CleanupQueue) (request : String) (now : String) : DomainM Unit := do
  let _ ← liftKv (q.queue.add (CleanupEntry.toJson ⟨request, now⟩))
  pure ()

/-- The entries with their names, in the order they were queued. -/
def list (q : CleanupQueue) : DomainM (List (String × CleanupEntry)) := do
  let items ← liftKv q.queue.listWithNames
  liftKv (Kv.liftExcept (items.mapM fun (n, j) =>
    match CleanupEntry.decode j with
    | .ok e => .ok (n, e)
    | .error m => .error (.encoding m)))

/-- Removes the entry of a name. -/
def remove (q : CleanupQueue) (name : String) : DomainM Unit := liftKv (q.queue.deleteKey name)

end CleanupQueue

end MapReduce
