import MapReduce.Engine.Trace

/-! Cleaning up finished requests. A finished request is queued for cleanup when the engine cleans
up at all. Pruning a request deletes, for each invocation of its graph, the three datasets, the two
kinds of relations, the session, the claims and the invocation, and then the request; a part that is
already gone is counted as such. A simulated pruning deletes nothing and lists what it would
delete. A pass prunes the queued requests in order, at most a batch of them, and stops at the first
still in its quiet period. -/

namespace MapReduce

/-- What a cleanup did. -/
structure CleanupReport where
  requests : Nat := 0
  invocations : Nat := 0
  deleted : Nat := 0
  alreadyGone : Nat := 0
  /-- What a simulated cleanup would delete, in order. -/
  planned : List String := []
  deriving DecidableEq, Repr, Inhabited

namespace CleanupReport

/-- Two reports added up. -/
def add (a b : CleanupReport) : CleanupReport :=
  ⟨a.requests + b.requests, a.invocations + b.invocations, a.deleted + b.deleted,
    a.alreadyGone + b.alreadyGone, a.planned ++ b.planned⟩

end CleanupReport

/-- The longest span, in nanoseconds, that time arithmetic on dates can take; a longer quiet
period counts as none. -/
def longestSpan : Nat := 9223372036854775807 * Nat.pow 10 6

namespace Engine

/-- Queues a finished request for cleanup; answers whether the engine cleans up. -/
def scheduleCleanup (e : Engine) (workflow request : String) : EngineM Bool := do
  if !e.config.cleanupRequests then return false
  EngineM.domain ((CleanupQueue.mk workflow).add request e.now)
  pure true

/-- Whether a request queued at a time is still in its quiet period: less time has passed since it
was queued than the period, a time to come counting as a negative span. A period too long for time
arithmetic on dates counts as none. -/
def inQuietPeriod (e : Engine) (queuedAt : String) : Bool :=
  let quiet : Int := if e.config.quietPeriod ≤ longestSpan then e.config.quietPeriod else 0
  match Text.parseTimestamp e.now, Text.parseTimestamp queuedAt with
  | .ok now, .ok t => now.nanos - t.nanos < quiet
  | _, _ => false

/-- Deletes one part of a request, or plans to: a part already gone is counted as such. -/
def prunePart (simulate : Bool) (r : CleanupReport) (label : String) (delete : DomainM Unit) :
    EngineM CleanupReport :=
  if simulate then pure { r with planned := r.planned ++ [label] }
  else do
    match ← EngineM.result (EngineM.domain delete) with
    | .ok () => pure { r with deleted := r.deleted + 1 }
    | .error (.domain d) =>
      if d.isNotFound then pure { r with alreadyGone := r.alreadyGone + 1 }
      else EngineM.fail (.domain d)
    | .error err => EngineM.fail err

/-- Deletes, or plans to delete, what belongs to one invocation. -/
def pruneInvocation (simulate : Bool) (workflow id : String) (r : CleanupReport) :
    EngineM CleanupReport := do
  let mut r := r
  for k in DatasetKind.all do
    r ← prunePart simulate r ("dataset " ++ id ++ "/" ++ k.text) (Dataset.delete ⟨workflow, id, k⟩)
  for k in RelationKind.all do
    r ← prunePart simulate r ("relationships " ++ id ++ "/" ++ k.text) (Relations.delete ⟨workflow, id, k⟩)
  r ← prunePart simulate r ("sessions " ++ id) (Session.delete ⟨workflow, id⟩)
  r ← prunePart simulate r ("claims " ++ id) (Claims.delete ⟨workflow, id⟩)
  r ← prunePart simulate r ("invocation " ++ id) (EntityStore.delete Invocation [workflow, id])
  pure { r with invocations := r.invocations + 1 }

/-- Deletes, or plans to delete, a request and the graph of its invocations. -/
def pruneRequest (simulate : Bool) (workflow request : String) : EngineM CleanupReport := do
  match ← EngineM.domain (EntityStore.tryLoad Request [workflow, request]) with
  | none => pure { alreadyGone := 1 }
  | some rec =>
    let graph ← invocationGraph workflow rec.data.invocation
    let mut r : CleanupReport := {}
    for node in graph.nodes do
      r ← pruneInvocation simulate workflow node.id r
    r ← prunePart simulate r ("request " ++ request) (EntityStore.delete Request [workflow, request])
    pure { r with requests := r.requests + 1 }

/-- Prunes the queued requests of a workflow in order, at most a batch, stopping at the first in
its quiet period; a pruned request leaves the queue unless the pass is simulated. -/
def cleanupPass (e : Engine) (simulate : Bool) (workflow : String) : EngineM CleanupReport := do
  let queue := CleanupQueue.mk workflow
  let entries ← EngineM.domain queue.list
  let mut report : CleanupReport := {}
  for (key, entry) in entries.take e.config.cleanupBatch do
    if e.inQuietPeriod entry.queuedAt then break
    report := report.add (← pruneRequest simulate workflow entry.request)
    if !simulate then
      match ← EngineM.result (EngineM.domain (queue.remove key)) with
      | .ok () => pure ()
      | .error (.domain d) => if d.isNotFound then pure () else EngineM.fail (.domain d)
      | .error err => EngineM.fail err
  pure report

end Engine

end MapReduce
