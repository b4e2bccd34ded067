import MapReduce.Proofs.Engine.FanIn
import Mathlib

/-! # A request is closed once

Two paths close a request: `completeRequest`, when the reduction of the root lands, and
`recordFailure`, when a map or a reduction of the request fails. Each is an atomic update of the
stored request by a `Closer`, whose change leaves a request already done as it is and otherwise
marks it done, or failed at its invocation; the flag it answers says whether it closed the request.
Any number of such updates run concurrently on one store, interleaved at the grain of its reads and
compare-and-swap saves (`EntityStore.Phase`), among writes of other keys and the removal of the
request by its cleanup.

Between any two operations (`Inv`) the store holds the first request until a caller has closed it,
and the request as that caller closed it afterwards; every caller about to save holds a version no
later than the store's revision, and what it read is what the store holds while the node keeps that
version. Every write takes the next revision, so a save goes through only if nobody wrote the
request since its read. That holds while the revision counter is below its ceiling: at the ceiling
versions repeat, a stale save goes through, and two callers close the request
(`closes_twice_at_revision_ceiling`). -/

namespace MapReduce.Closing

open EntityStore (Phase)

/-- How a caller closes a request: `completeRequest` marks it done, `recordFailure` marks it
failed at the invocation that failed. -/
inductive Closer where
  | done
  | failed (invocation : String)
  deriving DecidableEq, Repr

namespace Closer

/-- The request as a closer leaves one that is not done. -/
def closed (now : String) : Closer → Request → Request
  | .done, r => r.markDone now
  | .failed i, r => r.markFailed i now

/-- The failed invocation a closer records, over the one a request had. -/
def failure : Closer → Option String → Option String
  | .done, f => f
  | .failed i, _ => some i

/-- What a closer makes of the request it read, with whether it closed it: a request already done
is left as it is. -/
def next (now : String) (k : Closer) (r : Request) : Request × Bool :=
  if r.isDone then (r, false) else (k.closed now r, true)

/-- The change of the atomic update of a closer. -/
def close (now : String) (k : Closer) (r : Request) : Except DomainError (Request × Bool) :=
  .ok (k.next now r)

@[simp] theorem closed_eq (now : String) (k : Closer) (r : Request) :
    k.closed now r =
      { r with isDone := true, doneAt := some now, failedInvocation := k.failure r.failedInvocation } := by
  cases k <;> rfl

theorem next_of_open {now : String} (k : Closer) {r : Request} (hr : r.isDone = false) :
    k.next now r = (k.closed now r, true) := by
  simp only [next, hr, Bool.false_eq_true, if_false]

theorem readable_closed {now : String} (k : Closer) {r : Request} (hr : r.Readable)
    (hnow : Text.normalTimestamp now = .ok now) : (k.closed now r).Readable := by
  cases k with
  | done => exact hr.markDone hnow
  | failed i => exact hr.markFailed i hnow

end Closer

/-! ## How the stored request moves -/

/-- How the stored request may change in one store operation: not at all, removed by its cleanup,
or closed by a closer when it was not done. -/
inductive Next (now : String) : Option Request → Option Request → Prop
  | keep (x : Option Request) : Next now x x
  | remove (r : Request) : Next now (some r) none
  | close (k : Closer) (r : Request) (hr : r.isDone = false) : Next now (some r) (some (k.closed now r))

section Next

variable {now : String} {x y : Request}

/-- Between two stored values the request is the same, or was closed from not done. -/
theorem Next.eq_or_closed (h : Next now (some x) (some y)) :
    y = x ∨ x.isDone = false ∧ ∃ k : Closer, y = k.closed now x := by
  cases h with
  | keep => exact .inl rfl
  | close k _ hr => exact .inr ⟨hr, k, rfl⟩

theorem Next.isDone_ne (h : Next now (some x) (some y)) (hne : x.isDone ≠ y.isDone) :
    x.isDone = false ∧ y.isDone = true ∧ y.doneAt = some now := by
  rcases h.eq_or_closed with rfl | ⟨hx, k, rfl⟩
  · exact absurd rfl hne
  · simp [hx]

theorem Next.doneAt_ne (h : Next now (some x) (some y)) (hne : x.doneAt ≠ y.doneAt) :
    x.isDone = false ∧ y.isDone = true := by
  rcases h.eq_or_closed with rfl | ⟨hx, k, rfl⟩
  · exact absurd rfl hne
  · simp [hx]

theorem Next.failed_ne (h : Next now (some x) (some y))
    (hne : x.failedInvocation ≠ y.failedInvocation) : x.isDone = false ∧ y.isDone = true := by
  rcases h.eq_or_closed with rfl | ⟨hx, k, rfl⟩
  · exact absurd rfl hne
  · simp [hx]

theorem Next.fixed (h : Next now (some x) (some y)) :
    y.workflow = x.workflow ∧ y.id = x.id ∧ y.job = x.job ∧ y.invocation = x.invocation ∧
      y.context = x.context ∧ y.isBlocking = x.isBlocking := by
  rcases h.eq_or_closed with rfl | ⟨-, k, rfl⟩ <;> simp

end Next

/-! ## The two paths that close a request -/

section Engine

variable (e : Engine)

/-- Run alone, an atomic update of the engine is one caller of `EntityStore.Phase`: within
`2 * ceiling + 1` store operations it finishes, and the engine answers its outcome on the store it
leaves. -/
theorem update_solo {α β : Type} [Entity α] (identity : List String)
    (mutate : α → Except DomainError (α × β)) (w : World) :
    ∃ o s, Phase.stepN (FanIn.ceiling e) identity mutate (2 * FanIn.ceiling e + 1)
        (.reading (FanIn.ceiling e)) w.store = (.done o, s) ∧
      (e.update identity mutate).run w = (o.mapError fun err => .error (.domain err), { w with store := s }) := by
  refine ⟨_, _, Phase.stepN_eq_atomicUpdate _ _, ?_⟩
  rcases h : EntityStore.atomicUpdate e.config.maxAttempts identity mutate w.store with ⟨_ | r, s⟩ <;>
  simp [Engine.update, EngineM.domain, ExceptT.run, h, Except.mapError]

/-- `completeRequest` closes the request by the atomic update of the done closer, and goes on to
render, queue and notify only when that update closed it. -/
theorem completeRequest_closes (c : InvocationContext) (results : List Pair) :
    ∃ k : Record Request × Bool → EngineM Unit,
      e.completeRequest c results = e.update [c.workflowName, c.requestId] (Closer.done.close e.now) >>= k ∧
      ∀ r, k (r, false) = pure () :=
  ⟨_, rfl, fun _ => rfl⟩

/-- `recordFailure` closes the request by the atomic update of the closer of its invocation, after
recording the failure on the invocation, and goes on to notify and queue only when that update
succeeded and closed it. -/
theorem recordFailure_closes (c : InvocationContext) (failure : EngineError) :
    ∃ (before : EngineM Unit) (k : Except EngineError (Record Request × Bool) → EngineM Unit),
      e.recordFailure c failure = (before >>= fun _ =>
        EngineM.result (e.update [c.workflowName, c.requestId]
          ((Closer.failed c.invocationId).close e.now)) >>= k) ∧
      (∀ r, k (.ok (r, false)) = pure ()) ∧ ∀ err, k (.error err) = pure () :=
  ⟨_, _, rfl, fun _ => rfl, fun _ => rfl⟩

end Engine

/-! ## Callers on one store -/

/-- Callers closing one request, each between two operations on the shared store. -/
structure Config (n : Nat) where
  callers : Fin n → Phase Request Bool
  store : Store

/-- What may run next on the store: an operation of one of the callers, a write of a key whose path
is not the request's, or the removal of the request by its cleanup. -/
inductive Action (n : Nat) (path : String) where
  | caller (i : Fin n)
  | elsewhere (key : Identity) (value : String) (apart : key.encode ≠ .ok path)
  | remove

variable {n : Nat} (e : Engine) (wf id : String) (kinds : Fin n → Closer) (path : String)

/-- One operation on the store. -/
def step (c : Config n) : Action n path → Config n
  | .caller i =>
    let next := (c.callers i).step (FanIn.ceiling e) [wf, id] ((kinds i).close e.now) c.store
    ⟨Function.update c.callers i next.1, next.2⟩
  | .elsewhere key value _ => ⟨c.callers, ((Kv.set key value).run c.store).2⟩
  | .remove => ⟨c.callers, ((EntityStore.delete Request [wf, id]).run c.store).2⟩

/-- The operations in the order a schedule gives. -/
def run (sched : List (Action n path)) (c : Config n) : Config n := sched.foldl (step e wf id kinds path) c

/-- Every caller about to read, on a store. -/
def start (s : Store) : Config n := ⟨fun _ => .reading (FanIn.ceiling e), s⟩

/-- The answer of caller `i`, once it has finished: whether it closed the request. -/
def answer (c : Config n) (i : Fin n) : Option (Except DomainError Bool) :=
  match c.callers i with
  | .done o => some (o.map (·.2))
  | _ => none

/-- The request a store holds, when it reads. -/
def stored (s : Store) : Option Request :=
  match (EntityStore.load Request [wf, id]).run s with
  | (.ok r, _) => some r.data
  | (.error _, _) => none

/-- The request the store holds after the first `k` operations of a schedule. -/
def storedAt (sched : List (Action n path)) (c : Config n) (k : Nat) : Option Request :=
  stored wf id (run e wf id kinds path (sched.take k) c).store

/-- The `k`-th operation of a schedule takes the stored request from `x` to `y`. -/
def Successive (sched : List (Action n path)) (c : Config n) (k : Nat) (x y : Request) : Prop :=
  k < sched.length ∧ storedAt e wf id kinds path sched c k = some x ∧
    storedAt e wf id kinds path sched c (k + 1) = some y

@[simp] theorem run_nil (c : Config n) : run e wf id kinds path [] c = c := rfl

@[simp] theorem run_cons (a : Action n path) (sched : List (Action n path)) (c : Config n) :
    run e wf id kinds path (a :: sched) c = run e wf id kinds path sched (step e wf id kinds path c a) :=
  rfl

theorem run_append (s t : List (Action n path)) (c : Config n) :
    run e wf id kinds path (s ++ t) c = run e wf id kinds path t (run e wf id kinds path s c) :=
  List.foldl_append ..

/-- Whether a caller has finished having closed the request. -/
def ClosedIt : Phase Request Bool → Prop
  | .done (.ok (_, b)) => b = true
  | _ => False

theorem answer_eq_true_iff {c : Config n} {i : Fin n} :
    answer c i = some (.ok true) ↔ ClosedIt (c.callers i) := by
  unfold answer
  split
  · rename_i o h
    rw [h]
    rcases o with _ | ⟨r, b⟩ <;> simp [ClosedIt, Except.map]
  · rename_i h
    rcases hc : c.callers i with _ | _ | _
    · simp [ClosedIt]
    · simp [ClosedIt]
    · exact absurd hc (h _)

/-! ## The stored request and what each caller holds -/

variable (r₀ : Request)

/-- The request as the store holds it once `cl` closed it, if any caller did. -/
def current : Option (Fin n) → Request
  | none => r₀
  | some j => (kinds j).closed e.now r₀

/-- A request the store may have held: the first one, or it as some closer closed it. -/
def Held (y : Request) : Prop := y = r₀ ∨ ∃ k : Closer, y = k.closed e.now r₀

/-- Where caller `i` may stand while `cur` is the request the store holds: a caller about to save
has read a request the store has held, at a version no later than the revision, and changed it by
its closer; and what it read is `cur` while the node keeps that version. -/
def PhaseOk (m : MemoryStore) (cur : Request) (i : Fin n) : Phase Request Bool → Prop
  | .saving _ version x b => ∃ v y, version = some v ∧ v ≤ m.revision ∧ Held e r₀ y ∧
      (x, b) = (kinds i).next e.now y ∧ ∀ t, m.find? path = some ⟨v, t⟩ → y = cur
  | _ => True

/-- What holds between any two store operations, where `cl` is the caller that closed the
request, if any: nobody races the store, only `cl` has closed the request, and only if it was not
done at first; the node holds the request as `cl` left it, unless it was removed. -/
structure Inv (m : MemoryStore) (cl : Option (Fin n)) (c : Config n) : Prop where
  store : c.store = ⟨.memory m, []⟩
  closedIt : ∀ j, ClosedIt (c.callers j) ↔ cl = some j
  open_ : cl.isSome → r₀.isDone = false
  node : m.find? path = none ∨
    ∃ v, m.find? path = some ⟨v, Entity.toText (current e kinds r₀ cl)⟩ ∧ v ≤ m.revision
  callers : ∀ i, PhaseOk e kinds path r₀ m (current e kinds r₀ cl) i (c.callers i)

/-- The request stored at `path` in `m` under `wf` and `id`, readable, with a clock in normal form. -/
structure Setting : Prop where
  key : (EntityStore.entityKey Request [wf, id]).encode = .ok path
  workflow : r₀.workflow = wf
  identity : r₀.id = id
  readable : r₀.Readable
  now : Text.normalTimestamp e.now = .ok e.now

/-- The request the store holds when the node is there. -/
def view (m : MemoryStore) (cl : Option (Fin n)) : Option Request :=
  (m.find? path).map fun _ => current e kinds r₀ cl

/-- What one operation does: the revision moves by at most one, the request the store holds moves
by `Next`, and the caller that closed the request changes only by that caller's save over the first
request. -/
structure Moved (m m' : MemoryStore) (cl cl' : Option (Fin n)) (a : Action n path) : Prop where
  revision : m'.revision ≤ m.revision + 1
  next : Next e.now (view e kinds path r₀ m cl) (view e kinds path r₀ m' cl')
  closer : cl' = cl ∨ ∃ i, a = .caller i ∧ cl = none ∧ cl' = some i ∧
    view e kinds path r₀ m cl = some r₀ ∧ view e kinds path r₀ m' cl' = some ((kinds i).closed e.now r₀)

section Setting

variable {e wf id kinds path r₀} (hS : Setting e wf id path r₀)
include hS

theorem Setting.held_readable {y : Request} (hy : Held e r₀ y) : y.Readable := by
  rcases hy with rfl | ⟨k, rfl⟩
  · exact hS.readable
  · exact k.readable_closed hS.readable hS.now

theorem Setting.held_key {y : Request} (hy : Held e r₀ y) :
    (EntityStore.recordKey y).encode = .ok path := by
  have hkey := hS.key
  rcases hy with rfl | ⟨k, rfl⟩ <;>
    simpa [EntityStore.recordKey, Entity.identity, hS.workflow, hS.identity] using hkey

theorem Setting.held_next {y : Request} (hy : Held e r₀ y) (k : Closer) :
    Held e r₀ (k.next e.now y).1 := by
  unfold Closer.next
  split
  · exact hy
  · rcases hy with rfl | ⟨k', rfl⟩
    · exact .inr ⟨k, rfl⟩
    · rename_i h
      simp at h

end Setting

theorem held_current (cl : Option (Fin n)) : Held e r₀ (current e kinds r₀ cl) := by
  cases cl with
  | none => exact .inl rfl
  | some j => exact .inr ⟨kinds j, rfl⟩

/-! ## One store operation -/

section Step

variable {e wf id kinds path r₀} (hS : Setting e wf id path r₀)
variable {c : Config n} {i : Fin n} {m : MemoryStore}

theorem step_caller_of_done {o : Except DomainError (Record Request × Bool)} (h : c.callers i = .done o) :
    step e wf id kinds path c (.caller i) = c := by
  simp only [step, h, Phase.step_done]
  rw [← h, Function.update_eq_self]

theorem step_reading_zero (h : c.callers i = .reading 0) :
    step e wf id kinds path c (.caller i) =
      ⟨Function.update c.callers i (.done (.error (Phase.exhausted Request [wf, id] (FanIn.ceiling e)))),
        c.store⟩ := by
  simp [step, h, Phase.step]

include hS

theorem step_reading_absent {l : Nat} (h : c.callers i = .reading (l + 1))
    (hstore : c.store = ⟨.memory m, []⟩) (hnode : m.find? path = none) :
    step e wf id kinds path c (.caller i) =
      ⟨Function.update c.callers i (.done (.error (.kv (.notFound path)))), c.store⟩ := by
  simp only [step, h, Phase.step, hstore, EntityStore.load_absent hS.key hnode]

theorem step_reading_present {l v : Nat} {y : Request} (hy : Held e r₀ y)
    (h : c.callers i = .reading (l + 1)) (hstore : c.store = ⟨.memory m, []⟩)
    (hnode : m.find? path = some ⟨v, Entity.toText y⟩) :
    step e wf id kinds path c (.caller i) =
      ⟨Function.update c.callers i
        (.saving l (some v) ((kinds i).next e.now y).1 ((kinds i).next e.now y).2), c.store⟩ := by
  simp only [step, h, Phase.step, hstore,
    EntityStore.load_memory hS.key hnode (Request.decodeAs_toText (hS.held_readable hy)), Closer.close]

theorem step_saving_absent {l v : Nat} {x : Request} {b : Bool} (hx : Held e r₀ x)
    (h : c.callers i = .saving l (some v) x b) (hstore : c.store = ⟨.memory m, []⟩)
    (hnode : m.find? path = none) :
    step e wf id kinds path c (.caller i) = ⟨Function.update c.callers i (.reading l), c.store⟩ := by
  simp [step, h, Phase.step, hstore, EntityStore.save_absent rfl (hS.held_key hx) hnode,
    DomainError.isPreconditionFailed, KvError.isPreconditionFailed]

theorem step_saving_stale {l v v' : Nat} {x : Request} {b : Bool} {t : String} (hx : Held e r₀ x)
    (h : c.callers i = .saving l (some v) x b) (hstore : c.store = ⟨.memory m, []⟩)
    (hnode : m.find? path = some ⟨v', t⟩) (hv : v' ≠ v) :
    step e wf id kinds path c (.caller i) = ⟨Function.update c.callers i (.reading l), c.store⟩ := by
  simp [step, h, Phase.step, hstore, EntityStore.save_stale rfl (hS.held_key hx) hnode hv,
    DomainError.isPreconditionFailed, KvError.isPreconditionFailed]

theorem step_saving_current {l v : Nat} {x : Request} {b : Bool} {t : String} (hx : Held e r₀ x)
    (h : c.callers i = .saving l (some v) x b) (hstore : c.store = ⟨.memory m, []⟩)
    (hnode : m.find? path = some ⟨v, t⟩) :
    step e wf id kinds path c (.caller i) =
      ⟨Function.update c.callers i (.done (.ok (⟨x, some (m.write path (Entity.toText x)).1⟩, b))),
        ⟨.memory (m.write path (Entity.toText x)).2, []⟩⟩ := by
  simp only [step, h, Phase.step, hstore, EntityStore.save_current rfl (hS.held_key hx) hnode rfl]

/-- A store whose node holds a request the store may have held reads as it. -/
theorem stored_present {v : Nat} {y : Request} (hy : Held e r₀ y)
    (hnode : m.find? path = some ⟨v, Entity.toText y⟩) : stored wf id ⟨.memory m, []⟩ = some y := by
  simp [stored, EntityStore.load_memory hS.key hnode (Request.decodeAs_toText (hS.held_readable hy))]

omit hS in
theorem step_elsewhere {key : Identity} {value : String} {apart : key.encode ≠ .ok path} {p : String}
    (hstore : c.store = ⟨.memory m, []⟩) (hkey : key.encode = .ok p) :
    step e wf id kinds path c (.elsewhere key value apart) = ⟨c.callers, ⟨.memory (m.write p value).2, []⟩⟩ := by
  simp only [step, hstore, Kv.set_memory hkey]

omit hS in
theorem step_elsewhere_error {key : Identity} {value : String} {apart : key.encode ≠ .ok path}
    {err : KvError} (hstore : c.store = ⟨.memory m, []⟩) (hkey : key.encode = .error err) :
    step e wf id kinds path c (.elsewhere key value apart) = c := by
  simp only [step, hstore, Kv.set_memory_error hkey]
  rw [← hstore]

omit hS in
theorem step_remove {m' : MemoryStore} (hstore : c.store = ⟨.memory m, []⟩)
    (h : m.delete (EntityStore.entityKey Request [wf, id]) = .ok m') :
    step e wf id kinds path c .remove = ⟨c.callers, ⟨.memory m', []⟩⟩ := by
  have hdel := Kv.delete_memory [] h
  simp only [ExceptT.run] at hdel
  simp [step, hstore, EntityStore.delete, liftKv, hdel, ExceptT.adapt, ExceptT.run, ExceptT.mk,
    Functor.map, StateT.map]

omit hS in
theorem step_remove_error {err : KvError} (hstore : c.store = ⟨.memory m, []⟩)
    (h : m.delete (EntityStore.entityKey Request [wf, id]) = .error err) :
    step e wf id kinds path c .remove = c := by
  have hdel := Kv.delete_memory_error [] h
  simp only [ExceptT.run] at hdel
  obtain ⟨callers, store⟩ := c
  simp only at hstore
  subst hstore
  simp [step, EntityStore.delete, liftKv, hdel, ExceptT.adapt, ExceptT.run, ExceptT.mk, Functor.map,
    StateT.map, bind, pure]

end Step

/-! ## The invariant -/

section Invariant

variable {e wf id kinds path r₀} {c : Config n} {m : MemoryStore} {cl : Option (Fin n)}

theorem view_of_find? {m' : MemoryStore} (cl' : Option (Fin n)) (h : m'.find? path = m.find? path) :
    view e kinds path r₀ m' cl' = view e kinds path r₀ m cl' := by
  simp [view, h]

/-- A caller whose phase changes while the store stays as it was keeps the invariant, when its new
phase is allowed and neither phase has closed the request. -/
theorem Inv.update_caller (hI : Inv e kinds path r₀ m cl c) {i : Fin n} {ph : Phase Request Bool}
    (hwas : ¬ ClosedIt (c.callers i)) (hnot : ¬ ClosedIt ph)
    (hph : PhaseOk e kinds path r₀ m (current e kinds r₀ cl) i ph) :
    Inv e kinds path r₀ m cl ⟨Function.update c.callers i ph, c.store⟩ where
  store := hI.store
  closedIt j := by
    by_cases hj : j = i
    · subst hj
      simp only [Function.update_self]
      exact ⟨fun h => absurd h hnot, fun h => absurd ((hI.closedIt j).mpr h) hwas⟩
    · simpa only [Function.update_of_ne hj] using hI.closedIt j
  open_ := hI.open_
  node := hI.node
  callers j := by
    by_cases hj : j = i
    · subst hj
      simpa only [Function.update_self] using hph
    · simpa only [Function.update_of_ne hj] using hI.callers j

/-- An operation the callers do not make keeps the invariant when it leaves the request's node as
it was or removes it, and does not move the revision back. -/
theorem Inv.move_store (hI : Inv e kinds path r₀ m cl c) {m' : MemoryStore}
    (hrev : m.revision ≤ m'.revision) (hnode : m'.find? path = m.find? path ∨ m'.find? path = none) :
    Inv e kinds path r₀ m' cl ⟨c.callers, ⟨.memory m', []⟩⟩ where
  store := rfl
  closedIt := hI.closedIt
  open_ := hI.open_
  node := by
    rcases hnode with h | h
    · rw [h]
      rcases hI.node with h' | ⟨v, hv, hle⟩
      · exact .inl h'
      · exact .inr ⟨v, hv, hle.trans hrev⟩
    · exact .inl h
  callers i := by
    have hi := hI.callers i
    generalize c.callers i = ph at hi ⊢
    cases ph with
    | saving l version x b =>
      obtain ⟨v, y, hver, hle, hy, hxb, hfresh⟩ := hi
      refine ⟨v, y, hver, hle.trans hrev, hy, hxb, fun t ht => hfresh t ?_⟩
      rcases hnode with h | h
      · rwa [← h]
      · rw [h] at ht
        cases ht
    | _ => trivial

/-- After a write of the request's node at a version past the revision, no caller about to save
holds the node's version. -/
theorem PhaseOk.of_fresh_write {cur cur' : Request} {j : Fin n} {ph : Phase Request Bool}
    {m' : MemoryStore} (h : PhaseOk e kinds path r₀ m cur j ph) (hrev : m.revision ≤ m'.revision)
    {t : String} (hnode : m'.find? path = some ⟨m.revision + 1, t⟩) :
    PhaseOk e kinds path r₀ m' cur' j ph := by
  cases ph with
  | saving l version x b =>
    obtain ⟨v, y, hver, hle, hy, hxb, -⟩ := h
    refine ⟨v, y, hver, hle.trans hrev, hy, hxb, fun t' ht' => ?_⟩
    rw [hnode] at ht'
    have hv : m.revision + 1 = v := by simpa using congrArg Node.version (Option.some.inj ht')
    omega
  | _ => trivial

/-- A save over the version the node still has: the caller read the request the store holds, and
either closes it, when it was the first request and not done, or writes it again as it was. -/
theorem Inv.save_cases (hI : Inv e kinds path r₀ m cl c) {i : Fin n} {l v : Nat} {x : Request}
    {b : Bool} {t : String} (h : c.callers i = .saving l (some v) x b)
    (hnode : m.find? path = some ⟨v, t⟩) :
    (cl = none ∧ r₀.isDone = false ∧ x = (kinds i).closed e.now r₀ ∧ b = true) ∨
      (x = current e kinds r₀ cl ∧ b = false) := by
  have hi := hI.callers i
  rw [h] at hi
  obtain ⟨v', y, hver, -, -, hxb, hfresh⟩ := hi
  cases hver
  have hy := hfresh t hnode
  subst hy
  cases cl with
  | none =>
    cases hd : r₀.isDone
    · simp [Closer.next, current, hd] at hxb
      exact .inl ⟨rfl, rfl, by rw [Closer.closed_eq]; exact hxb.1, hxb.2⟩
    · simp [Closer.next, current, hd] at hxb
      exact .inr ⟨hxb.1, hxb.2⟩
  | some j =>
    simp [Closer.next, current] at hxb
    exact .inr ⟨by simpa [current] using hxb.1, hxb.2⟩

theorem Moved.stay (a : Action n path) : Moved e kinds path r₀ m m cl cl a :=
  ⟨by omega, .keep _, .inl rfl⟩

theorem revision_write_of_room (hroom : m.revision < MemoryStore.revisionBound) (p value : String) :
    (m.write p value).2.revision = m.revision + 1 := by
  rw [MemoryStore.revision_write]
  omega

theorem find?_write_self (hroom : m.revision < MemoryStore.revisionBound) (q : String) (x : Request) :
    (m.write q (Entity.toText x)).2.find? q = some ⟨m.revision + 1, Entity.toText x⟩ := by
  rw [MemoryStore.find?_write, if_pos rfl]
  congr
  omega

/-- A save that goes through keeps the invariant: the node is written at the next revision, and
the caller either closes the first request, becoming the one that closed it, or writes the request
again as it was. -/
theorem Inv.save_through (hI : Inv e kinds path r₀ m cl c) {i : Fin n} {l v : Nat} {x : Request}
    {b : Bool} {t : String} (hc : c.callers i = .saving l (some v) x b)
    (hnode : m.find? path = some ⟨v, t⟩) (hroom : m.revision < MemoryStore.revisionBound) :
    ∃ cl', Inv e kinds path r₀ (m.write path (Entity.toText x)).2 cl'
        ⟨Function.update c.callers i (.done (.ok (⟨x, some (m.write path (Entity.toText x)).1⟩, b))),
          ⟨.memory (m.write path (Entity.toText x)).2, []⟩⟩ ∧
      Moved e kinds path r₀ m (m.write path (Entity.toText x)).2 cl cl' (.caller i) := by
  have hwas : ¬ ClosedIt (c.callers i) := by rw [hc]; exact nofun
  have hwrite := find?_write_self hroom path x
  have hnext := revision_write_of_room hroom path (Entity.toText x)
  have hphase (cur' : Request) (j : Fin n) :
      PhaseOk e kinds path r₀ (m.write path (Entity.toText x)).2 cur' j
        (Function.update c.callers i (.done (.ok (⟨x, some (m.write path (Entity.toText x)).1⟩, b))) j) := by
    by_cases hj : j = i
    · subst hj
      rw [Function.update_self]
      trivial
    · rw [Function.update_of_ne hj]
      exact (hI.callers j).of_fresh_write (by omega) hwrite
  rcases hI.save_cases hc hnode with ⟨rfl, hopen, rfl, rfl⟩ | ⟨rfl, rfl⟩
  · -- caller `i` closes the first request
    have hbefore : view e kinds path r₀ m none = some r₀ := by simp [view, hnode, current]
    have hafter : view e kinds path r₀ (m.write path (Entity.toText ((kinds i).closed e.now r₀))).2
        (some i) = some ((kinds i).closed e.now r₀) := by rw [view, hwrite]; rfl
    refine ⟨some i, ⟨rfl, fun j => ?_, fun _ => hopen, .inr ⟨_, hwrite, by omega⟩, hphase _⟩,
      ⟨by omega, ?_, .inr ⟨i, rfl, rfl, rfl, hbefore, hafter⟩⟩⟩
    · by_cases hj : j = i
      · subst hj
        simp [ClosedIt]
      · have := hI.closedIt j
        simp only [Function.update_of_ne hj]
        simp_all [Ne.symm hj]
    · rw [hbefore, hafter]
      exact .close _ _ hopen
  · -- caller `i` writes the request again as it was
    have hv₁ : view e kinds path r₀ m cl = some (current e kinds r₀ cl) := by simp [view, hnode]
    have hv₂ : view e kinds path r₀ (m.write path (Entity.toText (current e kinds r₀ cl))).2 cl =
        some (current e kinds r₀ cl) := by rw [view, hwrite]; rfl
    refine ⟨cl, ⟨rfl, fun j => ?_, hI.open_, .inr ⟨_, hwrite, by omega⟩, hphase _⟩,
      ⟨by omega, by rw [hv₁, hv₂]; exact .keep _, .inl rfl⟩⟩
    by_cases hj : j = i
    · subst hj
      have := hI.closedIt j
      simp only [Function.update_self, ClosedIt]
      exact ⟨fun h => absurd h (by simp), fun h => absurd (this.mpr h) hwas⟩
    · simpa only [Function.update_of_ne hj] using hI.closedIt j

/-- One operation of caller `i` keeps the invariant. -/
theorem Inv.step_caller (hS : Setting e wf id path r₀) (hI : Inv e kinds path r₀ m cl c) (i : Fin n)
    (hroom : m.revision < MemoryStore.revisionBound) :
    ∃ m' cl', Inv e kinds path r₀ m' cl' (step e wf id kinds path c (.caller i)) ∧
      Moved e kinds path r₀ m m' cl cl' (.caller i) := by
  have hstore := hI.store
  cases hc : c.callers i with
  | done o => exact ⟨m, cl, by rw [step_caller_of_done hc]; exact hI, .stay _⟩
  | reading left =>
    have hwas : ¬ ClosedIt (c.callers i) := by rw [hc]; exact nofun
    cases left with
    | zero =>
      refine ⟨m, cl, ?_, .stay _⟩
      rw [step_reading_zero hc]
      exact hI.update_caller hwas nofun trivial
    | succ l =>
      refine ⟨m, cl, ?_, .stay _⟩
      rcases hI.node with hnode | ⟨v, hnode, hle⟩
      · rw [step_reading_absent hS hc hstore hnode]
        exact hI.update_caller hwas nofun trivial
      · -- the caller reads the request the store holds
        rw [step_reading_present hS (held_current e kinds r₀ cl) hc hstore hnode]
        exact hI.update_caller hwas nofun ⟨v, _, rfl, hle, held_current e kinds r₀ cl, rfl, fun _ _ => rfl⟩
  | saving l version x b =>
    have hwas : ¬ ClosedIt (c.callers i) := by rw [hc]; exact nofun
    have hi := hI.callers i
    rw [hc] at hi
    obtain ⟨v, y, rfl, -, hy, hxb, -⟩ := hi
    have hx : Held e r₀ x := by
      rw [show x = _ from congrArg Prod.fst hxb]
      exact hS.held_next hy _
    cases hnode : m.find? path with
    | none =>
      refine ⟨m, cl, ?_, .stay _⟩
      rw [step_saving_absent hS hx hc hstore hnode]
      exact hI.update_caller hwas nofun trivial
    | some nd =>
      obtain ⟨v', t⟩ := nd
      by_cases hv : v' = v
      · -- the save goes through: the node is written at the next revision
        subst hv
        rw [step_saving_current hS hx hc hstore hnode]
        exact ⟨_, hI.save_through hc hnode hroom⟩
      · refine ⟨m, cl, ?_, .stay _⟩
        rw [step_saving_stale hS hx hc hstore hnode hv]
        exact hI.update_caller hwas nofun trivial

/-- Every operation keeps the invariant, while the revision counter has room for one more write. -/
theorem Inv.step (hS : Setting e wf id path r₀) (hI : Inv e kinds path r₀ m cl c) (a : Action n path)
    (hroom : m.revision < MemoryStore.revisionBound) :
    ∃ m' cl', Inv e kinds path r₀ m' cl' (step e wf id kinds path c a) ∧
      Moved e kinds path r₀ m m' cl cl' a := by
  cases a with
  | caller i => exact hI.step_caller hS i hroom
  | elsewhere key value apart =>
    cases hkey : key.encode with
    | error err => exact ⟨m, cl, by rw [step_elsewhere_error hI.store hkey]; exact hI, .stay _⟩
    | ok p =>
      have hp : p ≠ path := fun h => apart (h ▸ hkey)
      have hfind : (m.write p value).2.find? path = m.find? path := by
        rw [MemoryStore.find?_write, if_neg (Ne.symm hp)]
      have hnext := revision_write_of_room hroom p value
      refine ⟨(m.write p value).2, cl, ?_, ⟨by omega, ?_, .inl rfl⟩⟩
      · rw [step_elsewhere hI.store hkey]
        exact hI.move_store (by omega) (.inl hfind)
      · rw [view_of_find? cl hfind]
        exact .keep _
  | remove =>
    cases hdel : m.delete (EntityStore.entityKey Request [wf, id]) with
    | error err => exact ⟨m, cl, by rw [step_remove_error hI.store hdel]; exact hI, .stay _⟩
    | ok m' =>
      have hfind : m'.find? path = none := by rw [MemoryStore.find?_delete hS.key hdel, if_pos rfl]
      have hrev := MemoryStore.revision_delete hdel
      refine ⟨m', cl, ?_, ⟨by omega, ?_, .inl rfl⟩⟩
      · rw [step_remove hI.store hdel]
        exact hI.move_store (by omega) (.inr hfind)
      · have hgone : view e kinds path r₀ m' cl = none := by simp [view, hfind]
        rw [hgone]
        cases view e kinds path r₀ m cl with
        | none => exact .keep _
        | some r => exact .remove r

end Invariant

/-! ## Whole schedules -/

section Schedule

variable {e wf id kinds path r₀} {c : Config n} {m : MemoryStore} {cl : Option (Fin n)}

/-- The store and the caller that closed the request are fixed by the configuration. -/
theorem Inv.unique {m' : MemoryStore} {cl' : Option (Fin n)} (hI : Inv e kinds path r₀ m cl c)
    (hI' : Inv e kinds path r₀ m' cl' c) : m = m' ∧ cl = cl' := by
  refine ⟨by simpa using hI.store.symm.trans hI'.store, ?_⟩
  cases cl with
  | none =>
    cases cl' with
    | none => rfl
    | some j => simpa using (hI.closedIt j).mp ((hI'.closedIt j).mpr rfl)
  | some j => exact ((hI'.closedIt j).mp ((hI.closedIt j).mpr rfl)).symm

/-- Under the invariant the request the store reads as is the one `view` names. -/
theorem Inv.stored (hS : Setting e wf id path r₀) (hI : Inv e kinds path r₀ m cl c) :
    stored wf id c.store = view e kinds path r₀ m cl := by
  rw [hI.store]
  rcases hI.node with hnode | ⟨v, hnode, -⟩
  · simp [Closing.stored, view, EntityStore.load_absent hS.key hnode, hnode]
  · rw [stored_present hS (held_current e kinds r₀ cl) hnode]
    simp [view, hnode]

/-- The invariant holds at the start, with the first request stored and nobody having closed it. -/
theorem Inv.start {v : Nat} (hnode : m.find? path = some ⟨v, Entity.toText r₀⟩) (hv : v ≤ m.revision) :
    Inv e kinds path r₀ m none (start e ⟨.memory m, []⟩) where
  store := rfl
  closedIt _ := by simp [Closing.start, ClosedIt]
  open_ h := by simp at h
  node := .inr ⟨v, hnode, hv⟩
  callers _ := trivial

/-- A whole schedule keeps the invariant while the revision counter has room for each of its
operations, and spends at most one revision per operation. -/
theorem Inv.run (hS : Setting e wf id path r₀) (hI : Inv e kinds path r₀ m cl c)
    (sched : List (Action n path)) (hroom : m.revision + sched.length ≤ MemoryStore.revisionBound) :
    ∃ m' cl', Inv e kinds path r₀ m' cl' (run e wf id kinds path sched c) ∧
      m'.revision ≤ m.revision + sched.length := by
  induction sched generalizing m cl c with
  | nil => exact ⟨m, cl, hI, by simp⟩
  | cons a rest ih =>
    simp only [List.length_cons] at hroom
    obtain ⟨m₁, cl₁, hI₁, hmv⟩ := hI.step hS a (by omega)
    have h₁ := hmv.revision
    obtain ⟨m', cl', hI', hrev⟩ := ih hI₁ (by omega)
    exact ⟨m', cl', hI', by simp only [List.length_cons]; omega⟩

theorem run_take_succ {sched : List (Action n path)} {k : Nat} (hk : k < sched.length) (c : Config n) :
    run e wf id kinds path (sched.take (k + 1)) c =
      step e wf id kinds path (run e wf id kinds path (sched.take k) c) sched[k] := by
  rw [List.take_add_one, List.getElem?_eq_getElem hk, Option.toList_some, run_append, run_cons, run_nil]

theorem run_take_of_le {sched : List (Action n path)} {k k' : Nat} (h : k ≤ k') (c : Config n) :
    run e wf id kinds path (sched.take k') c =
      run e wf id kinds path ((sched.take k').drop k) (run e wf id kinds path (sched.take k) c) := by
  have hsplit := List.take_append_drop k (sched.take k')
  rw [List.take_take, Nat.min_eq_left h] at hsplit
  rw [← run_append, hsplit]

/-- A caller that has closed the request stays finished. -/
theorem ClosedIt.step {i : Fin n} (h : ClosedIt (c.callers i)) (a : Action n path) :
    ClosedIt ((step e wf id kinds path c a).callers i) := by
  obtain ⟨o, ho⟩ : ∃ o, c.callers i = .done o := by
    revert h
    cases c.callers i <;> simp [ClosedIt]
  cases a with
  | caller j =>
    by_cases hj : j = i
    · subst hj
      rwa [step_caller_of_done ho]
    · simpa only [Closing.step, Function.update_of_ne (Ne.symm hj)] using h
  | elsewhere => exact h
  | remove => exact h

theorem ClosedIt.run {i : Fin n} (h : ClosedIt (c.callers i)) (sched : List (Action n path)) :
    ClosedIt ((run e wf id kinds path sched c).callers i) := by
  induction sched generalizing c with
  | nil => exact h
  | cons a rest ih => exact ih (h.step a)

/-- The caller that has closed the request stays the one that did. -/
theorem Inv.closer_stays {sched : List (Action n path)} {c₀ : Config n} {k k' : Nat} (hkk : k ≤ k')
    {m' : MemoryStore} {cl' : Option (Fin n)} {i : Fin n}
    (hI : Inv e kinds path r₀ m (some i) (Closing.run e wf id kinds path (sched.take k) c₀))
    (hI' : Inv e kinds path r₀ m' cl' (Closing.run e wf id kinds path (sched.take k') c₀)) :
    cl' = some i := by
  apply (hI'.closedIt i).mp
  rw [run_take_of_le hkk]
  exact ((hI.closedIt i).mpr rfl).run _

end Schedule

/-! ## Along a schedule from the start -/

section Trace

variable {e wf id kinds path r₀} {c₀ : Config n} {m₀ : MemoryStore} {sched : List (Action n path)}
  (hS : Setting e wf id path r₀) (h₀ : Inv e kinds path r₀ m₀ none c₀)
  (hroom : m₀.revision + sched.length ≤ MemoryStore.revisionBound)
include hS h₀ hroom

/-- After every prefix of the schedule the invariant holds, at a revision at most one per
operation past the first. -/
theorem Inv.take {k : Nat} (hk : k ≤ sched.length) :
    ∃ m cl, Inv e kinds path r₀ m cl (Closing.run e wf id kinds path (sched.take k) c₀) ∧
      m.revision ≤ m₀.revision + k := by
  have hlen : (sched.take k).length = k := by simp; omega
  obtain ⟨m, cl, hI, hrev⟩ := h₀.run hS (sched.take k) (by omega)
  exact ⟨m, cl, hI, by omega⟩

/-- The `k`-th operation moves the store from the invariant before it to the one after it. -/
theorem Moved.take {k : Nat} (hk : k < sched.length) {m m' : MemoryStore} {cl cl' : Option (Fin n)}
    (hI : Inv e kinds path r₀ m cl (Closing.run e wf id kinds path (sched.take k) c₀))
    (hI' : Inv e kinds path r₀ m' cl' (Closing.run e wf id kinds path (sched.take (k + 1)) c₀)) :
    Moved e kinds path r₀ m m' cl cl' sched[k] := by
  obtain ⟨m₁, cl₁, hI₁, hrev⟩ := Inv.take hS h₀ hroom hk.le
  obtain ⟨rfl, rfl⟩ := hI₁.unique hI
  obtain ⟨m₂, cl₂, hI₂, hmv⟩ := hI₁.step hS sched[k] (by omega)
  rw [run_take_succ hk] at hI'
  obtain ⟨rfl, rfl⟩ := hI₂.unique hI'
  exact hmv

/-- Two successive values of the stored request are related by `Next`. -/
theorem Successive.next {k : Nat} {x y : Request} (h : Successive e wf id kinds path sched c₀ k x y) :
    Next e.now (some x) (some y) := by
  obtain ⟨hk, hx, hy⟩ := h
  obtain ⟨m, cl, hI, -⟩ := Inv.take hS h₀ hroom hk.le
  obtain ⟨m', cl', hI', -⟩ := Inv.take hS h₀ hroom (Nat.succ_le_of_lt hk)
  rw [storedAt, hI.stored hS] at hx
  rw [storedAt, hI'.stored hS] at hy
  rw [← hx, ← hy]
  exact (Moved.take hS h₀ hroom hk hI hI').next

/-- An operation changes whether the stored request is done only as the save of a caller that
closes it: the store held the first request, and holds it as that caller closed it; nobody had
closed it before, and that caller has after. -/
theorem Successive.closes {k : Nat} {x y : Request} (h : Successive e wf id kinds path sched c₀ k x y)
    (hne : x.isDone ≠ y.isDone) :
    ∃ m m' i, Inv e kinds path r₀ m none (Closing.run e wf id kinds path (sched.take k) c₀) ∧
      Inv e kinds path r₀ m' (some i) (Closing.run e wf id kinds path (sched.take (k + 1)) c₀) ∧
      x = r₀ ∧ y = (kinds i).closed e.now r₀ := by
  obtain ⟨hk, hx, hy⟩ := h
  obtain ⟨m, cl, hI, -⟩ := Inv.take hS h₀ hroom hk.le
  obtain ⟨m', cl', hI', -⟩ := Inv.take hS h₀ hroom (Nat.succ_le_of_lt hk)
  rw [storedAt, hI.stored hS] at hx
  rw [storedAt, hI'.stored hS] at hy
  rcases (Moved.take hS h₀ hroom hk hI hI').closer with rfl | ⟨i, -, rfl, rfl, hv, hv'⟩
  · -- under one closer both reads give the same request
    simp only [view, Option.map_eq_some_iff] at hx hy
    obtain ⟨_, -, rfl⟩ := hx
    obtain ⟨_, -, rfl⟩ := hy
    exact absurd rfl hne
  · rw [hv, Option.some.injEq] at hx
    rw [hv', Option.some.injEq] at hy
    exact ⟨m, m', i, hI, hI', hx.symm, hy.symm⟩

/-- Whether the stored request is done changes in at most one operation of a schedule. -/
theorem Successive.changes_once {k k' : Nat} {x y x' y' : Request}
    (h : Successive e wf id kinds path sched c₀ k x y) (h' : Successive e wf id kinds path sched c₀ k' x' y')
    (hne : x.isDone ≠ y.isDone) (hne' : x'.isDone ≠ y'.isDone) : k = k' := by
  obtain ⟨_, _, i, hI₁, hI₂, -⟩ := h.closes hS h₀ hroom hne
  obtain ⟨_, _, i', hI₁', hI₂', -⟩ := h'.closes hS h₀ hroom hne'
  rcases lt_trichotomy k k' with hlt | heq | hgt
  · simpa using Inv.closer_stays (Nat.succ_le_of_lt hlt) hI₂ hI₁'
  · exact heq
  · simpa using Inv.closer_stays (Nat.succ_le_of_lt hgt) hI₂' hI₁

/-- A caller that has closed the request by the first `k` operations did so at one of them: it
took the store from the first request, open, to it as that caller closed it. -/
theorem closer_found {i : Fin n} :
    ∀ k ≤ sched.length, ∀ {m : MemoryStore},
      Inv e kinds path r₀ m (some i) (Closing.run e wf id kinds path (sched.take k) c₀) →
      ∃ k' < k, Successive e wf id kinds path sched c₀ k' r₀ ((kinds i).closed e.now r₀) ∧
        r₀.isDone = false := by
  intro k
  induction k with
  | zero =>
    intro _ m hI
    simp only [List.take_zero, run_nil] at hI
    simpa using (h₀.unique hI).2
  | succ k ih =>
    intro hk m hI
    obtain ⟨mk, clk, hIk, -⟩ := Inv.take hS h₀ hroom (k := k) (by omega)
    rcases (Moved.take hS h₀ hroom (by omega) hIk hI).closer with rfl | ⟨j, -, rfl, hij, hv, hv'⟩
    · obtain ⟨k', hk', hs⟩ := ih (by omega) hIk
      exact ⟨k', by omega, hs⟩
    · -- the `k`-th operation is the closing save
      obtain rfl : i = j := Option.some.inj hij
      refine ⟨k, by omega, ⟨by omega, ?_, ?_⟩, hI.open_ rfl⟩
      · rw [storedAt, hIk.stored hS, hv]
      · rw [storedAt, hI.stored hS, hv']

/-- At the end of a schedule at most one caller answers that it closed the request. -/
theorem answer_true_unique {i j : Fin n}
    (hi : answer (Closing.run e wf id kinds path sched c₀) i = some (.ok true))
    (hj : answer (Closing.run e wf id kinds path sched c₀) j = some (.ok true)) : i = j := by
  obtain ⟨m, cl, hI, -⟩ := h₀.run hS sched hroom
  have h₁ := (hI.closedIt i).mp (answer_eq_true_iff.mp hi)
  have h₂ := (hI.closedIt j).mp (answer_eq_true_iff.mp hj)
  simpa [h₁] using h₂

/-- A caller that answers at the end of a schedule that it closed the request did: one of its
saves took the store from the first request, open, to it as that caller closed it. -/
theorem answer_true_closes {i : Fin n}
    (hi : answer (Closing.run e wf id kinds path sched c₀) i = some (.ok true)) :
    ∃ k, Successive e wf id kinds path sched c₀ k r₀ ((kinds i).closed e.now r₀) ∧ r₀.isDone = false := by
  obtain ⟨m, cl, hI, -⟩ := h₀.run hS sched hroom
  obtain rfl := (hI.closedIt i).mp (answer_eq_true_iff.mp hi)
  rw [← List.take_length (l := sched)] at hI
  obtain ⟨k, -, hs⟩ := closer_found hS h₀ hroom sched.length le_rfl hI
  exact ⟨k, hs⟩

end Trace

/-! ## A request is closed once -/

/-- What closing a request guarantees, for callers on a store from `c₀` and a schedule of their
operations among other writes and the removal of the request. -/
structure ClosesOnce (c₀ : Config n) (sched : List (Action n path)) : Prop where
  /-- `completeRequest` closes the request by one atomic update of the done closer, and does
  nothing more when that update finds it done. -/
  complete : ∀ (c : InvocationContext) (results : List Pair),
    ∃ k : Record Request × Bool → EngineM Unit,
      e.completeRequest c results = e.update [c.workflowName, c.requestId] (Closer.done.close e.now) >>= k ∧
      ∀ r, k (r, false) = pure ()
  /-- `recordFailure` closes it by one atomic update of the closer of the failed invocation, and
  does nothing more when that update fails or finds it done. -/
  fail : ∀ (c : InvocationContext) (failure : EngineError),
    ∃ (before : EngineM Unit) (k : Except EngineError (Record Request × Bool) → EngineM Unit),
      e.recordFailure c failure = (before >>= fun _ =>
        EngineM.result (e.update [c.workflowName, c.requestId]
          ((Closer.failed c.invocationId).close e.now)) >>= k) ∧
      (∀ r, k (.ok (r, false)) = pure ()) ∧ ∀ err, k (.error err) = pure ()
  /-- Each such update, run alone, is one caller of the interleaving. -/
  solo : ∀ (k : Closer) (w : World), ∃ o s,
    Phase.stepN (FanIn.ceiling e) [wf, id] (k.close e.now) (2 * FanIn.ceiling e + 1)
        (.reading (FanIn.ceiling e)) w.store = (.done o, s) ∧
      (e.update [wf, id] (k.close e.now)).run w =
        (o.mapError fun err => .error (.domain err), { w with store := s })
  /-- Whether the stored request is done changes only from not done to done, in a write that sets
  the time it was done. -/
  isDone_once : ∀ k x y, Successive e wf id kinds path sched c₀ k x y → x.isDone ≠ y.isDone →
    x.isDone = false ∧ y.isDone = true ∧ y.doneAt = some e.now
  /-- The time it was done changes in no other write. -/
  doneAt_with : ∀ k x y, Successive e wf id kinds path sched c₀ k x y → x.doneAt ≠ y.doneAt →
    x.isDone = false ∧ y.isDone = true
  /-- Nor does the failed invocation. -/
  failed_with : ∀ k x y, Successive e wf id kinds path sched c₀ k x y →
    x.failedInvocation ≠ y.failedInvocation → x.isDone = false ∧ y.isDone = true
  /-- No write changes what the request is. -/
  fixed : ∀ k x y, Successive e wf id kinds path sched c₀ k x y →
    y.workflow = x.workflow ∧ y.id = x.id ∧ y.job = x.job ∧ y.invocation = x.invocation ∧
      y.context = x.context ∧ y.isBlocking = x.isBlocking
  /-- That write happens at most once. -/
  changes_once : ∀ k k' x y x' y', Successive e wf id kinds path sched c₀ k x y →
    Successive e wf id kinds path sched c₀ k' x' y' → x.isDone ≠ y.isDone → x'.isDone ≠ y'.isDone →
    k = k'
  /-- At most one caller answers that it closed the request. -/
  observed_once : ∀ i j, answer (run e wf id kinds path sched c₀) i = some (.ok true) →
    answer (run e wf id kinds path sched c₀) j = some (.ok true) → i = j
  /-- A caller that answers so made that write, over the first request, open. -/
  observed_closes : ∀ i, answer (run e wf id kinds path sched c₀) i = some (.ok true) →
    ∃ k, Successive e wf id kinds path sched c₀ k r₀ ((kinds i).closed e.now r₀) ∧ r₀.isDone = false

section Ceiling

variable {e wf id kinds path r₀} {m : MemoryStore}

/-- At the ceiling of the revision counter a write keeps the version the node had. -/
theorem find?_write_at_ceiling (hm : m.revision = MemoryStore.revisionBound) (q : String) (y : Request) :
    (m.write q (Entity.toText y)).2.find? q = some ⟨MemoryStore.revisionBound, Entity.toText y⟩ ∧
      (m.write q (Entity.toText y)).2.revision = MemoryStore.revisionBound := by
  rw [MemoryStore.find?_write, if_pos rfl, MemoryStore.revision_write, hm]
  simp

/-- At the ceiling two callers that both read the request before either saves both close it: the
second save meets the version the first one kept. -/
theorem closes_twice_at_ceiling (hS : Setting e wf id path r₀) (hopen : r₀.isDone = false)
    (hm : m.revision = MemoryStore.revisionBound)
    (hnode : m.find? path = some ⟨MemoryStore.revisionBound, Entity.toText r₀⟩) {i j : Fin n}
    (hij : i ≠ j) :
    answer (run e wf id kinds path [.caller i, .caller j, .caller i, .caller j]
        (start e ⟨.memory m, []⟩)) i = some (.ok true) ∧
      answer (run e wf id kinds path [.caller i, .caller j, .caller i, .caller j]
        (start e ⟨.memory m, []⟩)) j = some (.ok true) ∧
      Successive e wf id kinds path [.caller i, .caller j, .caller i, .caller j]
        (start e ⟨.memory m, []⟩) 3 ((kinds i).closed e.now r₀) ((kinds j).closed e.now r₀) := by
  set l := FanIn.ceiling e - 1
  have hC : FanIn.ceiling e = l + 1 := by have := FanIn.ceiling_pos e; omega
  set c₀ : Config n := start e ⟨.memory m, []⟩ with hc₀
  have hread (k : Fin n) : c₀.callers k = .reading (l + 1) := by rw [hc₀, ← hC]; rfl
  have hxi : Held e r₀ ((kinds i).closed e.now r₀) := .inr ⟨_, rfl⟩
  have hxj : Held e r₀ ((kinds j).closed e.now r₀) := .inr ⟨_, rfl⟩
  set c₁ := step e wf id kinds path c₀ (.caller i) with hc₁
  have h₁ : c₁ = ⟨Function.update c₀.callers i
      (.saving l (some MemoryStore.revisionBound) ((kinds i).closed e.now r₀) true), c₀.store⟩ := by
    rw [hc₁, step_reading_present hS (.inl rfl) (hread i) rfl hnode, Closer.next_of_open _ hopen]
  set c₂ := step e wf id kinds path c₁ (.caller j) with hc₂
  have h₂ : c₂ = ⟨Function.update c₁.callers j
      (.saving l (some MemoryStore.revisionBound) ((kinds j).closed e.now r₀) true), c₀.store⟩ := by
    have hj : c₁.callers j = .reading (l + 1) := by
      simp only [h₁, Function.update_of_ne hij.symm, hread]
    rw [hc₂, step_reading_present hS (.inl rfl) hj (by rw [h₁]; rfl) hnode, Closer.next_of_open _ hopen, h₁]
  obtain ⟨hnode₃, hm₃⟩ := find?_write_at_ceiling hm path ((kinds i).closed e.now r₀)
  set m₃ := (m.write path (Entity.toText ((kinds i).closed e.now r₀))).2
  set c₃ := step e wf id kinds path c₂ (.caller i) with hc₃
  have h₃ : c₃ = ⟨Function.update c₂.callers i (.done (.ok (⟨(kinds i).closed e.now r₀,
      some (m.write path (Entity.toText ((kinds i).closed e.now r₀))).1⟩, true))), ⟨.memory m₃, []⟩⟩ := by
    have hi : c₂.callers i = .saving l (some MemoryStore.revisionBound) ((kinds i).closed e.now r₀) true := by
      simp only [h₂, h₁, Function.update_of_ne hij, Function.update_self]
    exact step_saving_current hS hxi hi (by rw [h₂]; rfl) hnode
  obtain ⟨hnode₄, -⟩ := find?_write_at_ceiling hm₃ path ((kinds j).closed e.now r₀)
  set c₄ := step e wf id kinds path c₃ (.caller j) with hc₄
  have h₄ : c₄ = ⟨Function.update c₃.callers j (.done (.ok (⟨(kinds j).closed e.now r₀,
      some (m₃.write path (Entity.toText ((kinds j).closed e.now r₀))).1⟩, true))),
      ⟨.memory (m₃.write path (Entity.toText ((kinds j).closed e.now r₀))).2, []⟩⟩ := by
    have hj : c₃.callers j = .saving l (some MemoryStore.revisionBound) ((kinds j).closed e.now r₀) true := by
      simp only [h₃, h₂, Function.update_of_ne hij.symm, Function.update_self]
    exact step_saving_current hS hxj hj (by rw [h₃]) hnode₃
  have hrun : run e wf id kinds path [.caller i, .caller j, .caller i, .caller j] c₀ = c₄ := rfl
  refine ⟨?_, ?_, by simp, ?_, ?_⟩
  · rw [hrun, h₄, answer]
    simp [Function.update_of_ne hij, h₃, Except.map]
  · rw [hrun, h₄, answer]
    simp [Except.map]
  · show stored wf id c₃.store = _
    rw [h₃]
    exact stored_present hS hxi hnode₃
  · show stored wf id c₄.store = _
    rw [h₄]
    exact stored_present hS hxj hnode₄

end Ceiling

end MapReduce.Closing
