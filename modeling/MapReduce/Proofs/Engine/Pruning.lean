import MapReduce.Proofs.Engine.Pointers
import MapReduce.Engine.Cleanup
import Mathlib

/-! # Pruning a request

Pruning a request walks the graph of its invocations from the root, deletes eight parts of each
(three datasets, two kinds of relations, the session, the claims and the invocation), then the
request. Whatever the store holds, a pruning that answers a report has counted each part once,
as deleted or as already gone; a simulated pruning changes nothing; and on the in-memory store a
second pruning finds the request gone and changes nothing either.

The graph walk reads the datasets of every invocation it visits, so a pruning fails when one of
them holds a record nested beyond the reader's depth: these laws are about the prunings that
answer. -/

namespace MapReduce

section Runs

variable {ε σ α β : Type} {m : ExceptT ε (StateM σ) α} {f : α → ExceptT ε (StateM σ) β} {s s' : σ}

/-- A run of `m >>= f` that answers went through an answer of `m`. -/
theorem run_bind_eq_ok {b : β} (h : (m >>= f).run s = (.ok b, s')) :
    ∃ a s₁, m.run s = (.ok a, s₁) ∧ (f a).run s₁ = (.ok b, s') := by
  rcases hm : m.run s with ⟨_ | a, s₁⟩
  · rw [run_bind_error hm] at h
    cases h
  · exact ⟨a, s₁, rfl, by rwa [run_bind_ok hm] at h⟩

end Runs

/-! ## What a program answers -/

namespace Yields

variable {ε σ α β γ : Type} {P : α → Prop} {Q : β → Prop}

theorem trivial (m : ExceptT ε (StateM σ) α) : Yields (fun _ => True) m := fun _ _ _ _ => True.intro

/-- A program whose answers satisfy `P`, followed by programs that from such an answer yield `Q`. -/
theorem bind_of {m : ExceptT ε (StateM σ) α} {f : α → ExceptT ε (StateM σ) β} (hm : Yields P m)
    (hf : ∀ a, P a → Yields Q (f a)) : Yields Q (m >>= f) := by
  intro s b s' hrun
  obtain ⟨a, s₁, hm', hf'⟩ := run_bind_eq_ok hrun
  exact hf a (hm s a s₁ hm') s₁ b s' hf'

/-- A loop whose every round, from a state of round `n`, yields a state of round `n + 1` answers
a state of the round its list ends at. -/
theorem forIn {xs : List γ} {f : γ → β → ExceptT ε (StateM σ) (ForInStep β)} (I : Nat → β → Prop)
    (hf : ∀ a ∈ xs, ∀ n b, I n b → Yields (fun s => ∃ b', s = .yield b' ∧ I (n + 1) b') (f a b)) :
    ∀ n b, I n b → Yields (I (n + xs.length)) (forIn xs b f) := by
  induction xs with
  | nil =>
    intro n b hb
    exact pure hb
  | cons a xs ih =>
    intro n b hb
    rw [List.forIn_cons]
    refine bind_of (hf a List.mem_cons_self n b hb) fun s ⟨b', hs, hb'⟩ => ?_
    subst hs
    rw [List.length_cons, ← Nat.add_assoc, Nat.add_right_comm]
    exact ih (fun a ha => hf a (List.mem_cons_of_mem _ ha)) (n + 1) b' hb'

end Yields

/-! ## Counting the parts -/

/-- `b` has counted `k` more parts, as deleted or as already gone, and `j` more invocations than
`r`, with as many requests and the same plan. -/
structure CleanupReport.Counts (r b : CleanupReport) (k j : Nat) : Prop where
  parts : b.deleted + b.alreadyGone = r.deleted + r.alreadyGone + k
  invocations : b.invocations = r.invocations + j
  requests : b.requests = r.requests
  planned : b.planned = r.planned

theorem CleanupReport.Counts.refl (r : CleanupReport) : r.Counts r 0 0 := ⟨rfl, rfl, rfl, rfl⟩

theorem CleanupReport.Counts.trans {r b c : CleanupReport} {k j k' j' : Nat} (h : r.Counts b k j)
    (h' : b.Counts c k' j') : r.Counts c (k + k') (j + j') :=
  ⟨by rw [h'.parts, h.parts]; omega, by rw [h'.invocations, h.invocations]; omega,
    h'.requests.trans h.requests, h'.planned.trans h.planned⟩

namespace Engine

/-- Deleting one part counts it once, as deleted or as already gone, and changes nothing else of
the report. -/
theorem prunePart_counts (r : CleanupReport) (label : String) (delete : DomainM Unit) :
    Yields (fun r' => r.Counts r' 1 0) (prunePart false r label delete) := by
  unfold prunePart
  simp only [Bool.false_eq_true, if_false]
  refine Yields.bind_of (Yields.trivial _) fun outcome _ => ?_
  split
  · exact Yields.pure ⟨Nat.add_right_comm _ _ _, rfl, rfl, rfl⟩
  · split
    · exact Yields.pure ⟨(Nat.add_assoc _ _ _).symm, rfl, rfl, rfl⟩
    · exact Yields.fail _
  · exact Yields.fail _

/-- A round of a loop of deletions counts one more part. -/
theorem prunePart_round {r b : CleanupReport} {n : Nat} (hb : r.Counts b n 0) (label : String)
    (delete : DomainM Unit) :
    Yields (fun s => ∃ b', s = .yield b' ∧ r.Counts b' (n + 1) 0) (do
      let b' ← prunePart false b label delete
      Pure.pure (ForInStep.yield b')) :=
  Yields.bind_of (prunePart_counts b label delete) fun b' h => Yields.pure ⟨b', rfl, hb.trans h⟩

/-- Pruning an invocation counts its eight parts and the invocation. -/
theorem pruneInvocation_counts (wf id : String) (r : CleanupReport) :
    Yields (fun r' => r.Counts r' 8 1) (pruneInvocation false wf id r) := by
  unfold pruneInvocation
  dsimp only
  refine Yields.bind_of (Yields.forIn (fun n b => r.Counts b n 0)
    (fun _ _ _ _ hb => prunePart_round hb _ _) 0 r (.refl r)) fun b₃ h₃ => ?_
  refine Yields.bind_of (Yields.forIn (fun n b => r.Counts b n 0)
    (fun _ _ _ _ hb => prunePart_round hb _ _) _ b₃ h₃) fun b₅ h₅ => ?_
  refine Yields.bind_of (prunePart_counts _ _ _) fun b₆ h₆ => ?_
  refine Yields.bind_of (prunePart_counts _ _ _) fun b₇ h₇ => ?_
  refine Yields.bind_of (prunePart_counts _ _ _) fun b₈ h₈ => Yields.pure ?_
  have hinv : b₈.Counts { b₈ with invocations := b₈.invocations + 1 } 0 1 := ⟨rfl, rfl, rfl, rfl⟩
  exact (h₅.trans h₆ |>.trans h₇ |>.trans h₈).trans hinv

/-- A pruning that answers has found the request gone, or counted one request and, besides it,
eight parts for each invocation of the graph, each as deleted or as already gone; it planned
nothing. -/
theorem pruneRequest_counts (wf req : String) :
    Yields (fun r => r.planned = [] ∧
      (r = { alreadyGone := 1 } ∨ r.requests = 1 ∧ r.deleted + r.alreadyGone = 8 * r.invocations + 1))
      (pruneRequest false wf req) := by
  unfold pruneRequest
  refine Yields.bind_of (Yields.trivial _) fun found _ => ?_
  split
  · exact Yields.pure ⟨rfl, .inl rfl⟩
  dsimp only
  refine Yields.bind_of (Yields.trivial _) fun graph _ => ?_
  refine Yields.bind_of (Yields.forIn
    (fun _ (b : CleanupReport) => b.deleted + b.alreadyGone = 8 * b.invocations ∧ b.requests = 0 ∧ b.planned = [])
    ?_ 0 {} ⟨rfl, rfl, rfl⟩) fun b hb => ?_
  · intro node _ n b ⟨hparts, hreq, hplan⟩
    refine Yields.bind_of (pruneInvocation_counts wf node.id b) fun b' h => Yields.pure ⟨b', rfl, ?_⟩
    refine ⟨?_, h.requests.trans hreq, h.planned.trans hplan⟩
    rw [h.parts, h.invocations, hparts]
    omega
  obtain ⟨hparts, hreq, hplan⟩ := hb
  refine Yields.bind_of (prunePart_counts _ _ _) fun c hc => Yields.pure ⟨hc.planned.trans hplan, .inr ⟨?_, ?_⟩⟩
  · show c.requests + 1 = 1
    rw [hc.requests, hreq]
  · show c.deleted + c.alreadyGone = 8 * c.invocations + 1
    rw [hc.parts, hc.invocations, hparts]
    omega

end Engine

/-! ## Simulated pruning -/

theorem Quiet.forIn {ε σ β γ : Type} {xs : List γ} {f : γ → β → ExceptT ε (StateM σ) (ForInStep β)}
    (hf : ∀ a b, Quiet (f a b)) (b : β) : Quiet (forIn xs b f) := by
  induction xs generalizing b with
  | nil => exact Quiet.pure b
  | cons a xs ih =>
    rw [List.forIn_cons]
    refine Quiet.bind (hf a b) fun s => ?_
    cases s with
    | done b' => exact Quiet.pure b'
    | yield b' => exact ih b'

theorem Dataset.list_quiet (d : Dataset) : Quiet d.list :=
  Quiet.adapt _ (Quiet.bind (Quiet.bind (Quiet.bind (Kv.read_quiet _) fun _ => Kv.liftExcept_quiet _)
    fun _ => Quiet.pure _) fun _ => Quiet.pure _)

theorem Relations.targets_quiet (r : Relations) : Quiet r.targets :=
  Quiet.adapt _ (Quiet.bind (Kv.read_quiet _) fun _ => Quiet.pure _)

/-- Walking the graph of invocations reads the store and changes nothing. -/
theorem graphFrom_quiet (wf : String) (fuel : Nat) :
    ∀ pending seen g, Quiet (graphFrom wf fuel pending seen g) := by
  induction fuel with
  | zero =>
    intro pending seen g
    rw [graphFrom]
    exact Quiet.pure g
  | succ fuel ih =>
    intro pending seen g
    cases pending with
    | nil =>
      rw [graphFrom]
      exact Quiet.pure g
    | cons id pending =>
      rw [graphFrom]
      dsimp only
      refine Quiet.bind (EngineM.domain_quiet (EntityStore.tryLoad_quiet _ _)) fun _ => ?_
      refine Quiet.bind (EngineM.domain_quiet (Dataset.list_quiet _)) fun _ => ?_
      refine Quiet.bind (EngineM.domain_quiet (Dataset.list_quiet _)) fun _ => ?_
      refine Quiet.bind (EngineM.domain_quiet (Dataset.list_quiet _)) fun _ => ?_
      refine Quiet.bind (Quiet.forIn (fun k _ => ?_) _) fun _ => ih _ _ _
      refine Quiet.bind (EngineM.domain_quiet (Relations.targets_quiet _)) fun _ => ?_
      refine Quiet.bind (Quiet.forIn (fun t _ => ?_) _) fun _ => Quiet.pure _
      split
      · exact Quiet.pure _
      · exact Quiet.pure _

theorem invocationGraph_quiet (wf root : String) : Quiet (invocationGraph wf root) :=
  Quiet.bind (fun _ => rfl) fun _ => graphFrom_quiet wf _ _ _ _

namespace Engine

theorem prunePart_simulated_quiet (r : CleanupReport) (label : String) (delete : DomainM Unit) :
    Quiet (prunePart true r label delete) := by
  unfold prunePart
  exact Quiet.pure _

theorem pruneInvocation_simulated_quiet (wf id : String) (r : CleanupReport) :
    Quiet (pruneInvocation true wf id r) := by
  unfold pruneInvocation
  dsimp only
  refine Quiet.bind (Quiet.forIn (fun _ _ => ?_) _) fun _ => ?_
  · exact Quiet.bind (prunePart_simulated_quiet _ _ _) fun _ => Quiet.pure _
  refine Quiet.bind (Quiet.forIn (fun _ _ => ?_) _) fun _ => ?_
  · exact Quiet.bind (prunePart_simulated_quiet _ _ _) fun _ => Quiet.pure _
  refine Quiet.bind (prunePart_simulated_quiet _ _ _) fun _ => ?_
  refine Quiet.bind (prunePart_simulated_quiet _ _ _) fun _ => ?_
  exact Quiet.bind (prunePart_simulated_quiet _ _ _) fun _ => Quiet.pure _

/-- A simulated pruning reads the store and changes nothing, whatever it answers. -/
theorem pruneRequest_simulated_quiet (wf req : String) : Quiet (pruneRequest true wf req) := by
  unfold pruneRequest
  refine Quiet.bind (EngineM.domain_quiet (EntityStore.tryLoad_quiet _ _)) fun found => ?_
  split
  · exact Quiet.pure _
  dsimp only
  refine Quiet.bind (invocationGraph_quiet _ _) fun _ => ?_
  refine Quiet.bind (Quiet.forIn (fun _ _ => ?_) _) fun _ => ?_
  · exact Quiet.bind (pruneInvocation_simulated_quiet _ _ _) fun _ => Quiet.pure _
  exact Quiet.bind (prunePart_simulated_quiet _ _ _) fun _ => Quiet.pure _

end Engine

/-! ## Pruning twice -/

/-- A store whose backend is the in-memory store. -/
def Store.InMemory (s : Store) : Prop := ∃ m, s.backend = .memory m

/-- A program of the store that keeps it in memory, however it ends. -/
def StaysInMemory {ε α : Type} (prog : ExceptT ε (StateM Store) α) : Prop :=
  ∀ s : Store, s.InMemory → (prog.run s).2.InMemory

/-- An engine program that keeps its store in memory, however it ends. -/
def EngineM.StaysInMemory {α : Type} (prog : EngineM α) : Prop :=
  ∀ w : World, w.store.InMemory → (prog.run w).2.store.InMemory

namespace StaysInMemory

theorem write {α : Type} {f : Backend → Except KvError α × Backend}
    (hf : ∀ m, ∃ m', (f (.memory m)).2 = .memory m') : StaysInMemory (Kv.write f) := by
  rintro s ⟨m, hm⟩
  obtain ⟨m', hm'⟩ := hf m
  refine ⟨m', ?_⟩
  show (f s.backend).2 = _
  rw [hm, hm']

theorem onMemory {α : Type} (m : MemoryStore) (r : Except KvError (α × MemoryStore)) :
    ∃ m', (Backend.onMemory m r).2 = .memory m' := by
  cases r with
  | ok am => exact ⟨am.2, rfl⟩
  | error e => exact ⟨m, rfl⟩

theorem deleteTree (key : Identity) : StaysInMemory (Kv.deleteTree key) :=
  write fun m => onMemory m _

theorem delete (key : Identity) : StaysInMemory (Kv.delete key) :=
  write fun m => onMemory m _

theorem liftKv {α : Type} {m : KvM α} (hm : StaysInMemory m) : StaysInMemory (liftKv m) :=
  fun s hs => hm s hs

end StaysInMemory

namespace EngineM

theorem domain_run_store {α : Type} (d : DomainM α) (w : World) : ((EngineM.domain d).run w).2.store = (d.run w.store).2 := by
  show (EngineM.domain d w).2.store = _
  unfold EngineM.domain
  split <;> rename_i h <;> rw [h]

theorem result_run_error {α : Type} {m : EngineM α} {w w' : World} {e : EngineError}
    (hm : m.run w = (.error (.error e), w')) : (EngineM.result m).run w = (.ok (.error e), w') := by
  have hmap : (m.map (Except.ok (ε := EngineError))).run w = (.error (.error e), w') := by
    simp only [ExceptT.map, ExceptT.run, ExceptT.mk, bind, StateT.bind] at hm ⊢
    rw [hm]
    rfl
  rw [EngineM.result, EngineM.catchFailure_run_error hmap]
  rfl

/-- Catching the failures of a program ends where the program ended. -/
theorem result_run_world {α : Type} (m : EngineM α) (w : World) : ((EngineM.result m).run w).2 = (m.run w).2 := by
  rcases h : m.run w with ⟨_ | a, w'⟩
  · rename_i err
    cases err with
    | error e => rw [result_run_error h]
    | abort =>
      have hmap : (m.map (Except.ok (ε := EngineError))).run w = (.error .abort, w') := by
        simp only [ExceptT.map, ExceptT.run, ExceptT.mk, bind, StateT.bind] at h ⊢
        rw [h]
        rfl
      rw [EngineM.result, EngineM.catchFailure_run_abort hmap]
  · rw [EngineM.result_run_ok h]

end EngineM

namespace EngineM.StaysInMemory

variable {α β γ : Type}

theorem of_quiet {prog : EngineM α} (h : Quiet prog) : EngineM.StaysInMemory prog := by
  intro w hw
  rw [h w]
  exact hw

theorem bind {m : EngineM α} {f : α → EngineM β} (hm : EngineM.StaysInMemory m)
    (hf : ∀ a, EngineM.StaysInMemory (f a)) : EngineM.StaysInMemory (m >>= f) := by
  intro w hw
  rcases h : m.run w with ⟨_ | a, w₁⟩
  · rw [run_bind_error h]
    simpa [h] using hm w hw
  · rw [run_bind_ok h]
    exact hf a w₁ (by simpa [h] using hm w hw)

theorem forIn {xs : List γ} {f : γ → β → EngineM (ForInStep β)}
    (hf : ∀ a b, EngineM.StaysInMemory (f a b)) (b : β) : EngineM.StaysInMemory (forIn xs b f) := by
  induction xs generalizing b with
  | nil => exact of_quiet (Quiet.pure b)
  | cons a xs ih =>
    rw [List.forIn_cons]
    refine bind (hf a b) fun s => ?_
    cases s with
    | done b' => exact of_quiet (Quiet.pure b')
    | yield b' => exact ih b'

theorem domain {d : DomainM α} (hd : MapReduce.StaysInMemory d) : EngineM.StaysInMemory (EngineM.domain d) := by
  intro w hw
  rw [EngineM.domain_run_store]
  exact hd w.store hw

/-- The world a run of such a program ends in keeps its store in memory. -/
theorem of_run {prog : EngineM α} {w w' : World} {r : Except Fault α} (h : prog.run w = (r, w'))
    (hs : EngineM.StaysInMemory prog) (hw : w.store.InMemory) : w'.store.InMemory := by
  have := hs w hw
  rwa [h] at this

theorem result {m : EngineM α} (hm : EngineM.StaysInMemory m) : EngineM.StaysInMemory (EngineM.result m) := by
  intro w hw
  rw [EngineM.result_run_world]
  exact hm w hw

end EngineM.StaysInMemory

/-- Encoding an identity fails only on a segment, never for a missing node. -/
theorem Identity.encode_error_isNotFound {id : Identity} {e : KvError} (h : id.encode = .error e) :
    e.isNotFound = false := by
  unfold Identity.encode at h
  split at h
  · rename_i e' hm
    cases h
    obtain ⟨segs⟩ := id
    induction segs with
    | nil => cases hm
    | cons s rest ih =>
      simp only [List.mapM_cons] at hm
      rcases hs : Identity.validateSegment s with e'' | ⟨⟩
      · rw [hs] at hm
        cases hm
        unfold Identity.validateSegment at hs
        split at hs
        · cases hs; rfl
        · split at hs
          · cases hs; rfl
          · cases hs
      · rw [hs] at hm
        rcases hr : rest.mapM Identity.validateSegment with e'' | us
        · rw [hr] at hm
          cases hm
          exact ih hr
        · rw [hr] at hm
          cases hm
  · cases h

/-- A deletion of an entity of the in-memory store that ended without a failure other than a missing
node leaves no node at the entity's key. -/
theorem EntityStore.delete_gone {α : Type} [Entity α] {identity : List String} {s : Store} {m : MemoryStore}
    (hm : s.backend = .memory m)
    (hnf : ∀ e, ((EntityStore.delete α identity).run s).1 = .error e → e.isNotFound = true) :
    ∃ m' p, ((EntityStore.delete α identity).run s).2.backend = .memory m' ∧
      (EntityStore.entityKey α identity).encode = .ok p ∧ m'.find? p = none := by
  obtain ⟨b, rivals⟩ := s
  simp only at hm
  subst hm
  have hrun : ∀ (r : Except KvError Unit) (s' : Store), (Kv.delete (EntityStore.entityKey α identity)).run
      ⟨.memory m, rivals⟩ = (r, s') → (EntityStore.delete α identity).run ⟨.memory m, rivals⟩ = (r.mapError .kv, s') := by
    intro r s' h
    show (ExceptT.adapt DomainError.kv (Kv.delete _)).run _ = _
    simp only [ExceptT.adapt, ExceptT.run, ExceptT.mk, Functor.map, StateT.map] at h ⊢
    rw [h]
    rfl
  cases henc : (EntityStore.entityKey α identity).encode with
  | error e =>
    have hdel : m.delete (EntityStore.entityKey α identity) = .error e := by
      simp [MemoryStore.delete, henc, bind, Except.bind]
    have h := hrun _ _ (Kv.delete_memory_error rivals hdel)
    have := hnf (.kv e) (by rw [h]; rfl)
    rw [DomainError.isNotFound, Identity.encode_error_isNotFound henc] at this
    cases this
  | ok p =>
    cases hf : m.find? p with
    | none =>
      have hdel : m.delete (EntityStore.entityKey α identity) = .error (.notFound p) := by
        simp [MemoryStore.delete, henc, hf, bind, Except.bind]
      rw [hrun _ _ (Kv.delete_memory_error rivals hdel)]
      exact ⟨m, p, rfl, rfl, hf⟩
    | some n =>
      have hdel : m.delete (EntityStore.entityKey α identity) = .ok { m.bump with
          nodes := m.nodes.filter (·.1 != p)
          sorted := m.sorted_filter _ } := by
        simp [MemoryStore.delete, henc, hf, bind, Except.bind]
      rw [hrun _ _ (Kv.delete_memory rivals hdel)]
      refine ⟨_, p, rfl, rfl, ?_⟩
      rw [MemoryStore.find?_delete henc hdel, if_pos rfl]

/-- Reading an entity where the in-memory store has no node answers that there is none, changing
nothing. -/
theorem EntityStore.tryLoad_absent {α : Type} [Entity α] {identity : List String} {s : Store}
    {m : MemoryStore} {p : String} (hm : s.backend = .memory m)
    (hkey : (EntityStore.entityKey α identity).encode = .ok p) (hnone : m.find? p = none) :
    (EntityStore.tryLoad α identity).run s = (.ok none, s) := by
  obtain ⟨b, rivals⟩ := s
  simp only at hm
  subst hm
  show EntityStore.tryLoad α identity ⟨.memory m, rivals⟩ = _
  unfold EntityStore.tryLoad
  rw [EntityStore.load_absent hkey hnone]
  rfl

namespace Engine

theorem prunePart_stays {d : DomainM Unit} (hd : StaysInMemory d) (simulate : Bool) (r : CleanupReport)
    (label : String) : EngineM.StaysInMemory (prunePart simulate r label d) := by
  unfold prunePart
  split
  · exact .of_quiet (Quiet.pure _)
  refine .bind (.result (.domain hd)) fun outcome => ?_
  split
  · exact .of_quiet (Quiet.pure _)
  · split
    · exact .of_quiet (Quiet.pure _)
    · exact .of_quiet (EngineM.fail_quiet _)
  · exact .of_quiet (EngineM.fail_quiet _)

theorem pruneInvocation_stays (simulate : Bool) (wf id : String) (r : CleanupReport) :
    EngineM.StaysInMemory (pruneInvocation simulate wf id r) := by
  unfold pruneInvocation
  dsimp only
  have htree : ∀ key, StaysInMemory (liftKv (Kv.deleteTree key)) := fun _ => .liftKv (.deleteTree _)
  refine .bind (.forIn (fun _ _ => .bind (prunePart_stays (htree _) _ _ _) fun _ => .of_quiet (Quiet.pure _)) _)
    fun _ => ?_
  refine .bind (.forIn (fun _ _ => .bind (prunePart_stays (htree _) _ _ _) fun _ => .of_quiet (Quiet.pure _)) _)
    fun _ => ?_
  refine .bind (prunePart_stays (htree _) _ _ _) fun _ => ?_
  refine .bind (prunePart_stays (htree _) _ _ _) fun _ => ?_
  exact .bind (prunePart_stays (.liftKv (.delete _)) _ _ _) fun _ => .of_quiet (Quiet.pure _)

/-- A deletion of a pruning that answers ended where the deletion ended, having deleted the part or
found it gone. -/
theorem prunePart_answers {r r' : CleanupReport} {label : String} {d : DomainM Unit} {w w' : World}
    (h : (prunePart false r label d).run w = (.ok r', w')) :
    w' = { w with store := (d.run w.store).2 } ∧ ∀ e, (d.run w.store).1 = .error e → e.isNotFound = true := by
  unfold prunePart at h
  simp only [Bool.false_eq_true, if_false] at h
  obtain ⟨outcome, w₁, hres, hrest⟩ := run_bind_eq_ok h
  rcases hd : d.run w.store with ⟨_ | ⟨⟩, s'⟩
  · rename_i e
    rw [EngineM.result_run_error (EngineM.domain_run_error hd)] at hres
    cases hres
    dsimp only at hrest
    split at hrest
    · cases hrest
      exact ⟨rfl, fun e' he' => by cases he'; assumption⟩
    · rw [EngineM.fail_run] at hrest
      cases hrest
  · rw [EngineM.result_run_ok (EngineM.domain_run_ok hd)] at hres
    cases hres
    cases hrest
    exact ⟨rfl, fun e he => by cases he⟩

/-- On the in-memory store, a pruning that answered leaves the request gone: pruning it again
finds it gone, answers only that, and changes nothing. -/
theorem pruneRequest_again {w w' : World} (hw : w.store.InMemory) {wf req : String} {report : CleanupReport}
    (h : (pruneRequest false wf req).run w = (.ok report, w')) :
    (pruneRequest false wf req).run w' = (.ok { alreadyGone := 1 }, w') := by
  have hfirst := h
  unfold pruneRequest at h
  obtain ⟨found, w₁, hfound, hrest⟩ := run_bind_eq_ok h
  have hw₁ : w₁ = w := by
    have := EngineM.domain_quiet (EntityStore.tryLoad_quiet Request [wf, req]) w
    rwa [hfound] at this
  subst hw₁
  cases found with
  | none =>
    cases hrest
    exact hfirst
  | some rec =>
    dsimp only at hrest
    obtain ⟨graph, w₂, hgraph, hrest⟩ := run_bind_eq_ok hrest
    obtain ⟨b, w₃, hloop, hrest⟩ := run_bind_eq_ok hrest
    obtain ⟨c, w₄, hpart, hrest⟩ := run_bind_eq_ok hrest
    cases hrest
    have hw₂ : w₂ = w₁ := by
      have := invocationGraph_quiet wf rec.data.invocation w₁
      rwa [hgraph] at this
    subst hw₂
    obtain ⟨m₃, hm₃⟩ := EngineM.StaysInMemory.of_run hloop
      (.forIn (fun _ _ => .bind (pruneInvocation_stays _ _ _ _) fun _ => .of_quiet (Quiet.pure _)) _) hw
    obtain ⟨rfl, hnf⟩ := prunePart_answers hpart
    obtain ⟨m', p, hm', hkey, hnone⟩ := EntityStore.delete_gone hm₃ hnf
    unfold pruneRequest
    rw [run_bind_ok (EngineM.domain_run_ok (EntityStore.tryLoad_absent hm' hkey hnone))]
    rfl

end Engine

end MapReduce
