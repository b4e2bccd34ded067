import MapReduce.Proofs.Engine.Pruning
import MapReduce.Proofs.Data.Breadth
import Mathlib

/-! # The walk of the invocation graph

`graphFrom` is a breadth-first visit (`Breadth.visits`) of the graph whose successors are the
targets of an invocation's relations, mapped ones first: each step reads one invocation, records
its node and its edges, and queues the targets not seen yet. -/

namespace MapReduce

open Breadth

/-- What the walk reads of an invocation: its record and its three datasets. -/
def TraceNode.read (workflow id : String) : DomainM TraceNode := do
  let inv ← EntityStore.tryLoad Invocation [workflow, id]
  let args ← Dataset.list ⟨workflow, id, .arguments⟩
  let combined ← Dataset.list ⟨workflow, id, .postCombine⟩
  let reduced ← Dataset.list ⟨workflow, id, .postReduce⟩
  pure ⟨id, inv.map (·.data), args, combined, reduced⟩

namespace InvocationGraph

/-- The invocations of a graph, in the order they were visited. -/
def ids (g : InvocationGraph) : List String := g.nodes.map (·.id)

variable (targets : String → RelationKind → List String)

/-- The successors of an invocation when `targets` lists its relations: mapped targets first. -/
def successors (id : String) : List String := RelationKind.all.flatMap (targets id)

/-- The edges from an invocation when `targets` lists its relations, in that order. -/
def edgesFrom (id : String) : List TraceEdge :=
  RelationKind.all.flatMap fun k => (targets id k).map fun t => ⟨id, t, k⟩

end InvocationGraph

/-- An invocation the walk steps over on a store: its reads answer, and each kind of its relations
lists as `targets` says. -/
structure Steppable (st : Store) (wf : String) (targets : String → RelationKind → List String)
    (id : String) : Prop where
  read : ∃ n, (TraceNode.read wf id).run st = (.ok n, st)
  listed : ∀ k, (Relations.targets ⟨wf, id, k⟩).run st = (.ok (targets id k), st)

/-- What the walk carries from one target to the next: the edges of the invocation, the queue and
the invocations seen. -/
abbrev Walked := List TraceEdge × List String × List String

/-- A target of an invocation: its edge is kept, and it is queued and seen unless it was seen. -/
def discover (source : String) (k : RelationKind) (acc : Walked) (t : String) : Walked :=
  if t ∈ acc.2.2 then (acc.1 ++ [⟨source, t, k⟩], acc.2.1, acc.2.2)
  else (acc.1 ++ [⟨source, t, k⟩], acc.2.1 ++ [t], acc.2.2 ++ [t])

/-- The targets of one kind of an invocation, one after the other. -/
def discoverKind (source : String) (targets : RelationKind → List String) (acc : Walked)
    (k : RelationKind) : Walked :=
  (targets k).foldl (discover source k) acc

theorem foldl_discover (source : String) (k : RelationKind) (ts : List String) (edges : List TraceEdge)
    (pending seen : List String) :
    ts.foldl (discover source k) (edges, pending, seen) =
      (edges ++ ts.map (⟨source, ·, k⟩), pending ++ fresh seen ts, seen ++ fresh seen ts) := by
  induction ts generalizing edges pending seen with
  | nil => simp [fresh]
  | cons t ts ih =>
    rw [List.foldl_cons, discover]
    by_cases ht : t ∈ seen
    · simp [ht, ih, fresh]
    · simp [ht, ih, fresh]

theorem foldl_discoverKind (source : String) (targets : RelationKind → List String) (ks : List RelationKind)
    (edges : List TraceEdge) (pending seen : List String) :
    ks.foldl (discoverKind source targets) (edges, pending, seen) =
      (edges ++ ks.flatMap (fun k => (targets k).map (⟨source, ·, k⟩)),
        pending ++ fresh seen (ks.flatMap targets), seen ++ fresh seen (ks.flatMap targets)) := by
  induction ks generalizing edges pending seen with
  | nil => simp [fresh]
  | cons k ks ih =>
    rw [List.foldl_cons, discoverKind, foldl_discover, ih]
    simp [fresh_append]

/-! ## Runs of reads and loops -/

/-- A quiet program ends in the state it started from. -/
theorem Quiet.run_eq {ε σ α : Type} {m : ExceptT ε (StateM σ) α} (hm : Quiet m) {s s' : σ}
    {r : Except ε α} (h : m.run s = (r, s')) : s' = s := by
  simpa [h] using hm s

theorem EngineM.domain_run_quiet {α : Type} {d : DomainM α} {w : World} {a : α}
    (h : d.run w.store = (.ok a, w.store)) : (EngineM.domain d).run w = (.ok a, w) :=
  EngineM.domain_run_ok h

/-- A loop whose every round yields without changing the state runs as a fold. -/
theorem run_forIn_yield {ε σ β γ : Type} {xs : List γ} {f : γ → β → ExceptT ε (StateM σ) (ForInStep β)}
    (step : β → γ → β) {s : σ} (hf : ∀ a ∈ xs, ∀ b, (f a b).run s = (.ok (.yield (step b a)), s)) (b : β) :
    (forIn xs b f).run s = (.ok (xs.foldl step b), s) := by
  induction xs generalizing b with
  | nil => rfl
  | cons a xs ih =>
    rw [List.forIn_cons, run_bind_ok (hf a (by simp) b), List.foldl_cons]
    exact ih (fun a' ha' => hf a' (by simp [ha'])) _

/-- A read of an invocation that answers went through an answer of each of its reads. -/
theorem TraceNode.read_run {wf id : String} {st : Store} {n : TraceNode}
    (h : (TraceNode.read wf id).run st = (.ok n, st)) :
    ∃ inv, (EntityStore.tryLoad Invocation [wf, id]).run st = (.ok inv, st) ∧
      (Dataset.list ⟨wf, id, .arguments⟩).run st = (.ok n.arguments, st) ∧
      (Dataset.list ⟨wf, id, .postCombine⟩).run st = (.ok n.postCombine, st) ∧
      (Dataset.list ⟨wf, id, .postReduce⟩).run st = (.ok n.postReduce, st) ∧
      n = ⟨id, inv.map (·.data), n.arguments, n.postCombine, n.postReduce⟩ := by
  obtain ⟨inv, s₁, h₁, h⟩ := run_bind_eq_ok h
  obtain ⟨args, s₂, h₂, h⟩ := run_bind_eq_ok h
  obtain ⟨combined, s₃, h₃, h⟩ := run_bind_eq_ok h
  obtain ⟨reduced, s₄, h₄, h⟩ := run_bind_eq_ok h
  obtain rfl := (EntityStore.tryLoad_quiet Invocation [wf, id]).run_eq h₁
  obtain rfl := (Dataset.list_quiet _).run_eq h₂
  obtain rfl := (Dataset.list_quiet _).run_eq h₃
  obtain rfl := (Dataset.list_quiet _).run_eq h₄
  cases h
  exact ⟨inv, h₁, h₂, h₃, h₄, rfl⟩

theorem TraceNode.read_quiet (wf id : String) : Quiet (TraceNode.read wf id) :=
  Quiet.bind (EntityStore.tryLoad_quiet _ _) fun _ => Quiet.bind (Dataset.list_quiet _) fun _ =>
    Quiet.bind (Dataset.list_quiet _) fun _ => Quiet.bind (Dataset.list_quiet _) fun _ => Quiet.pure _

/-- A quiet program whose run answers answers in the state it started from. -/
theorem Quiet.exists_run_ok {ε σ α : Type} {m : ExceptT ε (StateM σ) α} (hm : Quiet m) {s : σ}
    (h : (m.run s).1.isOk = true) : ∃ a, m.run s = (.ok a, s) := by
  rcases hr : m.run s with ⟨_ | a, s'⟩
  · rw [hr] at h
    cases h
  · exact ⟨a, by rw [hm.run_eq hr]⟩

theorem TraceNode.read_id {wf id : String} {st : Store} {n : TraceNode}
    (h : (TraceNode.read wf id).run st = (.ok n, st)) : n.id = id := by
  obtain ⟨_, _, _, _, _, hn⟩ := TraceNode.read_run h
  rw [hn]

/-! ## The walk -/

section Walk

variable {targets : String → RelationKind → List String} {wf : String} {w : World}

/-- A step of the walk reads the invocation at the head of the queue, records its node and edges,
and queues its targets not seen yet. -/
theorem graphFrom_succ {id : String} {fuel : Nat} {P S : List String} {g : InvocationGraph} {n : TraceNode}
    (hn : (TraceNode.read wf id).run w.store = (.ok n, w.store))
    (hk : ∀ k, (Relations.targets ⟨wf, id, k⟩).run w.store = (.ok (targets id k), w.store)) :
    (graphFrom wf (fuel + 1) (id :: P) S g).run w =
      (graphFrom wf fuel (P ++ fresh S (InvocationGraph.successors targets id))
        (S ++ fresh S (InvocationGraph.successors targets id))
        ⟨g.nodes ++ [n], g.edges ++ InvocationGraph.edgesFrom targets id⟩).run w := by
  obtain ⟨inv, h₁, h₂, h₃, h₄, hn⟩ := TraceNode.read_run hn
  rw [graphFrom, run_bind_ok (EngineM.domain_run_quiet h₁), run_bind_ok (EngineM.domain_run_quiet h₂),
    run_bind_ok (EngineM.domain_run_quiet h₃), run_bind_ok (EngineM.domain_run_quiet h₄)]
  rw [run_bind_ok (run_forIn_yield (discoverKind id (targets id)) ?_ _)]
  · rw [foldl_discoverKind, ← hn]
    rfl
  · intro k _ acc
    rw [run_bind_ok (EngineM.domain_run_quiet (hk k)), run_bind_ok (run_forIn_yield (discover id k) ?_ _)]
    · rfl
    · intro t _ acc'
      by_cases ht : t ∈ acc'.2.2
      · simp [discover, ht]
        rfl
      · simp [discover, ht]
        rfl

/-- The walk from a queue over invocations it can step over answers the nodes and the edges of
the breadth-first visits, in order, and changes nothing. -/
theorem graphFrom_run (fuel : Nat) (P S : List String) (g : InvocationGraph)
    (h : ∀ x ∈ visits (InvocationGraph.successors targets) fuel P S, Steppable w.store wf targets x) :
    ∃ ns, (graphFrom wf fuel P S g).run w =
        (.ok ⟨g.nodes ++ ns, g.edges ++
          (visits (InvocationGraph.successors targets) fuel P S).flatMap (InvocationGraph.edgesFrom targets)⟩, w) ∧
      ns.map (·.id) = visits (InvocationGraph.successors targets) fuel P S ∧
      ∀ n ∈ ns, (TraceNode.read wf n.id).run w.store = (.ok n, w.store) := by
  induction fuel generalizing P S g with
  | zero => exact ⟨[], by simp [graphFrom, visits]; rfl, by simp [visits], by simp⟩
  | succ fuel ih =>
    cases P with
    | nil => exact ⟨[], by simp [graphFrom, visits]; rfl, by simp [visits], by simp⟩
    | cons x P =>
      rw [visits] at h ⊢
      obtain ⟨⟨n, hn⟩, hk⟩ := h x (List.mem_cons_self ..)
      obtain ⟨ns, hrun, hids, hreads⟩ := ih _ _ ⟨g.nodes ++ [n], g.edges ++ InvocationGraph.edgesFrom targets x⟩
        fun y hy => h y (List.mem_cons_of_mem x hy)
      refine ⟨n :: ns, ?_, ?_, ?_⟩
      · rw [graphFrom_succ hn hk, hrun]
        simp
      · rw [List.map_cons, hids, TraceNode.read_id hn]
      · intro n' hn'
        rcases List.mem_cons.mp hn' with rfl | hn'
        · rwa [TraceNode.read_id hn]
        · exact hreads n' hn'

end Walk

/-! ## The edges of a walk -/

section Edges

variable {targets : String → RelationKind → List String}

theorem RelationKind.mem_all (k : RelationKind) : k ∈ RelationKind.all := by
  cases k <;> simp [RelationKind.all]

theorem InvocationGraph.mem_edgesFrom {id : String} {e : TraceEdge} :
    e ∈ InvocationGraph.edgesFrom targets id ↔ e.source = id ∧ e.target ∈ targets id e.relation := by
  constructor
  · intro h
    obtain ⟨k, -, t, ht, rfl⟩ := by simpa [InvocationGraph.edgesFrom] using h
    exact ⟨rfl, ht⟩
  · rintro ⟨hs, ht⟩
    simp only [InvocationGraph.edgesFrom, List.mem_flatMap, List.mem_map]
    exact ⟨e.relation, RelationKind.mem_all _, e.target, ht, by rw [← hs]⟩

/-- The edges from an invocation whose targets of each kind are distinct are distinct. -/
theorem InvocationGraph.nodup_edgesFrom {id : String} (h : ∀ k, (targets id k).Nodup) :
    (InvocationGraph.edgesFrom targets id).Nodup := by
  refine List.nodup_flatMap.mpr ⟨fun k _ => (h k).map fun a b hab => by cases hab; rfl, ?_⟩
  simp only [RelationKind.all, List.pairwise_cons, List.mem_singleton, forall_eq, List.not_mem_nil,
    IsEmpty.forall_iff, implies_true, List.Pairwise.nil, and_true]
  intro e h₁ h₂
  obtain ⟨_, _, rfl⟩ := List.mem_map.mp h₁
  obtain ⟨_, _, h⟩ := List.mem_map.mp h₂
  cases h

/-- The edges from distinct invocations whose targets of each kind are distinct are distinct. -/
theorem InvocationGraph.nodup_flatMap_edgesFrom {ids : List String} (hids : ids.Nodup)
    (h : ∀ id ∈ ids, ∀ k, (targets id k).Nodup) : (ids.flatMap (InvocationGraph.edgesFrom targets)).Nodup := by
  refine List.nodup_flatMap.mpr ⟨fun id hid => InvocationGraph.nodup_edgesFrom (h id hid), ?_⟩
  refine hids.imp fun {a b} hab e ha hb => hab ?_
  rw [← (InvocationGraph.mem_edgesFrom.mp ha).1, (InvocationGraph.mem_edgesFrom.mp hb).1]

end Edges

/-! ## On the in-memory store -/

/-- A store program's run lifted to the entity layer ends as the program does. -/
theorem liftKv_run {α : Type} {m : KvM α} {s s' : Store} {r : Except KvError α} (h : m.run s = (r, s')) :
    (liftKv m).run s = (r.mapError DomainError.kv, s') := by
  simp only [liftKv, ExceptT.adapt, ExceptT.run, ExceptT.mk, Functor.map, StateT.map] at h ⊢
  rw [h]
  rfl

namespace Identity

/-- An identity whose segments are all valid has its segments joined by `/` as its path. -/
theorem encode_of_valid {segs : List String} (h : ∀ s ∈ segs, validateSegment s = .ok ()) :
    (Identity.mk segs).encode = .ok (display ⟨segs⟩) := by
  have hm : segs.mapM validateSegment = .ok (segs.map fun _ => ()) := by
    induction segs with
    | nil => rfl
    | cons a rest ih =>
      rw [List.mapM_cons, h a (List.mem_cons_self ..), ih fun s hs => h s (List.mem_cons_of_mem a hs)]
      rfl
  rw [encode, hm]

theorem eq_display_of_encode {id : Identity} {p : String} (h : id.encode = .ok p) : p = id.display := by
  unfold encode at h
  split at h
  · cases h
  · cases h
    rfl

end Identity

namespace MemoryStore

/-- The names stored directly under the tree of an invocation's relations of a kind, in path
order. -/
def relationTargets (m : MemoryStore) (wf id : String) (k : RelationKind) : List String :=
  m.nodes.filterMap fun e => childName? ((Relations.mk wf id k).tree.root.display ++ "/") e.1

/-- The part of a path after its last `/`. -/
def lastSegment (p : String) : String :=
  String.ofList ((p.toList.splitOn '/').getLast (List.splitOn_ne_nil _ _))

/-- A name below a directory ending in `/` is the last segment of its path. -/
theorem lastSegment_of_childName? {root p x : String} (h : childName? (root ++ "/") p = some x) :
    lastSegment p = x := by
  obtain ⟨hp, hx⟩ := toList_of_childName? h
  have hsplit : p.toList.splitOn '/' = root.toList.splitOn '/' ++ [x.toList] := by
    rw [hp, String.toList_append, List.append_assoc]
    rw [show "/".toList ++ x.toList = '/' :: x.toList from rfl, List.splitOn_append_cons_self,
      List.splitOn_eq_singleton hx]
  simp only [lastSegment, hsplit, List.getLast_concat, String.ofList_toList]

/-- Every target of a relation is the last segment of a stored path. -/
theorem mem_relationTargets {m : MemoryStore} {wf id x : String} {k : RelationKind}
    (h : x ∈ m.relationTargets wf id k) : x ∈ m.nodes.map fun e => lastSegment e.1 := by
  obtain ⟨e, he, hx⟩ := List.mem_filterMap.mp h
  exact List.mem_map.mpr ⟨e, he, lastSegment_of_childName? hx⟩

/-- The paths of a store are distinct, so the targets of a relation are distinct. -/
theorem nodup_relationTargets (m : MemoryStore) (wf id : String) (k : RelationKind) :
    (m.relationTargets wf id k).Nodup := by
  have hpaths : (m.nodes.map (·.1)).Nodup := m.sorted.imp ne_of_lt
  rw [relationTargets, ← Function.comp_def, ← List.filterMap_map]
  exact hpaths.filterMap fun _ _ _ ha hb => eq_of_childName? ha hb

end MemoryStore

section Memory

variable {st : Store} {m : MemoryStore}

/-- The memory store lists the targets of relations whose tree has a path. -/
theorem Relations.targets_run_memory (hm : st.backend = .memory m) {r : Relations} {p : String}
    (hp : r.tree.root.encode = .ok p) :
    r.targets.run st = (.ok (m.nodes.filterMap fun e => MemoryStore.childName? (p ++ "/") e.1), st) := by
  have hl : (Kv.listChildren r.tree.root).run st =
      (.ok (m.nodes.filterMap fun e => (MemoryStore.childName? (p ++ "/") e.1).map fun name => (name, e.2)), st) := by
    rw [Kv.listChildren_run_memory hm]
    simp [MemoryStore.listChildren, hp, bind, Except.bind]
  have hk : (Tree.listKeys r.tree).run st =
      (.ok (m.nodes.filterMap fun e => MemoryStore.childName? (p ++ "/") e.1), st) := by
    rw [Tree.listKeys, run_bind_ok hl, List.map_filterMap]
    simp only [Option.map_map, Function.comp_def, Option.map_id']
    rfl
  rw [Relations.targets, liftKv_run hk]
  rfl

/-- Listing a dataset whose queue has no path fails on the memory store. -/
theorem Dataset.list_run_memory_error (hm : st.backend = .memory m) {d : Dataset} {e : KvError}
    (he : d.queue.root.encode = .error e) : d.list.run st = (.error (.kv e), st) := by
  have h₁ : (Kv.listChildren d.queue.root).run st = (.error e, st) := by
    rw [Kv.listChildren_run_memory hm]
    simp [MemoryStore.listChildren, he, bind, Except.bind]
  have h₂ : (Kv.listAs .ok d.queue.root).run st = (.error e, st) := by
    rw [Kv.listAs, run_bind_error h₁]
  have h₃ : d.queue.listWithNames.run st = (.error e, st) := by
    rw [Queue.listWithNames, run_bind_error h₂]
  have h₄ : d.queue.list.run st = (.error e, st) := by
    rw [Queue.list, run_bind_error h₃]
  rw [Dataset.list, liftKv_run h₄]
  rfl

/-- On the memory store the walk steps over every invocation whose reads answer: the invocation
and its workflow are then valid segments, so its relations list. -/
theorem Steppable.of_read_memory (hm : st.backend = .memory m) {wf id : String}
    (h : ∃ n, (TraceNode.read wf id).run st = (.ok n, st)) : Steppable st wf (m.relationTargets wf) id := by
  obtain ⟨n, hn⟩ := h
  refine ⟨⟨n, hn⟩, fun k => ?_⟩
  obtain ⟨_, _, hargs, _⟩ := TraceNode.read_run hn
  obtain ⟨p, hp⟩ : ∃ p, (Identity.mk [Identity.queueRoot, "dataset", wf, id, "arguments"]).encode = .ok p := by
    rcases he : (Dataset.queue ⟨wf, id, .arguments⟩).root.encode with e | p
    · rw [Dataset.list_run_memory_error hm he] at hargs
      cases hargs
    · exact ⟨p, he⟩
  have hwf := Identity.validateSegment_of_encode hp (s := wf) (by simp)
  have hid := Identity.validateSegment_of_encode hp (s := id) (by simp)
  have htree : (Relations.mk wf id k).tree.root.encode = .ok (Relations.mk wf id k).tree.root.display := by
    apply Identity.encode_of_valid
    have hk : Identity.validateSegment k.text = .ok () := by cases k <;> rfl
    show ∀ s ∈ [Identity.treeRoot, "relationships", wf, id, k.text], Identity.validateSegment s = .ok ()
    intro s hs
    simp only [List.mem_cons, List.not_mem_nil, or_false] at hs
    rcases hs with rfl | rfl | rfl | rfl | rfl
    · rfl
    · rfl
    · exact hwf
    · exact hid
    · exact hk
  rw [Relations.targets_run_memory hm htree]
  rfl

end Memory

/-! ## The graph of an invocation -/

theorem invocationGraph_run_eq (wf root : String) (w : World) :
    (invocationGraph wf root).run w =
      (graphFrom wf (w.store.backend.paths.length + 1) [root] [root] {}).run w := rfl

/-- On the memory store the walk has fuel for every invocation reachable through the stored
relations: its visits from an invocation are those invocations, each once, the invocation first,
each no farther from it than the ones after it. -/
theorem relationTargets_visits_spec {w : World} {m : MemoryStore} (hm : w.store.backend = .memory m)
    (wf root : String) :
    (visits (InvocationGraph.successors (m.relationTargets wf)) (w.store.backend.paths.length + 1)
        [root] [root]).head? = some root ∧
      (visits (InvocationGraph.successors (m.relationTargets wf)) (w.store.backend.paths.length + 1)
        [root] [root]).Nodup ∧
      (∀ x, x ∈ visits (InvocationGraph.successors (m.relationTargets wf))
          (w.store.backend.paths.length + 1) [root] [root] ↔
        Reachable (InvocationGraph.successors (m.relationTargets wf)) root x) ∧
      (visits (InvocationGraph.successors (m.relationTargets wf)) (w.store.backend.paths.length + 1)
        [root] [root]).Pairwise (fun a b =>
          ∀ d, Within (InvocationGraph.successors (m.relationTargets wf)) root d b →
            Within (InvocationGraph.successors (m.relationTargets wf)) root d a) := by
  have hB : ∀ l : List String, l.Nodup →
      (∀ x ∈ l, Reachable (InvocationGraph.successors (m.relationTargets wf)) root x) →
      l.length ≤ m.nodes.length + 1 := by
    intro l hl hr
    have hT : ∀ u, ∀ x ∈ InvocationGraph.successors (m.relationTargets wf) u,
        x ∈ m.nodes.map fun e => MemoryStore.lastSegment e.1 := by
      intro u x hx
      obtain ⟨k, -, hk⟩ := List.mem_flatMap.mp hx
      exact MemoryStore.mem_relationTargets hk
    simpa using length_le_of_mem_next hT hl hr
  exact visits_spec hB (by simp [hm, Backend.paths])

/-- On the memory store, whose paths are distinct, the graph of an invocation whose reachable
invocations all read is the breadth-first closure of the stored relations: the walk answers and
changes nothing; its nodes are the invocations reachable from the root, each once, the root first
and each no farther from the root than the ones after it, and each is what reading the invocation
gives; its edges are the stored relations from those invocations, each once. Cycles, shared
targets and targets with no record are all allowed. -/
theorem invocationGraph_exact {w : World} {m : MemoryStore} (hm : w.store.backend = .memory m)
    {wf root : String}
    (hread : ∀ x, Reachable (InvocationGraph.successors (m.relationTargets wf)) root x →
      ∃ n, (TraceNode.read wf x).run w.store = (.ok n, w.store)) :
    ∃ g, (invocationGraph wf root).run w = (.ok g, w) ∧ g.ids.head? = some root ∧ g.ids.Nodup ∧
      (∀ x, x ∈ g.ids ↔ Reachable (InvocationGraph.successors (m.relationTargets wf)) root x) ∧
      g.ids.Pairwise (fun a b => ∀ d, Within (InvocationGraph.successors (m.relationTargets wf)) root d b →
        Within (InvocationGraph.successors (m.relationTargets wf)) root d a) ∧
      (∀ n ∈ g.nodes, (TraceNode.read wf n.id).run w.store = (.ok n, w.store)) ∧
      (∀ e, e ∈ g.edges ↔ e.source ∈ g.ids ∧ e.target ∈ m.relationTargets wf e.source e.relation) ∧
      g.edges.Nodup := by
  obtain ⟨hhead, hnodup, hmem, hsorted⟩ := relationTargets_visits_spec hm wf root
  obtain ⟨ns, hrun, hids, hreads⟩ := @graphFrom_run (m.relationTargets wf) wf w _ [root] [root] {}
    fun x hx => Steppable.of_read_memory hm (hread x ((hmem x).mp hx))
  refine ⟨_, by rw [invocationGraph_run_eq, hrun], ?_⟩
  set V := visits (InvocationGraph.successors (m.relationTargets wf)) (w.store.backend.paths.length + 1)
    [root] [root]
  have hgids : InvocationGraph.ids ⟨({} : InvocationGraph).nodes ++ ns,
      ({} : InvocationGraph).edges ++ V.flatMap (InvocationGraph.edgesFrom (m.relationTargets wf))⟩ = V := by
    rw [← hids]
    rfl
  rw [hgids]
  refine ⟨hhead, hnodup, hmem, hsorted, by simpa using hreads, fun e => ?_, ?_⟩
  · show e ∈ [] ++ V.flatMap _ ↔ _
    simp only [List.nil_append, List.mem_flatMap, InvocationGraph.mem_edgesFrom]
    constructor
    · rintro ⟨x, hx, rfl, ht⟩
      exact ⟨hx, ht⟩
    · rintro ⟨hx, ht⟩
      exact ⟨e.source, hx, rfl, ht⟩
  · show ([] ++ V.flatMap _).Nodup
    rw [List.nil_append]
    exact InvocationGraph.nodup_flatMap_edgesFrom hnodup
      fun _ _ k => MemoryStore.nodup_relationTargets m wf _ k

/-- Relations with a cycle between `a` and `b`, a target `c` of both, and a target `d` of `c` that
has no record. -/
def cyclicRelations : MemoryStore where
  nodes := ["a/mapped/b", "a/mapped/c", "b/mapped/c", "b/reduced/a", "c/reduced/d"].map
    fun rel => ("entity_trees/relationships/wf/" ++ rel, ⟨1, "{}"⟩)
  revision := 5

theorem invocationGraph_exact_on_cycle :
    (∀ x, Reachable (InvocationGraph.successors (cyclicRelations.relationTargets "wf")) "a" x →
      ∃ n, (TraceNode.read "wf" x).run ⟨.memory cyclicRelations, []⟩ = (.ok n, ⟨.memory cyclicRelations, []⟩)) ∧
    ∃ g, (invocationGraph "wf" "a").run { store := ⟨.memory cyclicRelations, []⟩ } =
        (.ok g, { store := ⟨.memory cyclicRelations, []⟩ }) ∧
      g.ids.head? = some "a" ∧ g.ids.Nodup ∧
      (∀ x, x ∈ g.ids ↔ Reachable (InvocationGraph.successors (cyclicRelations.relationTargets "wf")) "a" x) ∧
      g.ids.Pairwise (fun a b => ∀ d,
        Within (InvocationGraph.successors (cyclicRelations.relationTargets "wf")) "a" d b →
        Within (InvocationGraph.successors (cyclicRelations.relationTargets "wf")) "a" d a) ∧
      (∀ n ∈ g.nodes, (TraceNode.read "wf" n.id).run ⟨.memory cyclicRelations, []⟩ =
        (.ok n, ⟨.memory cyclicRelations, []⟩)) ∧
      (∀ e, e ∈ g.edges ↔ e.source ∈ g.ids ∧ e.target ∈ cyclicRelations.relationTargets "wf" e.source e.relation) ∧
      g.edges.Nodup := by
  have hclosed : ∀ x ∈ ["a", "b", "c", "d"],
      ∀ y ∈ InvocationGraph.successors (cyclicRelations.relationTargets "wf") x, y ∈ ["a", "b", "c", "d"] := by
    decide +kernel
  have hreach : ∀ x, Reachable (InvocationGraph.successors (cyclicRelations.relationTargets "wf")) "a" x →
      x ∈ ["a", "b", "c", "d"] := by
    rintro x ⟨n, hn⟩
    induction hn with
    | root => simp
    | step _ hy ih => exact hclosed _ ih _ hy
  have hok : ∀ x ∈ ["a", "b", "c", "d"],
      ((TraceNode.read "wf" x).run ⟨.memory cyclicRelations, []⟩).1.isOk = true := by
    decide +kernel
  have hread : ∀ x, Reachable (InvocationGraph.successors (cyclicRelations.relationTargets "wf")) "a" x →
      ∃ n, (TraceNode.read "wf" x).run ⟨.memory cyclicRelations, []⟩ = (.ok n, ⟨.memory cyclicRelations, []⟩) :=
    fun x hx => (TraceNode.read_quiet "wf" x).exists_run_ok (hok x (hreach x hx))
  exact ⟨hread, invocationGraph_exact (w := { store := ⟨.memory cyclicRelations, []⟩ }) rfl hread⟩

/-- An invocation whose id holds a reserved character has no graph: reading it fails. -/
theorem invocationGraph_fails_on_reserved_root :
    ((invocationGraph "wf" "a-b").run { store := ⟨.memory {}, []⟩ }).1 =
      .error (.error (.domain (.kv (.reservedCharacter "a-b")))) := by
  rfl

end MapReduce
