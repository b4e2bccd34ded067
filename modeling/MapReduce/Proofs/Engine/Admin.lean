import MapReduce.Proofs.Kv.Paths
import MapReduce.Proofs.Kv.Queues
import MapReduce.Proofs.Domain.Pristine
import MapReduce.Proofs.Domain.HandlersState
import MapReduce.Engine.Admin
import Mathlib

/-! # Defining workflows on the in-memory store

The calls that define a workflow read what they need, then write once: a workflow, a step or a
job is created, or the handlers state of a workflow is stored back. On the in-memory store that
nobody races a failed write changes nothing, so a failed call of these four leaves the world as it
was (`FailsClean`). Saving and deleting a handler write the handler first and then refresh the
workflow's handlers state; a refresh that fails then leaves the handler written or removed
(`saveHandler_fails`, `deleteHandler_fails`, together `definition_failures_keep_world`).

A refresh lists the workflow's handlers and stores the state of their (name, version) pairs in the
workflow; the write lands outside the handlers' directory, so after every successful save or
delete the stored state is the state of the handlers stored then (`HandlersTracked`,
`handlersState_follows_handlers`). A listing reads only the values of the children, and on nodes
sorted by path a write of the text a key already holds replaces that node in place, so saving an
unchanged handler keeps the state (`saveHandler_same_keeps_state`). -/

namespace MapReduce

open EntityStore

/-! ## Running engine programs -/

theorem EngineM.domain_run_eq_ok {α : Type} {d : DomainM α} {w w' : World} {a : α}
    (h : (EngineM.domain d).run w = (.ok a, w')) :
    d.run w.store = (.ok a, w'.store) ∧ w' = { w with store := w'.store } := by
  rcases hd : d.run w.store with ⟨_ | a', s⟩
  · rw [EngineM.domain_run_error hd] at h
    cases h
  · rw [EngineM.domain_run_ok hd] at h
    cases h
    exact ⟨rfl, rfl⟩

theorem EngineM.domain_run_eq_error {α : Type} {d : DomainM α} {w w' : World} {err : Fault}
    (h : (EngineM.domain d).run w = (.error err, w')) :
    ∃ e, d.run w.store = (.error e, w'.store) ∧ w' = { w with store := w'.store } := by
  rcases hd : d.run w.store with ⟨e | a, s⟩
  · rw [EngineM.domain_run_error hd] at h
    cases h
    exact ⟨e, rfl, rfl⟩
  · rw [EngineM.domain_run_ok hd] at h
    cases h

/-! ## Saving on the in-memory store -/

namespace EntityStore

variable {α : Type} [Entity α] {m : MemoryStore}

/-- A save runs on the entity its validation gives back. -/
theorem save_eq_of_presave {r : Record α} {x : α} (hx : Entity.presave r.data = .ok x)
    (hidem : Entity.presave x = .ok x) : save r = save ⟨x, r.version⟩ := by
  simp only [save, hx, hidem]

/-- A save on the memory store that nobody races either fails with nothing changed, or writes the
entity its validation gives back. -/
theorem save_memory_cases {r : Record α}
    (hidem : ∀ x, Entity.presave r.data = .ok x → Entity.presave x = .ok x) :
    (∃ err, (save r).run ⟨.memory m, []⟩ = (.error err, ⟨.memory m, []⟩)) ∨
      ∃ (x : α) (v : Nat) (s' : Store), Entity.presave r.data = .ok x ∧
        (save r).run ⟨.memory m, []⟩ = (.ok ⟨x, some v⟩, s') ∧ Store.Wrote x ⟨.memory m, []⟩ s' := by
  rcases hp : Entity.presave r.data with e | x
  · -- a refused entity fails before the store is touched
    left
    refine ⟨e, ?_⟩
    simp [save, liftDomain, hp, ExceptT.run, bind, ExceptT.bind, ExceptT.mk, ExceptT.bindCont,
      StateT.bind]
    rfl
  · rw [save_eq_of_presave hp (hidem x hp)]
    rcases save_memory (m := m) (r := ⟨x, r.version⟩) (hidem x hp) with hfail | ⟨v, s', hrun, hw, -⟩
    · exact .inl hfail
    · exact .inr ⟨x, v, s', rfl, hrun, hw⟩

/-- A deletion on the memory store that nobody races either fails with nothing changed, or removes
the key. -/
theorem delete_memory_cases (identity : List String) :
    (∃ err, (delete α identity).run ⟨.memory m, []⟩ = (.error err, ⟨.memory m, []⟩)) ∨
      ∃ m', m.delete (entityKey α identity) = .ok m' ∧
        (delete α identity).run ⟨.memory m, []⟩ = (.ok (), ⟨.memory m', []⟩) := by
  rcases hd : m.delete (entityKey α identity) with err | m'
  · exact .inl ⟨_, liftKv_run (Kv.delete_memory_error [] hd)⟩
  · exact .inr ⟨m', rfl, liftKv_run (Kv.delete_memory [] hd)⟩

/-- Listing changes nothing. -/
theorem list_quiet (parent : List String) : Quiet (list α parent) :=
  Quiet.bind (Quiet.adapt _ (Quiet.bind (Kv.read_quiet _) fun _ => Kv.liftExcept_quiet _))
    fun _ => Quiet.pure _

/-- Listing on the memory store reads only the children of the listed key. -/
theorem list_run_memory_congr {m m' : MemoryStore} {parent : List String}
    (hk : m'.listChildren (entityKey α parent) = m.listChildren (entityKey α parent)) :
    (list α parent).run ⟨.memory m', []⟩ = (((list α parent).run ⟨.memory m, []⟩).1, ⟨.memory m', []⟩) := by
  refine Prod.ext ?_ (list_quiet parent _)
  simp only [list, liftKv, Kv.listAs, Kv.listChildren, Kv.read, Backend.listChildren, hk,
    ExceptT.adapt, ExceptT.run, ExceptT.mk, bind, ExceptT.bind, ExceptT.bindCont, StateT.bind,
    Functor.map, StateT.map]
  cases m.listChildren (entityKey α parent) with
  | error e => rfl
  | ok kids =>
    rcases hmap : kids.mapM (fun x => (Kv.decodeAs (Entity.decode (α := α)) x.2.value).bind
      fun v => pure (x.1, x.2.version, v)) with e | items <;>
    simp only [Kv.liftExcept, hmap] <;> rfl

/-- Decoding the children entry by entry gives, as entities, the decoded values. -/
theorem mapM_entries_data {β : Type} {dec : Json → Except String β} (kids : List (String × Node)) :
    (kids.mapM fun x => (Kv.decodeAs dec x.2.value).bind fun v => pure (x.1, x.2.version, v)).map
        (List.map (·.2.2)) =
      (kids.map (·.2.value)).mapM (Kv.decodeAs dec) := by
  induction kids with
  | nil => rfl
  | cons c rest ih =>
    simp only [List.mapM_cons, List.map_cons]
    rcases Kv.decodeAs dec c.2.value with e | v
    · rfl
    · rw [← ih]
      rcases List.mapM _ rest with e | items <;> rfl

/-- On the memory store, the entities a listing reads are the values of the listed key's children,
decoded; names and versions play no part. -/
theorem list_run_memory_data {m : MemoryStore} {parent : List String} {root : String}
    (hroot : (entityKey α parent).encode = .ok root) :
    ((list α parent).run ⟨.memory m, []⟩).1.map (List.map (·.data)) =
      (((m.children root).map (·.2.value)).mapM (Kv.decodeAs Entity.decode)).mapError DomainError.kv := by
  simp only [list, liftKv, Kv.listAs, Kv.listChildren, Kv.read, Backend.listChildren,
    MemoryStore.listChildren_eq_children hroot, ExceptT.adapt, ExceptT.run, ExceptT.mk, bind,
    ExceptT.bind, ExceptT.bindCont, StateT.bind, Functor.map, StateT.map, Kv.liftExcept]
  rw [← mapM_entries_data]
  rcases List.mapM _ (m.children root) with e | items
  · rfl
  · exact congrArg Except.ok List.map_map

end EntityStore

/-- Every workflow reads back from its stored text. -/
theorem Workflow.readback : Readback fun _ : Workflow => True := fun x _ => Workflow.decodeAs_toText x

/-! ## Writes beside a directory -/

/-- A key of one class is no child of a key of another. -/
theorem childName?_other_class {α β : Type} [Entity α] [Entity β] {parent identity : List String}
    {pa pb : String} (hcls : Entity.className β ≠ Entity.className α)
    (ha : (entityKey α parent).encode = .ok pa) (hb : (entityKey β identity).encode = .ok pb) :
    MemoryStore.childName? (pa ++ "/") pb = none := by
  rcases hc : MemoryStore.childName? (pa ++ "/") pb with _ | n
  · rfl
  · have hchild := (Identity.childName?_iff ha hb (by simp [entityKey])).mp hc
    simp only [entityKey, Identity.child, Identity.mk.injEq, List.cons_append, List.nil_append,
      List.cons.injEq] at hchild
    exact absurd hchild.2.1 hcls

/-- The key of an identity in one class has a path when it has one in another class. -/
theorem encode_entityKey_of_class {α β : Type} [Entity α] [Entity β] {identity : List String}
    {p : String} (hcls : Identity.ValidSegment (Entity.className β))
    (h : (entityKey α identity).encode = .ok p) : ∃ p', (entityKey β identity).encode = .ok p' := by
  obtain ⟨hvalid, -⟩ := Identity.encode_eq_ok_iff.mp h
  refine ⟨_, Identity.encode_eq_ok_iff.mpr ⟨fun s hs => ?_, rfl⟩⟩
  simp only [entityKey, List.cons_append, List.nil_append, List.mem_cons] at hs hvalid
  rcases hs with rfl | rfl | hs
  · exact hvalid _ (.inl rfl)
  · exact hcls
  · exact hvalid _ (.inr (.inr hs))

/-- A write at a path that is no child of a key leaves the key's children. -/
theorem MemoryStore.listChildren_write_of_none {m : MemoryStore} {key : Identity} {root p : String}
    (hroot : key.encode = .ok root) (hp : MemoryStore.childName? (root ++ "/") p = none) (v : String) :
    (m.write p v).2.listChildren key = m.listChildren key := by
  rw [MemoryStore.listChildren_eq_children hroot, MemoryStore.listChildren_eq_children hroot]
  simp only [MemoryStore.children, MemoryStore.write, MemoryStore.bump]
  rw [MemoryStore.filterMap_insertNode hp]

/-! ## Rewriting a node in place -/

/-- On paths kept sorted, a node put at a path that is there replaces the node at that path. -/
theorem MemoryStore.insertNode_of_mem {p : String} (n : Node) {l : List (String × Node)}
    (hs : (l.map (·.1)).Pairwise (· < ·)) (hp : p ∈ l.map (·.1)) :
    insertNode p n l = l.map fun e => if e.1 = p then (p, n) else e := by
  induction l with
  | nil => exact absurd hp List.not_mem_nil
  | cons e rest ih =>
    obtain ⟨q, n'⟩ := e
    rw [List.map_cons, List.pairwise_cons] at hs
    obtain ⟨hq, hs⟩ := hs
    rcases List.mem_cons.mp hp with rfl | hp
    · -- the path is the first; every later path is greater and stays
      have hrest : ∀ e ∈ rest, e.1 ≠ p := fun e he => (hq e.1 (List.mem_map_of_mem he)).ne'
      rw [insertNode, if_neg (lt_irrefl _), if_pos rfl, List.map_cons, if_pos rfl]
      congr 1
      exact ((List.map_congr_left fun e he => if_neg (hrest e he)).trans (List.map_id' _)).symm
    · have hqp : q < p := hq p hp
      rw [insertNode, if_neg (not_lt.mpr hqp.le), if_neg hqp.ne', List.map_cons, if_neg hqp.ne,
        ih hs hp]

/-- Writing the value a path already holds keeps the name and value of every child of every
directory. -/
theorem MemoryStore.children_write_same {m : MemoryStore} {p : String} {n₀ : Node}
    (hp : m.find? p = some n₀) (root : String) :
    ((m.write p n₀.value).2.children root).map (fun c => (c.1, c.2.value)) =
      (m.children root).map fun c => (c.1, c.2.value) := by
  obtain ⟨e, he, hep, hen⟩ : ∃ e ∈ m.nodes, e.1 = p ∧ e.2 = n₀ := by
    simp only [find?, Option.map_eq_some_iff] at hp
    obtain ⟨e, hfind, rfl⟩ := hp
    exact ⟨e, List.mem_of_find?_eq_some hfind, by simpa using List.find?_some hfind, rfl⟩
  have hnodup : (m.nodes.map (·.1)).Nodup := m.sorted.imp ne_of_lt
  simp only [children, write, bump]
  rw [insertNode_of_mem _ m.sorted (hep ▸ List.mem_map_of_mem he), List.filterMap_map,
    List.map_filterMap, List.map_filterMap]
  refine List.filterMap_congr fun c hc => ?_
  by_cases hc1 : c.1 = p
  · -- the only node at the path is the one found there
    obtain rfl : c = e := List.inj_on_of_nodup_map hnodup hc he (hc1.trans hep.symm)
    simp [hc1, childEntry, hen, Function.comp_def]
  · simp [hc1]

/-- Writing the value a path already holds leaves the entities every listing reads. -/
theorem list_run_write_same {α : Type} [Entity α] {m : MemoryStore} {p : String} {n₀ : Node}
    (hp : m.find? p = some n₀) {parent : List String} {root : String}
    (hroot : (entityKey α parent).encode = .ok root) :
    ((list α parent).run ⟨.memory (m.write p n₀.value).2, []⟩).1.map (List.map (·.data)) =
      ((list α parent).run ⟨.memory m, []⟩).1.map (List.map (·.data)) := by
  have hvalues : ((m.write p n₀.value).2.children root).map (·.2.value) =
      (m.children root).map (·.2.value) := by
    have := congrArg (List.map Prod.snd) (MemoryStore.children_write_same hp root)
    simpa only [List.map_map, Function.comp_def] using this
  rw [list_run_memory_data hroot, list_run_memory_data hroot, hvalues]

/-! ## Refreshing the handlers state -/

/-- The workflow stored under \x60wf\x60 holds the handlers state of the handlers listed under it. -/
def HandlersTracked (wf : String) (s : Store) : Prop :=
  ∃ (handlers : List (Record Handler)) (y : Workflow),
    (list Handler [wf]).run s = (.ok handlers, s) ∧ s.Stores [wf] y ∧
      y.handlersState = some (handlersState (handlers.map fun r => (r.data.name, r.data.version)))

/-- A refresh that succeeds on the memory store that nobody races, where each workflow is stored
under its own name, stores the state of the handlers it listed in the workflow, and the write
leaves the handlers as they were listed. -/
theorem refreshHandlersState_lists {e : Engine} {wf : String} {w w' : World} {m : MemoryStore}
    {st : String} (hw : w.store = ⟨.memory m, []⟩) (hP : w.store.Placed Workflow fun _ => True)
    (h : (e.refreshHandlersState wf).run w = (.ok st, w')) :
    ∃ (handlers : List (Record Handler)) (y : Workflow),
      (list Handler [wf]).run w.store = (.ok handlers, w.store) ∧
      (list Handler [wf]).run w'.store = (.ok handlers, w'.store) ∧ w'.store.Stores [wf] y ∧
        y.handlersState = some (handlersState (handlers.map fun r => (r.data.name, r.data.version))) := by
  unfold Engine.refreshHandlersState at h
  obtain ⟨handlers, w₁, hlist, h⟩ := run_bind_eq_ok h
  obtain ⟨hlist, hw₁⟩ := EngineM.domain_run_eq_ok hlist
  have hs₁ : w₁.store = w.store := (list_quiet _).run_eq hlist
  rw [hs₁] at hlist
  obtain ⟨⟨y', u⟩, w₂, hupdate, h⟩ := run_bind_eq_ok h
  cases h
  obtain ⟨hupdate, -⟩ := EngineM.domain_run_eq_ok hupdate
  rw [hs₁, hw] at hupdate
  obtain ⟨y, hy, hmut, hwrote⟩ := atomicUpdate_memory_ok (fun _ => rfl) hupdate
  obtain ⟨hy', -⟩ := Prod.mk.inj (Except.ok.inj hmut)
  obtain ⟨hname, -, -⟩ := (hw ▸ hP).stores Workflow.readback hy
  obtain ⟨m₀, p, hm₀, hp, hstore⟩ := hwrote
  cases hm₀
  have hheld := Store.Wrote.holds_self ⟨m, p, rfl, hp, hstore⟩ (Workflow.readback _ trivial)
  have hid : Entity.identity y'.data = [wf] := by
    rw [← hy']
    exact hname
  refine ⟨handlers, y'.data, hlist, ?_, by simpa [Store.Holds, hid] using hheld, by rw [← hy']⟩
  rw [recordKey, hid] at hp
  obtain ⟨pa, hpa⟩ := encode_entityKey_of_class (β := Handler) ⟨by decide, by decide, by decide⟩ hp
  have hnone := childName?_other_class (by decide) hpa hp
  rw [hstore, list_run_memory_congr (MemoryStore.listChildren_write_of_none hpa hnone _), ← hw, hlist]

theorem refreshHandlersState_tracks {e : Engine} {wf : String} {w w' : World} {m : MemoryStore}
    {st : String} (hw : w.store = ⟨.memory m, []⟩) (hP : w.store.Placed Workflow fun _ => True)
    (h : (e.refreshHandlersState wf).run w = (.ok st, w')) : HandlersTracked wf w'.store := by
  obtain ⟨handlers, y, -, hlist, hy, hstate⟩ := refreshHandlersState_lists hw hP h
  exact ⟨handlers, y, hlist, hy, hstate⟩

/-- A handler passes validation when it names a source type, and comes back with the version of
its source. -/
theorem Handler.presave_eq_ok {h x : Handler} (hx : Entity.presave h = .ok x) :
    Text.isBlankText h.sourceType = false ∧ x = { h with version := sourceVersion h.source } := by
  change (if Text.isBlankText h.sourceType then _ else _) = _ at hx
  split_ifs at hx with hblank
  cases hx
  exact ⟨by simpa using hblank, rfl⟩

/-- Validating a handler fixes its version, so a validated handler passes again unchanged. -/
theorem Handler.presave_idem {h x : Handler} (hx : Entity.presave h = .ok x) :
    Entity.presave x = .ok x := by
  obtain ⟨hblank, rfl⟩ := Handler.presave_eq_ok hx
  change (if Text.isBlankText h.sourceType then _ else _) = _
  rw [hblank, if_neg Bool.false_ne_true]

/-- Validating a handler keeps its workflow and name. -/
theorem Handler.identity_of_presave {h x : Handler} (hx : Entity.presave h = .ok x) :
    Entity.identity x = [h.workflow, h.name] := by
  obtain ⟨-, rfl⟩ := Handler.presave_eq_ok hx
  rfl

/-- A deletion on the memory store keeps every class placed that it kept. -/
theorem Store.Placed.of_delete {α : Type} [Entity α] {R : α → Prop} {m m' : MemoryStore}
    {key : Identity} (hP : Store.Placed α R ⟨.memory m, []⟩) (hd : m.delete key = .ok m') :
    Store.Placed α R ⟨.memory m', []⟩ :=
  fun identity n hn => hP identity n (MemoryStore.get_of_delete hd hn)

/-- A save of a handler that succeeds on the memory store that nobody races wrote the validated
handler and then refreshed the handlers state of its workflow. -/
theorem saveHandler_ok_cases {e : Engine} {h : Handler} {w w' : World} {m : MemoryStore}
    {r : Record Handler} (hw : w.store = ⟨.memory m, []⟩)
    (hrun : (e.saveHandler h).run w = (.ok r, w')) :
    ∃ (x : Handler) (w₂ : World) (st : String), Entity.presave h = .ok x ∧
      Store.Wrote x w.store w₂.store ∧ (e.refreshHandlersState h.workflow).run w₂ = (.ok st, w') := by
  unfold Engine.saveHandler at hrun
  obtain ⟨existing, w₁, hload, hrun⟩ := run_bind_eq_ok hrun
  obtain ⟨hload, hw₁⟩ := EngineM.domain_run_eq_ok hload
  have hs₁ : w₁.store = w.store := (tryLoad_quiet _ _).run_eq hload
  obtain ⟨r', w₂, hsave, hrun⟩ := run_bind_eq_ok hrun
  obtain ⟨hsave, -⟩ := EngineM.domain_run_eq_ok hsave
  rw [hs₁, hw] at hsave
  obtain ⟨st, w₃, hrefresh, hrun⟩ := run_bind_eq_ok hrun
  cases hrun
  rcases save_memory_cases (m := m) (r := ⟨h, existing.bind (·.version)⟩)
      (fun _ hx => Handler.presave_idem hx) with ⟨err, hfail⟩ | ⟨x, v, s', hx, hok, hwrote⟩
  · rw [hsave] at hfail
    cases hfail
  · rw [hsave] at hok
    cases hok
    exact ⟨x, w₂, st, hx, hw ▸ hwrote, hrefresh⟩

/-- After a successful save of a handler on the memory store that nobody races, where each
workflow is stored under its own name, the workflow stores the state of its handlers. -/
theorem saveHandler_tracks {e : Engine} {h : Handler} {w w' : World} {m : MemoryStore}
    {r : Record Handler} (hw : w.store = ⟨.memory m, []⟩)
    (hP : w.store.Placed Workflow fun _ => True) (hrun : (e.saveHandler h).run w = (.ok r, w')) :
    HandlersTracked h.workflow w'.store := by
  obtain ⟨x, w₂, st, -, hwrote, hrefresh⟩ := saveHandler_ok_cases hw hrun
  obtain ⟨m₂, p, -, -, hstore⟩ := id hwrote
  exact refreshHandlersState_tracks hstore (hwrote.placed_other (by decide) hP) hrefresh

/-- Saving a handler whose validated text its key already holds, on the memory store that nobody
races, where each workflow is stored under its own name, keeps a tracked handlers state: the
rewrite changes only the handler's version, and the state reads names and sources alone. -/
theorem saveHandler_same_keeps_state {e : Engine} {h x : Handler} {w w' : World} {m : MemoryStore}
    {r : Record Handler} {n₀ : Node} (hw : w.store = ⟨.memory m, []⟩)
    (hP : w.store.Placed Workflow fun _ => True) (hx : Entity.presave h = .ok x)
    (hn₀ : m.get (recordKey x) = .ok n₀) (htext : n₀.value = Entity.toText x)
    (htrack : HandlersTracked h.workflow w.store) (hrun : (e.saveHandler h).run w = (.ok r, w'))
    {y : Workflow} (hy : w.store.Stores [h.workflow] y) :
    ∃ y' : Workflow, w'.store.Stores [h.workflow] y' ∧ y'.handlersState = y.handlersState := by
  obtain ⟨x', w₂, st, hx', hwrote, hrefresh⟩ := saveHandler_ok_cases hw hrun
  rw [hx] at hx'
  cases hx'
  obtain ⟨m₀, p, hm₀, hp, hstore⟩ := id hwrote
  rw [hw] at hm₀
  cases hm₀
  have hfind : m.find? p = some n₀ := MemoryStore.find?_of_get hp hn₀
  obtain ⟨handlers', y', hl', -, hy', hstate'⟩ :=
    refreshHandlersState_lists hstore (hwrote.placed_other (by decide) hP) hrefresh
  obtain ⟨handlers, y₀, hl, hy₀, hstate⟩ := htrack
  obtain rfl : y = y₀ := hy.unique hy₀
  refine ⟨y', hy', ?_⟩
  obtain ⟨root, hroot⟩ : ∃ root, (entityKey Handler [h.workflow]).encode = .ok root := by
    obtain ⟨hvalid, -⟩ := Identity.encode_eq_ok_iff.mp hp
    refine ⟨_, Identity.encode_eq_ok_iff.mpr ⟨fun s hs => hvalid s ?_, rfl⟩⟩
    simp only [recordKey, Handler.identity_of_presave hx, entityKey, List.cons_append,
      List.nil_append, List.mem_cons] at hs hvalid ⊢
    tauto
  have hdata : handlers'.map (·.data) = handlers.map (·.data) := by
    have h := list_run_write_same (α := Handler) hfind hroot
    rw [htext, ← hstore, hl', ← hw, hl] at h
    exact Except.ok.inj h
  have hpairs : handlers'.map (fun r => (r.data.name, r.data.version)) =
      handlers.map fun r => (r.data.name, r.data.version) := by
    have := congrArg (List.map fun d : Handler => (d.name, d.version)) hdata
    simpa only [List.map_map, Function.comp_def] using this
  rw [hstate', hstate, hpairs]

/-- After a successful deletion of a handler on the memory store that nobody races, where each
workflow is stored under its own name, the workflow stores the state of its handlers. -/
theorem deleteHandler_tracks {e : Engine} {wf name : String} {w w' : World} {m : MemoryStore}
    (hw : w.store = ⟨.memory m, []⟩) (hP : w.store.Placed Workflow fun _ => True)
    (hrun : (e.deleteHandler wf name).run w = (.ok (), w')) : HandlersTracked wf w'.store := by
  unfold Engine.deleteHandler at hrun
  obtain ⟨u, w₁, hdelete, hrun⟩ := run_bind_eq_ok hrun
  obtain ⟨hdelete, -⟩ := EngineM.domain_run_eq_ok hdelete
  rw [hw] at hdelete
  obtain ⟨st, w₂, hrefresh, hrun⟩ := run_bind_eq_ok hrun
  cases hrun
  rcases delete_memory_cases (α := Handler) (m := m) [wf, name] with ⟨err, hfail⟩ | ⟨m', hd, hok⟩
  · rw [hdelete] at hfail
    cases hfail
  · rw [hdelete] at hok
    obtain ⟨-, hs₁⟩ := Prod.mk.inj hok
    exact refreshHandlersState_tracks hs₁ (hs₁ ▸ (hw ▸ hP).of_delete hd) hrefresh

/-! ## Failed calls -/

/-- A program that, on the memory store that nobody races, fails only with the world as it was. -/
def FailsClean {α : Type} (prog : EngineM α) : Prop :=
  ∀ (w w' : World) (m : MemoryStore) (err : Fault), w.store = ⟨.memory m, []⟩ →
    prog.run w = (.error err, w') → w' = w

namespace FailsClean

variable {α β : Type}

theorem of_quiet {prog : EngineM α} (h : Quiet prog) : FailsClean prog :=
  fun _ _ _ _ _ hrun => h.run_eq hrun

/-- A read that changes nothing, then a program that fails cleanly. -/
theorem bind_of_quiet {p : EngineM α} {f : α → EngineM β} (hp : Quiet p)
    (hf : ∀ a, FailsClean (f a)) : FailsClean (p >>= f) := by
  intro w w' m err hw hrun
  rcases hr : p.run w with ⟨e | a, w₁⟩
  · rw [run_bind_error hr] at hrun
    cases hrun
    exact hp.run_eq hr
  · obtain rfl := hp.run_eq hr
    rw [run_bind_ok hr] at hrun
    exact hf a _ _ m err hw hrun

/-- A program that fails cleanly, then an answer. -/
theorem bind_pure {p : EngineM α} (hp : FailsClean p) (g : α → β) :
    FailsClean (p >>= fun a => pure (g a)) := by
  intro w w' m err hw hrun
  rcases hr : p.run w with ⟨e | a, w₁⟩
  · rw [run_bind_error hr] at hrun
    cases hrun
    exact hp _ _ m _ hw hr
  · rw [run_bind_ok hr] at hrun
    cases hrun

/-- A store program that fails on the memory store only with the store as it was. -/
theorem domain {d : DomainM α}
    (hd : ∀ m err s', d.run ⟨.memory m, []⟩ = (.error err, s') → s' = ⟨.memory m, []⟩) :
    FailsClean (EngineM.domain d) := by
  intro w w' m err hw hrun
  obtain ⟨e, hrun, hw'⟩ := EngineM.domain_run_eq_error hrun
  rw [hw] at hrun
  have hs := hd m e _ hrun
  rw [hw', hs, ← hw]

/-- A save of an entity whose validation is idempotent fails cleanly. -/
theorem save {γ : Type} [Entity γ] {r : Record γ}
    (hidem : ∀ x, Entity.presave r.data = .ok x → Entity.presave x = .ok x) :
    FailsClean (EngineM.domain (EntityStore.save r)) := by
  refine domain fun m err s' hrun => ?_
  rcases save_memory_cases (m := m) hidem with ⟨e, hfail⟩ | ⟨x, v, s'', -, hok, -⟩
  · rw [hfail] at hrun
    exact (Prod.mk.inj hrun).2.symm
  · rw [hok] at hrun
    cases hrun

end FailsClean

theorem createWorkflow_failsClean (wf description : String) :
    FailsClean (Engine.createWorkflow wf description) :=
  FailsClean.save fun _ hx => by cases hx; rfl

theorem Step.presave_idem {s x : Step} (hx : Entity.presave s = .ok x) : Entity.presave x = .ok x := by
  change (Step.validate s).map (fun _ => s) = _ at hx
  rcases hv : Step.validate s with e | u
  · rw [hv] at hx
    cases hx
  · rw [hv] at hx
    cases hx
    change (Step.validate s).map (fun _ => s) = _
    rw [hv]
    rfl

theorem Job.presave_idem {j x : Job} (hx : Entity.presave j = .ok x) : Entity.presave x = .ok x := by
  change (if Text.isBlankText j.initialStep then _ else _) = _ at hx
  change (if Text.isBlankText x.initialStep then _ else _) = _
  split_ifs at hx with hblank
  cases hx
  simp [hblank]

theorem createStep_failsClean (s : Step) : FailsClean (Engine.createStep s) :=
  FailsClean.bind_of_quiet (Engine.load_quiet _ _) fun _ => FailsClean.save fun _ => Step.presave_idem

theorem createJob_failsClean (j : Job) : FailsClean (Engine.createJob j) := by
  refine FailsClean.bind_of_quiet (EngineM.domain_quiet (tryLoad_quiet _ _)) fun step => ?_
  cases step with
  | none => exact FailsClean.of_quiet (EngineM.fail_quiet _)
  | some _ => exact FailsClean.save fun _ => Job.presave_idem

theorem refreshHandlersState_failsClean (e : Engine) (wf : String) :
    FailsClean (e.refreshHandlersState wf) := by
  refine FailsClean.bind_of_quiet (EngineM.domain_quiet (list_quiet _)) fun handlers => ?_
  refine FailsClean.bind_pure (FailsClean.domain fun m err s' hrun => ?_) _
  exact atomicUpdate_memory_error (fun _ => rfl) hrun

/-- A refresh that fails after a write leaves the world as the write left it. -/
theorem refresh_after_write_fails {e : Engine} {wf : String} {w w' : World} {s₁ : Store} {m₁ : MemoryStore}
    {err : Fault} (hs₁ : s₁ = ⟨.memory m₁, []⟩) {β : Type} {b : β}
    (hrun : (e.refreshHandlersState wf >>= fun _ => pure b).run { w with store := s₁ } =
      (.error err, w')) :
    w' = { w with store := s₁ } := by
  rcases hr : (e.refreshHandlersState wf).run { w with store := s₁ } with ⟨e' | st, w₂⟩
  · rw [run_bind_error hr] at hrun
    cases hrun
    exact refreshHandlersState_failsClean e wf _ _ m₁ _ hs₁ hr
  · rw [run_bind_ok hr] at hrun
    cases hrun

/-- A failed save of a handler on the memory store that nobody races either changed nothing, or
wrote the validated handler and failed in the refresh that follows, leaving the store as that
write left it. -/
theorem saveHandler_fails {e : Engine} {h : Handler} {w w' : World} {m : MemoryStore} {err : Fault}
    (hw : w.store = ⟨.memory m, []⟩) (hrun : (e.saveHandler h).run w = (.error err, w')) :
    w' = w ∨ ∃ x s₁, Entity.presave h = .ok x ∧ Store.Wrote x w.store s₁ ∧ w' = { w with store := s₁ } := by
  unfold Engine.saveHandler at hrun
  have hq := EngineM.domain_quiet (tryLoad_quiet Handler [h.workflow, h.name])
  rcases hload : (EngineM.domain (tryLoad Handler [h.workflow, h.name])).run w with
    ⟨e₁ | existing, w₁⟩
  · rw [run_bind_error hload] at hrun
    cases hrun
    exact .inl (hq.run_eq hload)
  obtain rfl := hq.run_eq hload
  rw [run_bind_ok hload] at hrun
  rcases save_memory_cases (m := m) (r := ⟨h, existing.bind (·.version)⟩)
      (fun _ hx => Handler.presave_idem hx) with ⟨e₂, hfail⟩ | ⟨x, v, s₁, hx, hok, hwrote⟩
  · -- the save failed with nothing written
    rw [← hw] at hfail
    rw [run_bind_error (EngineM.domain_run_error hfail)] at hrun
    cases hrun
    exact .inl rfl
  · -- the save wrote the handler; the refresh failed after it
    rw [← hw] at hok hwrote
    rw [run_bind_ok (EngineM.domain_run_ok hok)] at hrun
    obtain ⟨m₀, p, -, -, hs₁⟩ := id hwrote
    exact .inr ⟨x, s₁, hx, hwrote, refresh_after_write_fails hs₁ hrun⟩

/-- A failed deletion of a handler on the memory store that nobody races either changed nothing,
or removed the handler and failed in the refresh that follows, leaving the store without it. -/
theorem deleteHandler_fails {e : Engine} {wf name : String} {w w' : World} {m : MemoryStore}
    {err : Fault} (hw : w.store = ⟨.memory m, []⟩)
    (hrun : (e.deleteHandler wf name).run w = (.error err, w')) :
    w' = w ∨ ∃ m', m.delete (entityKey Handler [wf, name]) = .ok m' ∧
      w' = { w with store := ⟨.memory m', []⟩ } := by
  unfold Engine.deleteHandler at hrun
  rcases delete_memory_cases (α := Handler) (m := m) [wf, name] with ⟨e₁, hfail⟩ | ⟨m', hd, hok⟩
  · -- nothing was there to delete
    rw [← hw] at hfail
    rw [run_bind_error (EngineM.domain_run_error hfail)] at hrun
    cases hrun
    exact .inl rfl
  · -- the handler is gone; the refresh failed after it
    rw [← hw] at hok
    rw [run_bind_ok (EngineM.domain_run_ok hok)] at hrun
    exact .inr ⟨m', hd, refresh_after_write_fails rfl hrun⟩

/-! ## Definitions of workflows -/

/-- On the memory store that nobody races, a failed creation of a workflow, a step or a job, and a
failed refresh of a handlers state, leave the world as it was. A failed save or deletion of a
handler leaves it as it was too, unless it failed in the refresh after its own write: the
validated handler is then written, or the handler removed, and nothing else has changed. -/
theorem definition_failures_keep_world (e : Engine) :
    (∀ wf description, FailsClean (Engine.createWorkflow wf description)) ∧
    (∀ s : Step, FailsClean (Engine.createStep s)) ∧
    (∀ j : Job, FailsClean (Engine.createJob j)) ∧
    (∀ wf, FailsClean (e.refreshHandlersState wf)) ∧
    (∀ (h : Handler) (w w' : World) (m : MemoryStore) (err : Fault), w.store = ⟨.memory m, []⟩ →
      (e.saveHandler h).run w = (.error err, w') →
        w' = w ∨ ∃ x s₁, Entity.presave h = .ok x ∧ Store.Wrote x w.store s₁ ∧
          w' = { w with store := s₁ }) ∧
    (∀ (wf name : String) (w w' : World) (m : MemoryStore) (err : Fault),
      w.store = ⟨.memory m, []⟩ → (e.deleteHandler wf name).run w = (.error err, w') →
        w' = w ∨ ∃ m', m.delete (entityKey Handler [wf, name]) = .ok m' ∧
          w' = { w with store := ⟨.memory m', []⟩ }) :=
  ⟨createWorkflow_failsClean, createStep_failsClean, createJob_failsClean,
    refreshHandlersState_failsClean e, fun _ _ _ _ _ hw h => saveHandler_fails hw h,
    fun _ _ _ _ _ _ hw h => deleteHandler_fails hw h⟩

/-- A handler of workflow `ghost`, which is not defined anywhere. -/
def ghostHandler : Handler := Handler.new "ghost" "h" .mapper [] "x" "script"

/-- Saving `ghostHandler` on the empty memory store fails in the refresh of its workflow's state,
after the handler has been written: the world is left with the handler stored and its revision
moved. -/
theorem saving_a_handler_of_a_missing_workflow :
    ∃ (err : Fault) (w' : World),
      (({} : Engine).saveHandler ghostHandler).run { store := Store.emptyMemory } = (.error err, w') ∧
        w'.store.revision = 1 ∧ ∃ x s₁, Entity.presave ghostHandler = .ok x ∧
          Store.Wrote x Store.emptyMemory s₁ ∧ w' = { store := s₁ } := by
  obtain ⟨err, hrun⟩ := exists_run_error_of_toOption (by decide +kernel :
    ((({} : Engine).saveHandler ghostHandler).run { store := Store.emptyMemory }).1.toOption = none)
  have hrev : ((({} : Engine).saveHandler ghostHandler).run
      { store := Store.emptyMemory }).2.store.revision = 1 := by decide +kernel
  refine ⟨err, _, hrun, hrev, ?_⟩
  rcases (definition_failures_keep_world {}).2.2.2.2.1 ghostHandler _ _ {} err rfl hrun with
    hsame | hwrote
  · rw [hsame] at hrev
    exact absurd hrev (by decide)
  · exact hwrote

/-- The handlers state of a workflow follows its handlers. It is the same for every order of the
pairs. For names without NUL and versions of sources, equal bytes mean the same pairs up to order;
a valid name that holds a NUL may spell out the frames of two other handlers. And on the memory
store that nobody races, where each workflow is stored under its own name, every successful save
or deletion of a handler leaves the workflow holding the state of the handlers then stored under
it; with the nodes sorted by path, saving a handler whose text its key already holds keeps that
state. -/
theorem handlersState_follows_handlers (e : Engine) (w : World) (m : MemoryStore)
    (hw : w.store = ⟨.memory m, []⟩) (hP : w.store.Placed Workflow fun _ => True) :
    (∀ l l' : List (String × String), l.Perm l' → handlersState l = handlersState l') ∧
    (∀ l l' : List (String × String),
      (∀ p ∈ l, '\x00' ∉ p.1.toList ∧ ∃ src, p.2 = sourceVersion src) →
      (∀ p ∈ l', '\x00' ∉ p.1.toList ∧ ∃ src, p.2 = sourceVersion src) →
        (handlersStateBytes l = handlersStateBytes l' ↔ l.Perm l')) ∧
    (∀ a b x y : String, a < b → Identity.ValidSegment a → Identity.ValidSegment b →
      Identity.ValidSegment (a ++ "\x00" ++ sourceVersion x ++ "\n" ++ b) ∧
        handlersStateBytes [(a, sourceVersion x), (b, sourceVersion y)] =
          handlersStateBytes [(a ++ "\x00" ++ sourceVersion x ++ "\n" ++ b, sourceVersion y)] ∧
        ¬ [(a, sourceVersion x), (b, sourceVersion y)].Perm
          [(a ++ "\x00" ++ sourceVersion x ++ "\n" ++ b, sourceVersion y)]) ∧
    (∀ (h : Handler) r w', (e.saveHandler h).run w = (.ok r, w') →
      HandlersTracked h.workflow w'.store) ∧
    (∀ wf name w', (e.deleteHandler wf name).run w = (.ok (), w') → HandlersTracked wf w'.store) ∧
    (∀ (h x : Handler) (n₀ : Node) r w', Entity.presave h = .ok x →
      m.get (recordKey x) = .ok n₀ → n₀.value = Entity.toText x →
      HandlersTracked h.workflow w.store → (e.saveHandler h).run w = (.ok r, w') →
        ∀ y : Workflow, w.store.Stores [h.workflow] y →
          ∃ y' : Workflow, w'.store.Stores [h.workflow] y' ∧ y'.handlersState = y.handlersState) :=
  ⟨fun _ _ => HandlersState.handlersState_perm,
    fun _ _ hl hl' => HandlersState.handlersStateBytes_eq_iff_perm hl hl',
    fun _ _ x y hab ha hb => HandlersState.spelled_frame_shares_bytes x y hab ha hb,
    fun _ _ _ h => saveHandler_tracks hw hP h, fun _ _ _ h => deleteHandler_tracks hw hP h,
    fun _ _ _ _ _ hx hn₀ htext htrack h _ hy =>
      saveHandler_same_keeps_state hw hP hx hn₀ htext htrack h hy⟩

/-- A world where workflow `wf`, whose handlers state has not been computed, holds handlers `a`
and `b`. -/
def handlersWorld : World where
  store := ⟨.memory ⟨[
    ("entities/handler/wf/a",
      ⟨1, Entity.toText (⟨"wf", "a", "", [], "x", "script", "v1", .mapper, "none"⟩ : Handler)⟩),
    ("entities/handler/wf/b",
      ⟨2, Entity.toText (⟨"wf", "b", "", [], "y", "script", "v2", .mapper, "none"⟩ : Handler)⟩),
    ("entities/workflow/wf", ⟨3, Entity.toText (⟨"wf", "", none⟩ : Workflow)⟩)], 3, false, by decide⟩, []⟩

/-- `handlersWorld` keeps its workflow under its name, and deleting handler `a` there succeeds and
leaves the workflow holding the state of handler `b`, the one left. -/
theorem handlersState_follows_a_deletion :
    handlersWorld.store.Placed Workflow (fun _ => True) ∧
      ∃ w', (({} : Engine).deleteHandler "wf" "a").run handlersWorld = (.ok (), w') ∧
        HandlersTracked "wf" w'.store := by
  have hP : handlersWorld.store.Placed Workflow fun _ => True :=
    (MemoryStore.placed_of_placesAll (α := Workflow) (r := fun _ => true) (by decide +kernel) []).mono
      fun _ _ => trivial
  have hrun := run_eq_ok_of_toOption (by decide +kernel :
    ((({} : Engine).deleteHandler "wf" "a").run handlersWorld).1.toOption = some ())
  exact ⟨hP, _, hrun, (handlersState_follows_handlers {} handlersWorld _ rfl hP).2.2.2.2.1 "wf" "a" _ hrun⟩

end MapReduce
