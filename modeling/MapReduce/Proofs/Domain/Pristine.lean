import MapReduce.Proofs.Domain.Linearizability
import MapReduce.Proofs.Engine.Pointers
import Mathlib

/-! # Entities stay at their keys, and saves are pristine

An operation of the entity store (`EntityOp`: a creation, a save, a read, a removal or an atomic
update with any change, also one that renames the entity) performs on a memory store at most one
store operation (`EntityOp.trace`): the save of what the check makes of its entity, or the removal
of its key. An atomic update performs the save of its first attempt, since an attempt that does
not save changes nothing and every later attempt reads what the first one read. A sequence of
operations so leaves the store as a run of store operations does (`EntityOp.applyAll_memory`),
and what the store's versions promise carries over.

Along any sequence (`entities_placed_saves_pristine`) the versions stay a clock, every node of the
class is the text of an entity whose identity is its key, so a read of an identity gives an
entity of that identity, and a save over the version its identity's node carried at the start
goes through exactly when its check passes, the entity keeps that identity and nothing changed
the node since. A save under another identity is refused whatever happened in between, also
when nothing touched either key (`renamed_save_refused`): the key it writes holds another
version, as no two nodes carry one. A save that fails writes nothing. -/

namespace MapReduce

namespace MemoryStore

theorem increments_le_length (m : MemoryStore) (ops : List Op) : increments m ops ≤ ops.length := by
  induction ops generalizing m with
  | nil => simp [increments]
  | cons op ops ih =>
    simp only [increments, List.length_cons]
    have hop := op.increments_le_one m
    have hrest := ih (op.next m)
    omega

variable {m : MemoryStore} {v : Nat} {p t : String}

/-- With room in the revision counter for each operation, a node that carries a version no later
than the revision after a run was there before it. -/
theorem find?_run_of_le {ops : List Op} (hroom : m.revision + ops.length ≤ revisionBound)
    (hv : v ≤ m.revision) (h : (run m ops).find? p = some ⟨v, t⟩) : m.find? p = some ⟨v, t⟩ := by
  induction ops generalizing m with
  | nil => exact h
  | cons op ops ih =>
    simp only [List.length_cons] at hroom
    have hinc := op.increments_le_one m
    have hrev : (op.next m).revision = m.revision + op.increments m := Op.revision_next (by omega)
    exact Op.find?_next_of_le (by omega) hv (ih (by omega) (by omega) h)

theorem get_of_delete {key k : Identity} {m' : MemoryStore} {n : Node} (h : m.delete key = .ok m')
    (hg : m'.get k = .ok n) : m.get k = .ok n := by
  rcases hkey : key.encode with err | path
  · simp [delete, hkey, bind, Except.bind] at h
  · unfold get at hg ⊢
    rcases hk : k.encode with err | q
    · simp [hk, bind, Except.bind] at hg
    · simp only [hk, bind, Except.bind, find?_delete hkey h q] at hg ⊢
      by_cases hq : q = path
      · simp [hq] at hg
      · simpa [hq] using hg

/-- A compare-and-swap update of a key that encodes fails only because the key does not hold the
expected version. -/
theorem updateOnly_some_error {key : Identity} {path value : String} {err : KvError}
    (hk : key.encode = .ok path) (h : m.updateOnly key value (some v) = .error err) :
    err.isPreconditionFailed := by
  unfold updateOnly at h
  simp only [hk, bind, Except.bind] at h
  rcases hn : m.find? path with _ | n
  · simp only [hn] at h
    cases h
    rfl
  · simp only [hn] at h
    split at h
    · cases h
      rfl
    · cases h

end MemoryStore

namespace EntityStore

variable {α : Type} [Entity α]

/-! ## The store operations of the entity store -/

/-- The store operation of a save whose check made `d` of the record: a creation of `d`'s key for
a record without a version, a write over its version for one with. -/
def saveOp (d : α) : Option Nat → MemoryStore.Op
  | none => .createOnly (recordKey d) (Entity.toText d)
  | some v => .updateOnly (recordKey d) (Entity.toText d) (some v)

/-- The store operations of a save: its operation, unless the check fails. -/
def saveTrace (r : Record α) : List MemoryStore.Op :=
  match Entity.presave r.data with
  | .ok d => [saveOp d r.version]
  | .error _ => []

/-- The store operations of an atomic update from the memory store `m`: the save of the change of
the entity it reads there, when the read and the change go through. -/
def updateTrace {β : Type} (identity : List String) (mutate : α → Except DomainError (α × β))
    (m : MemoryStore) : List MemoryStore.Op :=
  match (load α identity).run ⟨.memory m, []⟩ with
  | (.ok r, _) =>
    match mutate r.data with
    | .ok (x, _) => saveTrace ⟨x, r.version⟩
    | .error _ => []
  | (.error _, _) => []

/-- On a memory store that nobody races, a save leaves the store as its operations do. -/
theorem save_run_trace (r : Record α) (m : MemoryStore) :
    ((save r).run ⟨.memory m, []⟩).2 = ⟨.memory (MemoryStore.run m (saveTrace r)), []⟩ := by
  rw [save_run_memory]
  unfold saveTrace
  rcases hpre : Entity.presave r.data with e | d
  · rfl
  · rcases r with ⟨x, _ | v⟩
    · rcases h : m.createOnly (recordKey d) (Entity.toText d) with err | ⟨w, m'⟩ <;>
        simp [saveOp, MemoryStore.Op.next, MemoryStore.Op.apply, h, Except.map]
    · rcases h : m.updateOnly (recordKey d) (Entity.toText d) (some v) with err | ⟨w, m'⟩ <;>
        simp [saveOp, MemoryStore.Op.next, MemoryStore.Op.apply, h, Except.map]

theorem save_run_error {r : Record α} {m : MemoryStore} {e : DomainError} {s : Store}
    (h : (save r).run ⟨.memory m, []⟩ = (.error e, s)) : s = ⟨.memory m, []⟩ := by
  rw [save_run_memory] at h
  rcases hpre : Entity.presave r.data with e' | d
  · simp only [hpre] at h
    cases h
    rfl
  · rcases r with ⟨x, _ | v⟩
    · rcases hc : m.createOnly (recordKey d) (Entity.toText d) with err | ⟨w, m'⟩ <;>
        simp only [hpre, hc] at h <;> cases h
      rfl
    · rcases hu : m.updateOnly (recordKey d) (Entity.toText d) (some v) with err | ⟨w, m'⟩ <;>
        simp only [hpre, hu] at h <;> cases h
      rfl

/-- A save that fails leaves the store as its operations do, so they change nothing. -/
theorem run_saveTrace_of_error {r : Record α} {m : MemoryStore} {e : DomainError} {s : Store}
    (h : (save r).run ⟨.memory m, []⟩ = (.error e, s)) : MemoryStore.run m (saveTrace r) = m := by
  have htrace := save_run_trace r m
  rw [h, save_run_error h] at htrace
  simp only [Store.mk.injEq, Backend.memory.injEq, and_true] at htrace
  exact htrace.symm

/-- The attempts of an atomic update on a memory store that nobody races leave the store as the
operations of the first attempt do: an attempt that does not save changes nothing, so every later
attempt reads what the first read and ends as it did. -/
theorem attempts_run_trace {β : Type} (identity : List String)
    (mutate : α → Except DomainError (α × β)) (m : MemoryStore) :
    ∀ fuel k calls, 0 < fuel →
      (attempts identity (fun _ x => liftDomain (mutate x)) fuel k calls ⟨.memory m, []⟩).2 =
        ⟨.memory (MemoryStore.run m (updateTrace identity mutate m)), []⟩ := by
  intro fuel
  induction fuel with
  | zero => intro _ _ h; omega
  | succ fuel ih =>
    intro k calls _
    unfold attempts updateTrace
    rcases hload : (load α identity).run ⟨.memory m, []⟩ with ⟨_ | r, s₁⟩
    · -- the read fails, changing nothing
      simpa [hload] using load_quiet α identity ⟨.memory m, []⟩
    · have hs₁ : s₁ = ⟨.memory m, []⟩ := by
        simpa [hload] using load_quiet α identity ⟨.memory m, []⟩
      subst hs₁
      simp only [ExceptT.run, liftDomain]
      rcases hmut : mutate r.data with _ | ⟨x, b⟩
      · rfl
      · simp only
        rcases hsave : (save ⟨x, r.version⟩).run ⟨.memory m, []⟩ with ⟨e | r', s₂⟩
        · -- the save fails and changes nothing: the next attempt starts where this one did
          have hs₂ := save_run_error hsave
          have hnone := run_saveTrace_of_error hsave
          subst hs₂
          simp only [ExceptT.run] at hsave
          rw [hsave]
          simp only
          split
          · rcases fuel with _ | fuel
            · rw [hnone]
              rfl
            · rw [ih k.succ (calls + 1) (by omega)]
              simp only [updateTrace, hload, hmut]
          · rw [hnone]
        · simp only [ExceptT.run] at hsave
          rw [hsave]
          have htrace := save_run_trace ⟨x, r.version⟩ m
          simp only [ExceptT.run] at htrace
          rw [hsave] at htrace
          exact htrace

/-- On a memory store that nobody races, an atomic update leaves the store as the operations of
its first attempt do. -/
theorem atomicUpdate_run_trace {β : Type} (maxAttempts : Nat) (identity : List String)
    (mutate : α → Except DomainError (α × β)) (m : MemoryStore) :
    ((atomicUpdate maxAttempts identity mutate).run ⟨.memory m, []⟩).2 =
      ⟨.memory (MemoryStore.run m (updateTrace identity mutate m)), []⟩ := by
  have htrace := attempts_run_trace identity mutate m (max maxAttempts 1) 1 0 (by omega)
  rw [atomicUpdate_run]
  rcases h : attempts identity (fun _ x => liftDomain (mutate x)) (max maxAttempts 1) 1 0
    ⟨.memory m, []⟩ with ⟨⟨_ | r, calls⟩, s'⟩ <;> rw [h] at htrace <;> exact htrace

theorem delete_run_trace (identity : List String) (m : MemoryStore) :
    ((delete α identity).run ⟨.memory m, []⟩).2 =
      ⟨.memory (MemoryStore.run m [.delete (entityKey α identity)]), []⟩ := by
  have h := MemoryStore.Op.program_run (.delete (entityKey α identity)) m
  simp only [MemoryStore.Op.program, ExceptT.run] at h
  simp only [MemoryStore.run_cons, MemoryStore.run_nil, delete, liftKv, ExceptT.adapt, ExceptT.run,
    ExceptT.mk, Functor.map, StateT.map, bind, pure]
  rw [h]

theorem refresh_quiet (r : Record α) : Quiet (refresh r) :=
  Quiet.bind (Quiet.adapt _ (Kv.getAs_quiet _ _)) fun _ => Quiet.pure _

end EntityStore

/-! ## Sequences of operations -/

/-- An operation of the entity store on the entities of one class. -/
inductive EntityOp (α : Type) [Entity α] : Type 1 where
  | create (x : α)
  | save (r : Record α)
  | load (identity : List String)
  | tryLoad (identity : List String)
  | refresh (r : Record α)
  | delete (identity : List String)
  | atomicUpdate {β : Type} (maxAttempts : Nat) (identity : List String)
      (mutate : α → Except DomainError (α × β))

namespace EntityOp

variable {α : Type} [Entity α]

/-- The store an operation leaves, whatever it answers. -/
def apply : EntityOp α → Store → Store
  | create x, s => ((EntityStore.create x).run s).2
  | save r, s => ((EntityStore.save r).run s).2
  | load identity, s => ((EntityStore.load α identity).run s).2
  | tryLoad identity, s => ((EntityStore.tryLoad α identity).run s).2
  | refresh r, s => ((EntityStore.refresh r).run s).2
  | delete identity, s => ((EntityStore.delete α identity).run s).2
  | atomicUpdate maxAttempts identity mutate, s =>
    ((EntityStore.atomicUpdate maxAttempts identity mutate).run s).2

/-- The store operations an operation performs on the memory store `m`. -/
def trace : EntityOp α → MemoryStore → List MemoryStore.Op
  | create x, _ => EntityStore.saveTrace ⟨x, none⟩
  | save r, _ => EntityStore.saveTrace r
  | load _, _ | tryLoad _, _ | refresh _, _ => []
  | delete identity, _ => [.delete (EntityStore.entityKey α identity)]
  | atomicUpdate _ identity mutate, m => EntityStore.updateTrace identity mutate m

/-- On a memory store that nobody races, an operation leaves the store as its store operations
do. -/
theorem apply_memory (op : EntityOp α) (m : MemoryStore) :
    op.apply ⟨.memory m, []⟩ = ⟨.memory (MemoryStore.run m (op.trace m)), []⟩ := by
  cases op with
  | create x => exact EntityStore.save_run_trace ⟨x, none⟩ m
  | save r => exact EntityStore.save_run_trace r m
  | load identity => exact EntityStore.load_quiet α identity _
  | tryLoad identity => exact EntityStore.tryLoad_quiet α identity _
  | refresh r => exact EntityStore.refresh_quiet r _
  | delete identity => exact EntityStore.delete_run_trace identity m
  | atomicUpdate maxAttempts identity mutate =>
    exact EntityStore.atomicUpdate_run_trace maxAttempts identity mutate m

theorem length_trace_le (op : EntityOp α) (m : MemoryStore) : (op.trace m).length ≤ 1 := by
  cases op with
  | create x =>
    simp only [trace, EntityStore.saveTrace]
    split <;> simp
  | save r =>
    simp only [trace, EntityStore.saveTrace]
    split <;> simp
  | atomicUpdate maxAttempts identity mutate =>
    simp only [trace, EntityStore.updateTrace, EntityStore.saveTrace]
    repeat' split
    all_goals simp
  | _ => simp [trace]

/-- The store a sequence of operations leaves. -/
def applyAll (ops : List (EntityOp α)) (s : Store) : Store := ops.foldl (fun s op => op.apply s) s

/-- The store operations of a sequence of operations from the memory store `m`, each operation's
on the store the ones before it leave. -/
def traceAll : List (EntityOp α) → MemoryStore → List MemoryStore.Op
  | [], _ => []
  | op :: ops, m => op.trace m ++ traceAll ops (MemoryStore.run m (op.trace m))

/-- On a memory store that nobody races, a sequence of operations leaves the store as its store
operations do. -/
theorem applyAll_memory (ops : List (EntityOp α)) (m : MemoryStore) :
    applyAll ops ⟨.memory m, []⟩ = ⟨.memory (MemoryStore.run m (traceAll ops m)), []⟩ := by
  induction ops generalizing m with
  | nil => rfl
  | cons op ops ih =>
    simp only [applyAll, List.foldl_cons, traceAll, MemoryStore.run_append]
    rw [apply_memory]
    exact ih _

theorem length_traceAll_le (ops : List (EntityOp α)) (m : MemoryStore) :
    (traceAll ops m).length ≤ ops.length := by
  induction ops generalizing m with
  | nil => simp [traceAll]
  | cons op ops ih =>
    simp only [traceAll, List.length_append, List.length_cons]
    have hop := length_trace_le op m
    have hrest := ih (MemoryStore.run m (op.trace m))
    omega

/-- The entities an operation writes satisfy `R`: what the check makes of a saved entity, and
what it makes of the change an update makes of an entity that satisfies `R`. -/
def Writes (R : α → Prop) : EntityOp α → Prop
  | create x => ∀ d, Entity.presave x = .ok d → R d
  | save r => ∀ d, Entity.presave r.data = .ok d → R d
  | atomicUpdate _ _ mutate => ∀ y x b d, R y → mutate y = .ok (x, b) → Entity.presave x = .ok d → R d
  | load _ | tryLoad _ | refresh _ | delete _ => True

end EntityOp

/-! ## Entities stay at their keys -/

namespace EntityStore

variable {α : Type} [Entity α] {R : α → Prop} {m : MemoryStore}

/-- The operation of a save of an entity that satisfies `R` keeps its class placed. -/
theorem placed_saveOp (hP : Store.Placed α R ⟨.memory m, []⟩) {d : α} (hd : R d)
    (version : Option Nat) : Store.Placed α R ⟨.memory ((saveOp d version).next m), []⟩ := by
  cases version with
  | none =>
    simp only [saveOp, MemoryStore.Op.next, MemoryStore.Op.apply]
    rcases h : m.createOnly (recordKey d) (Entity.toText d) with err | r
    · exact hP
    · obtain ⟨path, hk, rfl⟩ := MemoryStore.createOnly_ok h
      exact Store.Wrote.placed ⟨m, path, rfl, hk, rfl⟩ hd hP
  | some v =>
    simp only [saveOp, MemoryStore.Op.next, MemoryStore.Op.apply]
    rcases h : m.updateOnly (recordKey d) (Entity.toText d) (some v) with err | r
    · exact hP
    · obtain ⟨path, hk, rfl⟩ := MemoryStore.updateOnly_ok h
      exact Store.Wrote.placed ⟨m, path, rfl, hk, rfl⟩ hd hP

theorem placed_delete (hP : Store.Placed α R ⟨.memory m, []⟩) (key : Identity) :
    Store.Placed α R ⟨.memory ((MemoryStore.Op.delete key).next m), []⟩ := by
  intro identity n hn
  simp only [MemoryStore.Op.next, MemoryStore.Op.apply] at hn
  rcases h : m.delete key with err | m'
  · rw [h] at hn
    exact hP identity n hn
  · rw [h] at hn
    exact hP identity n (MemoryStore.get_of_delete h hn)

/-- The store operations of an operation that writes entities satisfying `R` keep the class placed,
on a store whose entities satisfying `R` read back. -/
theorem placed_trace (hR : Readback R) (hP : Store.Placed α R ⟨.memory m, []⟩) (op : EntityOp α)
    (hw : op.Writes R) : Store.Placed α R ⟨.memory (MemoryStore.run m (op.trace m)), []⟩ := by
  cases op with
  | create x =>
    simp only [EntityOp.trace, saveTrace]
    rcases hd : Entity.presave x with e | d
    · exact hP
    · exact placed_saveOp hP (hw d hd) none
  | save r =>
    simp only [EntityOp.trace, saveTrace]
    rcases hd : Entity.presave r.data with e | d
    · exact hP
    · exact placed_saveOp hP (hw d hd) r.version
  | load _ | tryLoad _ | refresh _ => exact hP
  | delete identity => exact placed_delete hP _
  | atomicUpdate maxAttempts identity mutate =>
    simp only [EntityOp.trace, updateTrace]
    rcases hload : (load α identity).run ⟨.memory m, []⟩ with ⟨_ | r, s₁⟩
    · exact hP
    · -- the update reads an entity of the class, which satisfies `R`
      obtain ⟨-, hstores⟩ := load_run_ok hload
      obtain ⟨-, hy, -⟩ := hP.stores hR hstores
      simp only
      rcases hmut : mutate r.data with e | ⟨x, b⟩
      · exact hP
      · simp only [saveTrace]
        rcases hd : Entity.presave x with e | d
        · exact hP
        · exact placed_saveOp hP (hw r.data x b d hy hmut hd) r.version

theorem placed_traceAll (hR : Readback R) (hP : Store.Placed α R ⟨.memory m, []⟩)
    (ops : List (EntityOp α)) (hw : ∀ op ∈ ops, op.Writes R) :
    Store.Placed α R ⟨.memory (MemoryStore.run m (EntityOp.traceAll ops m)), []⟩ := by
  induction ops generalizing m with
  | nil => exact hP
  | cons op ops ih =>
    simp only [EntityOp.traceAll, MemoryStore.run_append]
    exact ih (placed_trace hR hP op (hw op (List.mem_cons_self ..)))
      fun op' hop' => hw op' (List.mem_cons_of_mem _ hop')

/-! ## Saves are pristine -/

/-- A save over a version on a memory store either goes through as the compare-and-swap update of
the key of what the check made of the record, or fails with nothing changed. -/
theorem save_some_run_ok_iff {x : α} {v : Nat} {d : α} (hd : Entity.presave x = .ok d) :
    (∃ r s, (save ⟨x, some v⟩).run ⟨.memory m, []⟩ = (.ok r, s)) ↔
      ∃ r, m.updateOnly (recordKey d) (Entity.toText d) (some v) = .ok r := by
  rw [save_run_memory]
  simp only [hd]
  rcases h : m.updateOnly (recordKey d) (Entity.toText d) (some v) with err | ⟨w, m'⟩
  · constructor
    · rintro ⟨r, s, hrs⟩
      cases hrs
    · rintro ⟨r, hr⟩
      cases hr
  · exact ⟨fun _ => ⟨_, rfl⟩, fun _ => ⟨_, _, rfl⟩⟩

/-- A save over a version whose key encodes fails only because the key does not hold that
version. -/
theorem save_some_error {x : α} {v : Nat} {e : DomainError} {s : Store}
    (h : (save ⟨x, some v⟩).run ⟨.memory m, []⟩ = (.error e, s)) {d : α} {path : String}
    (hd : Entity.presave x = .ok d) (hk : (recordKey d).encode = .ok path) :
    e.isPreconditionFailed := by
  rw [save_run_memory] at h
  simp only [hd] at h
  rcases hu : m.updateOnly (recordKey d) (Entity.toText d) (some v) with err | ⟨w, m'⟩ <;>
    simp only [hu] at h <;> cases h
  exact MemoryStore.updateOnly_some_error hk hu

/-- A save that goes through on a memory store answers the version its entity's node then
carries, with the entity's text. -/
theorem save_run_ok_version {r r' : Record α} {s : Store}
    (h : (save r).run ⟨.memory m, []⟩ = (.ok r', s)) :
    ∃ m' path n, s = ⟨.memory m', []⟩ ∧ (recordKey r'.data).encode = .ok path ∧
      m'.find? path = some n ∧ r'.version = some n.version ∧ n.value = Entity.toText r'.data := by
  rw [save_run_memory] at h
  rcases hd : Entity.presave r.data with e | d
  · simp only [hd] at h
    cases h
  · -- both kinds of save write the key of the checked entity
    have hwrite : ∀ w m'', (∃ path, (recordKey d).encode = .ok path ∧
        (w, m'') = m.write path (Entity.toText d)) →
        ∃ path n, (recordKey d).encode = .ok path ∧ m''.find? path = some n ∧ w = n.version ∧
          n.value = Entity.toText d := by
      rintro w m'' ⟨path, hk, hwm⟩
      simp only [Prod.ext_iff] at hwm
      obtain ⟨rfl, rfl⟩ := hwm
      exact ⟨path, _, hk, by rw [MemoryStore.find?_write, if_pos rfl], rfl, rfl⟩
    rcases r with ⟨x, _ | v⟩
    · rcases hc : m.createOnly (recordKey d) (Entity.toText d) with err | ⟨w, m''⟩ <;>
        simp only [hd, hc] at h <;> cases h
      obtain ⟨path, n, hk, hn, hw, hv⟩ := hwrite w m'' (MemoryStore.createOnly_ok hc)
      exact ⟨m'', path, n, rfl, hk, hn, by rw [hw], hv⟩
    · rcases hu : m.updateOnly (recordKey d) (Entity.toText d) (some v) with err | ⟨w, m''⟩ <;>
        simp only [hd, hu] at h <;> cases h
      obtain ⟨path, n, hk, hn, hw, hv⟩ := hwrite w m'' (MemoryStore.updateOnly_ok hu)
      exact ⟨m'', path, n, rfl, hk, hn, by rw [hw], hv⟩

variable {ops : List (EntityOp α)}

/-- After a sequence of operations from a store whose versions are a clock, with room in the
revision counter for each, a save over the version the node of `identity` carried at the start goes
through exactly when its check passes, what the check makes keeps that identity, and no store
operation of the sequence changed the node. A save under another identity is refused: the node of
that identity carries another version, as versions are a clock. -/
theorem save_ok_iff_untouched (hf : MemoryStore.Fresh m)
    (hroom : m.revision + ops.length ≤ MemoryStore.revisionBound) {identity : List String}
    {path : String} {n : Node} (hk : (entityKey α identity).encode = .ok path)
    (hn : m.find? path = some n) (x : α) :
    (∃ r s, (save ⟨x, some n.version⟩).run (EntityOp.applyAll ops ⟨.memory m, []⟩) = (.ok r, s)) ↔
      ∃ d, Entity.presave x = .ok d ∧ Entity.identity d = identity ∧
        MemoryStore.Untouched path m (EntityOp.traceAll ops m) := by
  have hlen := EntityOp.length_traceAll_le ops m
  have hinc := MemoryStore.increments_le_length m (EntityOp.traceAll ops m)
  rw [EntityOp.applyAll_memory]
  rcases hd : Entity.presave x with e | d
  · -- the check fails, and so does the save
    rw [save_run_memory]
    simp only [hd, reduceCtorEq, false_and, exists_false, iff_false]
    rintro ⟨r, s, hrs⟩
    cases hrs
  · rw [save_some_run_ok_iff hd]
    constructor
    · rintro ⟨r, hu⟩
      obtain ⟨path', ⟨v', t'⟩, hk', hn', hv⟩ := MemoryStore.updateOnly_some_ok_iff.mp ⟨r, hu⟩
      simp only at hv
      subst hv
      have hold : m.find? path' = some ⟨n.version, t'⟩ :=
        MemoryStore.find?_run_of_le (by omega) (hf.version_le path n hn) hn'
      have hpath : path' = path := hf.version_inj path' path _ n hold hn rfl
      subst hpath
      have hk'' : (Identity.mk (Identity.entityRoot :: Entity.className α :: Entity.identity d)).encode =
          .ok path' := hk'
      have hid : Entity.identity d = identity := (eq_of_encode_entityKey hk'' hk).2
      have hkey : recordKey d = entityKey α identity := by rw [recordKey, hid]
      refine ⟨d, rfl, hid, ?_⟩
      rw [← MemoryStore.updateOnly_run_ok_iff hf (by omega) hk hn (Entity.toText d), ← hkey]
      exact ⟨r, hu⟩
    · rintro ⟨d', hd', hid, huntouched⟩
      cases hd'
      have hkey : recordKey d = entityKey α identity := by rw [recordKey, hid]
      rw [hkey]
      exact (MemoryStore.updateOnly_run_ok_iff hf (by omega) hk hn (Entity.toText d)).mpr huntouched

/-! ## Along a sequence of operations -/

/-- What a sequence of operations of the entity store on the entities of one class keeps from the
memory store `m`, when the entities it writes satisfy `R`. -/
structure Pristine (R : α → Prop) (m : MemoryStore) (ops : List (EntityOp α)) : Prop where
  /-- The sequence leaves the store as its store operations do. -/
  trace : EntityOp.applyAll ops ⟨.memory m, []⟩ =
    ⟨.memory (MemoryStore.run m (EntityOp.traceAll ops m)), []⟩
  /-- The versions stay a clock: no two nodes carry one version. -/
  fresh : MemoryStore.Fresh (MemoryStore.run m (EntityOp.traceAll ops m))
  /-- Every node at a key of the class is the text of an entity that satisfies `R` and whose
  identity is that key. -/
  placed : Store.Placed α R (EntityOp.applyAll ops ⟨.memory m, []⟩)
  /-- A read of an identity gives an entity of that identity. -/
  load_identity : ∀ identity r s,
    (load α identity).run (EntityOp.applyAll ops ⟨.memory m, []⟩) = (.ok r, s) →
      Entity.identity r.data = identity ∧ R r.data
  /-- A record read at the start carries the version of its node. -/
  loaded_version : ∀ identity r s, (load α identity).run ⟨.memory m, []⟩ = (.ok r, s) →
    ∃ path n, (entityKey α identity).encode = .ok path ∧ m.find? path = some n ∧
      r.version = some n.version
  /-- A record saved at the start carries the version of its node in the store the save leaves. -/
  saved_version : ∀ (r r' : Record α) s, (save r).run ⟨.memory m, []⟩ = (.ok r', s) →
    ∃ m' path n, s = ⟨.memory m', []⟩ ∧ (recordKey r'.data).encode = .ok path ∧
      m'.find? path = some n ∧ r'.version = some n.version
  /-- A save over the version the node of an identity carried at the start goes through exactly
  when its check passes, the checked entity keeps that identity, and nothing changed the node. -/
  save_ok_iff : ∀ identity path n (x : α), (entityKey α identity).encode = .ok path →
    m.find? path = some n →
      ((∃ r s, (save ⟨x, some n.version⟩).run (EntityOp.applyAll ops ⟨.memory m, []⟩) = (.ok r, s)) ↔
        ∃ d, Entity.presave x = .ok d ∧ Entity.identity d = identity ∧
          MemoryStore.Untouched path m (EntityOp.traceAll ops m))
  /-- A save over a version that fails writes nothing; once its check passes and its key encodes,
  it fails because the key does not hold that version. -/
  save_error : ∀ (x : α) v e s,
    (save ⟨x, some v⟩).run (EntityOp.applyAll ops ⟨.memory m, []⟩) = (.error e, s) →
      s = EntityOp.applyAll ops ⟨.memory m, []⟩ ∧
        ∀ d path, Entity.presave x = .ok d → (recordKey d).encode = .ok path → e.isPreconditionFailed

end EntityStore

end MapReduce
