import MapReduce.Domain.Store
import Mathlib

/-! # Reads and compare-and-swap writes on the in-memory store

A write puts its node first among the nodes of its path, so a read after it finds what was
written at that path and what was there before at every other path; this needs no sortedness of
the node list. On a store that no rival races, a compare-and-swap update writes exactly when the
node holds the expected version, and otherwise fails with nothing changed. Lifted to entities:
reading gives the entity at its node's version, and saving over a version is that
compare-and-swap. -/

namespace MapReduce

namespace MemoryStore

/-- A lookup after `insertNode` finds the inserted node at its path and what was there at every
other path. -/
theorem find?_insertNode (path q : String) (n : Node) (l : List (String × Node)) :
    ((insertNode path n l).find? (·.1 == q)).map (·.2) =
      if q = path then some n else (l.find? (·.1 == q)).map (·.2) := by
  induction l with
  | nil =>
    by_cases hq : q = path
    · simp [insertNode, hq]
    · simp [insertNode, hq, Ne.symm hq]
  | cons e rest ih =>
    obtain ⟨p, m⟩ := e
    by_cases hlt : path < p
    · -- the node goes before the first greater path
      rw [insertNode, if_pos hlt]
      by_cases hq : q = path
      · simp [hq]
      · simp [hq, Ne.symm hq]
    · by_cases hp : path = p
      · -- the node replaces the one of its own path
        subst hp
        rw [insertNode, if_neg hlt, if_pos rfl]
        by_cases hq : q = path
        · simp [hq]
        · simp [hq, Ne.symm hq]
      · -- the node goes further down, past a path other than its own
        rw [insertNode, if_neg hlt, if_neg hp]
        by_cases hpq : p = q
        · subst hpq
          simp [Ne.symm hp]
        · simp [hpq, ih]

theorem find?_write (s : MemoryStore) (path value q : String) :
    (s.write path value).2.find? q =
      if q = path then some ⟨min (s.revision + 1) revisionBound, value⟩ else s.find? q := by
  simp only [write, find?, bump]
  exact find?_insertNode path q _ s.nodes

@[simp] theorem revision_write (s : MemoryStore) (path value : String) :
    (s.write path value).2.revision = min (s.revision + 1) revisionBound := rfl

@[simp] theorem write_fst (s : MemoryStore) (path value : String) :
    (s.write path value).1 = min (s.revision + 1) revisionBound := rfl

@[simp] theorem closed_write (s : MemoryStore) (path value : String) :
    (s.write path value).2.closed = s.closed := rfl

theorem get_of_find? {key : Identity} {path : String} {s : MemoryStore} {n : Node}
    (hkey : key.encode = .ok path) (hnode : s.find? path = some n) : s.get key = .ok n := by
  simp [get, hkey, hnode, bind, Except.bind]

/-- A lookup after the nodes of one path are dropped finds nothing there and what was there at
every other path. -/
theorem find?_filter_ne (path q : String) (l : List (String × Node)) :
    ((l.filter (·.1 != path)).find? (·.1 == q)).map (·.2) =
      if q = path then none else (l.find? (·.1 == q)).map (·.2) := by
  induction l with
  | nil => simp
  | cons e rest ih =>
    obtain ⟨p, m⟩ := e
    by_cases hp : p = path
    · subst hp
      by_cases hq : q = p
      · subst hq
        simp
      · simpa [List.filter_cons, hq, Ne.symm hq] using ih
    · by_cases hq : p = q
      · subst hq
        simp [hp]
      · simpa [List.filter_cons, hp, hq] using ih

theorem find?_delete {s : MemoryStore} {key : Identity} {path : String} {s' : MemoryStore}
    (hkey : key.encode = .ok path) (h : s.delete key = .ok s') (q : String) :
    s'.find? q = if q = path then none else s.find? q := by
  simp only [delete, hkey, bind, Except.bind] at h
  split at h
  · cases h
  · cases h
    exact find?_filter_ne path q s.nodes

theorem revision_delete {s : MemoryStore} {key : Identity} {s' : MemoryStore} (h : s.delete key = .ok s') :
    s'.revision = min (s.revision + 1) revisionBound := by
  simp only [delete, bind, Except.bind] at h
  split at h
  · cases h
  · split at h
    · cases h
    · cases h
      rfl

/-- Appending writes the value at a fresh child of the key's path. -/
theorem append_eq_write {s s' : MemoryStore} {key : Identity} {value : String} {r : String × Nat}
    (h : s.append key value = .ok (r, s')) :
    ∃ root, key.encode = .ok root ∧
      s' = (s.write (root ++ "/" ++ inOrderName s.bump.revision) value).2 := by
  unfold append at h
  rcases hk : key.encode with err | root
  · simp [hk, bind, Except.bind] at h
  · simp only [hk, bind, Except.bind, Except.ok.injEq, Prod.mk.injEq] at h
    exact ⟨root, rfl, h.2.symm⟩

theorem closed_append {s s' : MemoryStore} {key : Identity} {value : String} {r : String × Nat}
    (h : s.append key value = .ok (r, s')) : s'.closed = s.closed := by
  obtain ⟨root, -, rfl⟩ := append_eq_write h
  rfl

theorem get_of_find?_none {key : Identity} {path : String} {s : MemoryStore}
    (hkey : key.encode = .ok path) (hnode : s.find? path = none) : s.get key = .error (.notFound path) := by
  simp [get, hkey, hnode, bind, Except.bind]

/-- A path with a name directly below a directory is the directory followed by the name, which
holds no `/`. -/
theorem toList_of_childName? {dir p x : String} (h : childName? dir p = some x) :
    p.toList = dir.toList ++ x.toList ∧ '/' ∉ x.toList := by
  unfold childName? at h
  split at h
  · rename_i hs
    dsimp only at h
    split at h
    · cases h
    · rename_i hslash
      cases h
      have hpre : dir.toList <+: p.toList := String.startsWith_string_iff.mp hs
      refine ⟨?_, by simpa using hslash⟩
      rw [String.toList_ofList, ← String.length_toList]
      exact (List.prefix_iff_eq_append.mp hpre).symm
  · cases h

/-- Two paths with the same name below one directory are the same path. -/
theorem eq_of_childName? {dir p q x : String} (hp : childName? dir p = some x) (hq : childName? dir q = some x) :
    p = q :=
  String.toList_injective ((toList_of_childName? hp).1.trans (toList_of_childName? hq).1.symm)

end MemoryStore

namespace Kv

variable {key : Identity} {path : String} {m : MemoryStore}

theorem getAs_memory {β : Type} {dec : Json → Except String β} {rivals : List Rival} {n : Node}
    {x : β} (hkey : key.encode = .ok path) (hnode : m.find? path = some n)
    (hdec : decodeAs dec n.value = .ok x) :
    getAs dec key ⟨.memory m, rivals⟩ = (.ok (n.version, x), ⟨.memory m, rivals⟩) := by
  simp [getAs, get, read, Backend.get, MemoryStore.get_of_find? hkey hnode, liftExcept, hdec, bind,
    ExceptT.bind, ExceptT.mk, ExceptT.bindCont, pure, ExceptT.pure, StateT.bind, StateT.pure]

theorem getAs_memory_absent {β : Type} {dec : Json → Except String β} {rivals : List Rival}
    (hkey : key.encode = .ok path) (hnode : m.find? path = none) :
    getAs dec key ⟨.memory m, rivals⟩ = (.error (.notFound path), ⟨.memory m, rivals⟩) := by
  simp [getAs, get, read, Backend.get, MemoryStore.get_of_find?_none hkey hnode, bind, ExceptT.bind,
    ExceptT.mk, ExceptT.bindCont, StateT.bind, pure, StateT.pure]

/-- An unconditional write of a memory store writes the path of the key. -/
theorem set_memory {value : String} {rivals : List Rival} (hkey : key.encode = .ok path) :
    (set key value).run ⟨.memory m, rivals⟩ =
      (.ok (m.write path value).1, ⟨.memory (m.write path value).2, rivals⟩) := by
  simp [set, write, Backend.set, MemoryStore.set, hkey, Backend.onMemory, bind, Except.bind, ExceptT.run]

/-- An unconditional write to a key with no path changes nothing. -/
theorem set_memory_error {value : String} {rivals : List Rival} {err : KvError}
    (hkey : key.encode = .error err) :
    (set key value).run ⟨.memory m, rivals⟩ = (.error err, ⟨.memory m, rivals⟩) := by
  simp [set, write, Backend.set, MemoryStore.set, hkey, Backend.onMemory, bind, Except.bind, ExceptT.run]

theorem delete_memory (rivals : List Rival) {m' : MemoryStore} (h : m.delete key = .ok m') :
    (delete key).run ⟨.memory m, rivals⟩ = (.ok (), ⟨.memory m', rivals⟩) := by
  simp [delete, write, Backend.delete, h, Backend.onMemory, Except.map, ExceptT.run]

theorem delete_memory_error (rivals : List Rival) {err : KvError} (h : m.delete key = .error err) :
    (delete key).run ⟨.memory m, rivals⟩ = (.error err, ⟨.memory m, rivals⟩) := by
  simp [delete, write, Backend.delete, h, Backend.onMemory, Except.map, ExceptT.run]

/-- A compare-and-swap update of a memory store that nobody races writes the key when it holds
the expected version. -/
theorem updateOnly_current {value : String} {e : Nat} {n : Node} (hkey : key.encode = .ok path)
    (hnode : m.find? path = some n) (hv : n.version = e) :
    updateOnly key value (some e) ⟨.memory m, []⟩ =
      (.ok (m.write path value).1, ⟨.memory (m.write path value).2, []⟩) := by
  simp [updateOnly, hkey, Store.race, Store.race.pick, write, Backend.updateOnly,
    MemoryStore.updateOnly, hnode, hv, Backend.onMemory, bind, Except.bind]

/-- A compare-and-swap update of a memory store that nobody races fails, changing nothing, when
the key is missing. -/
theorem updateOnly_absent {value : String} {e : Nat} (hkey : key.encode = .ok path)
    (hnode : m.find? path = none) :
    updateOnly key value (some e) ⟨.memory m, []⟩ =
      (.error (.preconditionFailed (path ++ " ausente (se esperaba versión " ++ toString e ++ ")")),
        ⟨.memory m, []⟩) := by
  simp [updateOnly, hkey, Store.race, Store.race.pick, write, Backend.updateOnly,
    MemoryStore.updateOnly, hnode, Backend.onMemory, bind, Except.bind]

/-- A compare-and-swap update of a memory store that nobody races fails, changing nothing, when
the key holds another version than the expected one. -/
theorem updateOnly_stale {value : String} {e : Nat} {n : Node} (hkey : key.encode = .ok path)
    (hnode : m.find? path = some n) (hv : n.version ≠ e) :
    updateOnly key value (some e) ⟨.memory m, []⟩ =
      (.error (.preconditionFailed (path ++ " en versión " ++ toString n.version ++
        " (se esperaba " ++ toString e ++ ")")), ⟨.memory m, []⟩) := by
  simp [updateOnly, hkey, Store.race, Store.race.pick, write, Backend.updateOnly,
    MemoryStore.updateOnly, hnode, hv, Backend.onMemory, bind, Except.bind]

/-- Watching a key of a memory store that is open to waits, since a version other than its node's,
reads the node's value at its version and changes nothing. -/
theorem watchAs_memory {β : Type} {dec : Json → Except String β} {rivals : List Rival} {n : Node}
    {x : β} {since : Nat} (hkey : key.encode = .ok path) (hnode : m.find? path = some n)
    (hopen : m.closed = false) (hsince : n.version ≠ since) (hdec : decodeAs dec n.value = .ok x) :
    watchAs dec key (some since) ⟨.memory m, rivals⟩ = (.ok (n.version, x), ⟨.memory m, rivals⟩) := by
  have hwatch : m.watch key (some since) = .ok n := by
    simp [MemoryStore.watch, hkey, hnode, hopen, hsince, bind, Except.bind, Option.orElse]
  simp [watchAs, watch, read, Backend.watch, hwatch, liftExcept, hdec, bind, ExceptT.bind, ExceptT.mk,
    ExceptT.bindCont, pure, ExceptT.pure, StateT.bind, StateT.pure]

/-- A listing reads the memory store under the store and changes nothing. -/
theorem listChildren_run_memory {st : Store} (hm : st.backend = .memory m) (key : Identity) :
    (Kv.listChildren key).run st = (m.listChildren key, st) := by
  obtain ⟨b, rivals⟩ := st
  simp only at hm
  subst hm
  rfl

end Kv

namespace EntityStore

variable {α : Type} [Entity α] {path : String} {m : MemoryStore} {n : Node}

/-- Reading an entity of a memory store gives the entity its node reads as, at the node's
version, and changes nothing. -/
theorem load_memory {identity : List String} {rivals : List Rival} {x : α}
    (hkey : (entityKey α identity).encode = .ok path) (hnode : m.find? path = some n)
    (hdec : Kv.decodeAs Entity.decode n.value = .ok x) :
    (load α identity).run ⟨.memory m, rivals⟩ = (.ok ⟨x, some n.version⟩, ⟨.memory m, rivals⟩) := by
  simp [load, liftKv, Kv.getAs_memory hkey hnode hdec, ExceptT.adapt, ExceptT.run, bind,
    ExceptT.bind, ExceptT.mk, ExceptT.bindCont, pure, ExceptT.pure, StateT.bind, StateT.pure,
    Functor.map, StateT.map, Except.mapError]

/-- Trying to read an entity of a memory store that holds it finds it, and changes nothing. -/
theorem tryLoad_memory {identity : List String} {rivals : List Rival} {x : α}
    (hkey : (entityKey α identity).encode = .ok path) (hnode : m.find? path = some n)
    (hdec : Kv.decodeAs Entity.decode n.value = .ok x) :
    (tryLoad α identity).run ⟨.memory m, rivals⟩ = (.ok (some ⟨x, some n.version⟩), ⟨.memory m, rivals⟩) := by
  have hload : (load α identity).run ⟨.memory m, rivals⟩ = _ := load_memory hkey hnode hdec
  simp only [ExceptT.run] at hload ⊢
  simp only [tryLoad, ExceptT.run]
  rw [hload]

/-- Watching an entity of a memory store that is open to waits, since a version other than its
node's, gives the entity its node reads as, at the node's version, and changes nothing. -/
theorem watch_memory {identity : List String} {rivals : List Rival} {x : α} {since : Nat}
    (hkey : (entityKey α identity).encode = .ok path) (hnode : m.find? path = some n)
    (hopen : m.closed = false) (hsince : n.version ≠ since)
    (hdec : Kv.decodeAs Entity.decode n.value = .ok x) :
    (watch α identity (some since)).run ⟨.memory m, rivals⟩ =
      (.ok ⟨x, some n.version⟩, ⟨.memory m, rivals⟩) := by
  simp [watch, liftKv, Kv.watchAs_memory hkey hnode hopen hsince hdec, ExceptT.adapt, ExceptT.run,
    bind, ExceptT.bind, ExceptT.mk, ExceptT.bindCont, pure, ExceptT.pure, StateT.bind, StateT.pure,
    Functor.map, StateT.map, Except.mapError]

/-- Reading an entity of a memory store where its node is missing fails, changing nothing. -/
theorem load_absent {identity : List String} {rivals : List Rival}
    (hkey : (entityKey α identity).encode = .ok path) (hnode : m.find? path = none) :
    (load α identity).run ⟨.memory m, rivals⟩ = (.error (.kv (.notFound path)), ⟨.memory m, rivals⟩) := by
  simp [load, liftKv, Kv.getAs_memory_absent hkey hnode, ExceptT.adapt, ExceptT.run, bind,
    ExceptT.bind, ExceptT.mk, ExceptT.bindCont, pure, StateT.bind, StateT.pure, Functor.map,
    StateT.map, Except.mapError]

/-- Saving a read entity over the version it was read at writes it when the node still holds that
version. -/
theorem save_current {x : α} {e : Nat} (hpre : Entity.presave x = .ok x)
    (hkey : (recordKey x).encode = .ok path) (hnode : m.find? path = some n) (hv : n.version = e) :
    (save ⟨x, some e⟩).run ⟨.memory m, []⟩ =
      (.ok ⟨x, some (m.write path (Entity.toText x)).1⟩,
        ⟨.memory (m.write path (Entity.toText x)).2, []⟩) := by
  simp [save, liftDomain, hpre, liftKv, Kv.updateOnly_current hkey hnode hv, ExceptT.adapt,
    ExceptT.run, bind, ExceptT.bind, ExceptT.mk, ExceptT.bindCont, pure, ExceptT.pure, StateT.bind,
    StateT.pure, Functor.map, StateT.map, Except.mapError]

/-- Saving a read entity over the version it was read at fails, changing nothing, when the node
holds another version. -/
theorem save_stale {x : α} {e : Nat} (hpre : Entity.presave x = .ok x)
    (hkey : (recordKey x).encode = .ok path) (hnode : m.find? path = some n) (hv : n.version ≠ e) :
    (save ⟨x, some e⟩).run ⟨.memory m, []⟩ =
      (.error (.kv (.preconditionFailed (path ++ " en versión " ++ toString n.version ++
        " (se esperaba " ++ toString e ++ ")"))), ⟨.memory m, []⟩) := by
  simp [save, liftDomain, hpre, liftKv, Kv.updateOnly_stale hkey hnode hv, ExceptT.adapt,
    ExceptT.run, bind, ExceptT.bind, ExceptT.mk, ExceptT.bindCont, pure, ExceptT.pure, StateT.bind,
    StateT.pure, Functor.map, StateT.map, Except.mapError]

/-- Saving a read entity over a version fails, changing nothing, when its node is missing. -/
theorem save_absent {x : α} {e : Nat} (hpre : Entity.presave x = .ok x)
    (hkey : (recordKey x).encode = .ok path) (hnode : m.find? path = none) :
    (save ⟨x, some e⟩).run ⟨.memory m, []⟩ =
      (.error (.kv (.preconditionFailed (path ++ " ausente (se esperaba versión " ++ toString e ++ ")"))),
        ⟨.memory m, []⟩) := by
  simp [save, liftDomain, hpre, liftKv, Kv.updateOnly_absent hkey hnode, ExceptT.adapt,
    ExceptT.run, bind, ExceptT.bind, ExceptT.mk, ExceptT.bindCont, pure, ExceptT.pure, StateT.bind,
    StateT.pure, Functor.map, StateT.map, Except.mapError]

/-- An atomic update of an entity the memory store holds, that nobody races, goes through at its
first attempt: it writes the entity as the change leaves it, at the next revision. -/
theorem atomicUpdate_memory {β : Type} {identity : List String} {mutate : α → Except DomainError (α × β)}
    {x x' : α} {b : β} (maxAttempts : Nat) (hkey : (entityKey α identity).encode = .ok path)
    (hnode : m.find? path = some n) (hdec : Kv.decodeAs Entity.decode n.value = .ok x)
    (hmut : mutate x = .ok (x', b)) (hpre : Entity.presave x' = .ok x')
    (hkey' : (recordKey x').encode = .ok path) :
    (atomicUpdate maxAttempts identity mutate).run ⟨.memory m, []⟩ =
      (.ok (⟨x', some (m.write path (Entity.toText x')).1⟩, b),
        ⟨.memory (m.write path (Entity.toText x')).2, []⟩) := by
  have hceil : max maxAttempts 1 = (max maxAttempts 1 - 1) + 1 := by omega
  have hload : (load α identity).run ⟨.memory m, []⟩ = _ := load_memory hkey hnode hdec
  have hsave := save_current hpre hkey' hnode rfl
  simp only [ExceptT.run] at hload hsave
  unfold atomicUpdate atomicUpdateCounting
  simp only [ExceptT.run, bind, StateT.bind, pure]
  rw [hceil, attempts]
  simp only [hload, liftDomain, ExceptT.run, hmut, hsave, StateT.pure]
  rfl

end EntityStore

end MapReduce
