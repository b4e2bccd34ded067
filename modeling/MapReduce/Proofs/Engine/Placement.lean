import MapReduce.Proofs.Engine.Frame
import Mathlib

/-! # Entities at their keys

An entity lives at the key of its class and identity. A path names one identity, since no
segment holds a `/` (`Identity.segments_eq_of_encode`), so writing the text of an entity
(`Store.Wrote`) changes the node at its own key and no other entity's: the other classes, and the
other entities of its class, read as they did.

A store keeps a class placed (`Store.Placed`) when every node at a key of the class is the text
of an entity whose identity is that key; when the texts read back, each key then gives the one
entity stored there, held at its own identity (`Store.Holds`). What a caller keeps of the
entities of a class (`Store.Retains`) survives a write that changes no entity in it.

On the memory store that nobody races, saving an entity either fails with nothing changed or
writes it, a creation only over a missing key, and an atomic update either fails with nothing
changed or writes the change of the entity it read. -/

namespace MapReduce

/-! ## Paths name their identities -/

namespace Identity

/-- The characters of a path are the segments' joined by `/`. -/
theorem toList_of_encode {segs : List String} {p : String} (h : (Identity.mk segs).encode = .ok p) :
    p.toList = ['/'].intercalate (segs.map String.toList) := by
  have hp : p = display ⟨segs⟩ := by
    unfold encode at h
    split at h
    · cases h
    · cases h; rfl
  rw [hp, display, String.toList_intercalate]
  rfl

/-- Splitting the path of an identity with segments at its `/`s gives the segments back, as
characters. -/
theorem splitOn_toList_of_encode {segs : List String} {p : String}
    (h : (Identity.mk segs).encode = .ok p) (hne : segs ≠ []) :
    p.toList.splitOn '/' = segs.map String.toList := by
  rw [toList_of_encode h]
  refine List.splitOn_intercalate '/' ?_ (by simpa using hne)
  intro l hl
  obtain ⟨s, hs, rfl⟩ := List.mem_map.mp hl
  exact slash_not_mem_of_encode h hs

/-- A path names one identity: two identities with segments and the same path have the same
segments. -/
theorem segments_eq_of_encode {a b : List String} {p : String} (ha : (Identity.mk a).encode = .ok p)
    (hb : (Identity.mk b).encode = .ok p) (hna : a ≠ []) (hnb : b ≠ []) : a = b :=
  List.map_injective_iff.mpr (fun _ _ h => String.toList_injective h)
    ((splitOn_toList_of_encode ha hna).symm.trans (splitOn_toList_of_encode hb hnb))

end Identity

namespace EntityStore

/-- The key of an entity starts below the root of entities, with its class. -/
theorem entityKey_eq (α : Type) [Entity α] (identity : List String) :
    entityKey α identity = ⟨Identity.entityRoot :: Entity.className α :: identity⟩ := rfl

/-- A path below the root of entities that is an entity's key names its class and identity. -/
theorem eq_of_encode_entityKey {α : Type} [Entity α] {cls : String} {rest identity : List String}
    {p : String} (h : (Identity.mk (Identity.entityRoot :: cls :: rest)).encode = .ok p)
    (h' : (entityKey α identity).encode = .ok p) : cls = Entity.className α ∧ rest = identity := by
  rw [entityKey_eq] at h'
  have := Identity.segments_eq_of_encode h h' (List.cons_ne_nil _ _) (List.cons_ne_nil _ _)
  simp only [List.cons.injEq] at this
  exact this.2

end EntityStore

namespace MemoryStore

theorem get_write_self {key : Identity} {p : String} (hk : key.encode = .ok p) (m : MemoryStore)
    (value : String) : (m.write p value).2.get key = .ok ⟨min (m.revision + 1) revisionBound, value⟩ :=
  get_of_find? hk (by rw [find?_write, if_pos rfl])

theorem get_write_other {key : Identity} {p : String} (hk : key.encode ≠ .ok p) (m : MemoryStore)
    (value : String) : (m.write p value).2.get key = m.get key := by
  unfold get
  rcases h : key.encode with err | q
  · rfl
  · have hq : q ≠ p := fun hqp => hk (h.trans (congrArg Except.ok hqp))
    simp only [bind, Except.bind, find?_write, if_neg hq]

/-- The node a key gives is the node at the key's path. -/
theorem find?_of_get {m : MemoryStore} {key : Identity} {p : String} {n : Node}
    (hkey : key.encode = .ok p) (h : m.get key = .ok n) : m.find? p = some n := by
  rcases hf : m.find? p with _ | n'
  · rw [get_of_find?_none hkey hf] at h
    cases h
  · rw [get_of_find? hkey hf] at h
    cases h
    rfl

/-- A node read at an entity's key is one of the store's nodes, at a path whose pieces are the
key's segments. -/
theorem mem_of_get_entityKey {α : Type} [Entity α] {m : MemoryStore} {identity : List String}
    {n : Node} (h : m.get (EntityStore.entityKey α identity) = .ok n) :
    ∃ p, (p, n) ∈ m.nodes ∧
      (p.toList.splitOn '/').map String.ofList = Identity.entityRoot :: Entity.className α :: identity := by
  rcases hk : (EntityStore.entityKey α identity).encode with e | p
  · simp [get, hk, bind, Except.bind] at h
  · have hfind : (m.nodes.find? (·.1 == p)).map (·.2) = some n := find?_of_get hk h
    obtain ⟨⟨p', n'⟩, he, rfl⟩ := Option.map_eq_some_iff.mp hfind
    have hp : p' = p := by simpa using List.find?_some he
    subst hp
    refine ⟨p', List.mem_of_find?_eq_some he, ?_⟩
    rw [Identity.splitOn_toList_of_encode hk (List.cons_ne_nil _ _)]
    simp

end MemoryStore

/-! ## Entities a store holds -/

namespace Store

variable {α : Type} [Entity α]

/-- The store holds an entity of a class at an identity, read as `x`. -/
def Stores (s : Store) (identity : List String) (x : α) : Prop :=
  ∃ n, s.backend.get (EntityStore.entityKey α identity) = .ok n ∧ Kv.decodeAs Entity.decode n.value = .ok x

/-- The store holds `x` at its own identity. -/
def Holds (s : Store) (x : α) : Prop := s.Stores (Entity.identity x) x

/-- Every node at a key of the class is the text of an entity whose identity is that key and that
satisfies `R`. -/
def Placed (α : Type) [Entity α] (R : α → Prop) (s : Store) : Prop :=
  ∀ (identity : List String) (n : Node), s.backend.get (EntityStore.entityKey α identity) = .ok n →
    ∃ x : α, n.value = Entity.toText x ∧ Entity.identity x = identity ∧ R x

/-- Every entity of the class held in `s` is held in `s'` with the same `key`. -/
def Retains {κ : Type} (key : α → κ) (s s' : Store) : Prop :=
  ∀ x : α, s.Holds x → ∃ x' : α, s'.Holds x' ∧ key x' = key x

/-- `s'` is the memory store `s`, that nobody races, with the text of `x` written at its key. -/
def Wrote (x : α) (s s' : Store) : Prop :=
  ∃ (m : MemoryStore) (p : String), s = ⟨.memory m, []⟩ ∧ (EntityStore.recordKey x).encode = .ok p ∧
    s' = ⟨.memory (m.write p (Entity.toText x)).2, []⟩

/-- The revision of a memory store; a relational store counts none. -/
def revision (s : Store) : Nat :=
  match s.backend with
  | .memory m => m.revision
  | .relational _ => 0

@[simp] theorem backend_memory (m : MemoryStore) (rivals : List Rival) (key : Identity) :
    (Store.mk (.memory m) rivals).backend.get key = m.get key := rfl

@[simp] theorem revision_memory (m : MemoryStore) (rivals : List Rival) :
    (Store.mk (.memory m) rivals).revision = m.revision := rfl

end Store

/-- The texts of the entities satisfying `R` read back as them. -/
def Readback {α : Type} [Entity α] (R : α → Prop) : Prop :=
  ∀ x : α, R x → Kv.decodeAs Entity.decode (Entity.toText x) = .ok x

namespace Store

variable {α : Type} [Entity α] {R : α → Prop} {s s' : Store}

theorem Retains.refl {κ : Type} (key : α → κ) (s : Store) : s.Retains key s :=
  fun x hx => ⟨x, hx, rfl⟩

theorem Retains.trans {κ : Type} {key : α → κ} {s₁ s₂ s₃ : Store} (h₁ : s₁.Retains key s₂)
    (h₂ : s₂.Retains key s₃) : s₁.Retains key s₃ := by
  intro x hx
  obtain ⟨x₂, hx₂, hk₂⟩ := h₁ x hx
  obtain ⟨x₃, hx₃, hk₃⟩ := h₂ x₂ hx₂
  exact ⟨x₃, hx₃, hk₃.trans hk₂⟩

/-- In a store that keeps a class placed with texts that read back, what a key gives is the
entity whose identity it is, and it is held there. -/
theorem Placed.stores (hP : s.Placed α R) (hR : Readback R) {identity : List String} {y : α}
    (h : s.Stores identity y) : Entity.identity y = identity ∧ R y ∧ s.Holds y := by
  obtain ⟨n, hn, hd⟩ := h
  obtain ⟨x, hv, hid, hx⟩ := hP identity n hn
  have hxy : x = y := by rw [hv, hR x hx] at hd; exact Except.ok.inj hd
  subst hxy
  refine ⟨hid, hx, ?_⟩
  show s.Stores _ x
  rw [hid]
  exact ⟨n, hn, hv ▸ hR x hx⟩

theorem Placed.mono {R' : α → Prop} (hP : s.Placed α R) (hR : ∀ x, R x → R' x) : s.Placed α R' := by
  intro identity n hn
  obtain ⟨x, hv, hid, hx⟩ := hP identity n hn
  exact ⟨x, hv, hid, hR x hx⟩

/-- Two entities held at one identity are one. -/
theorem Stores.unique {identity : List String} {x y : α} (hx : s.Stores identity x)
    (hy : s.Stores identity y) : x = y := by
  obtain ⟨n, hn, hdx⟩ := hx
  obtain ⟨n', hn', hdy⟩ := hy
  rw [hn] at hn'
  cases hn'
  rw [hdx] at hdy
  cases hdy
  rfl

/-! ## One write of an entity -/

/-- After a write of `x`, the node at the key of `x` is the text of `x` at the next revision,
and every other key below the root of entities reads as before. -/
theorem Wrote.get {x : α} (hw : s.Wrote x s') (cls : String) (rest : List String) :
    s'.backend.get ⟨Identity.entityRoot :: cls :: rest⟩ =
      if cls = Entity.className α ∧ rest = Entity.identity x then
        .ok ⟨min (s.revision + 1) MemoryStore.revisionBound, Entity.toText x⟩
      else s.backend.get ⟨Identity.entityRoot :: cls :: rest⟩ := by
  obtain ⟨m, p, rfl, hp, rfl⟩ := hw
  simp only [Store.revision_memory]
  split_ifs with hkey
  · obtain ⟨rfl, rfl⟩ := hkey
    exact MemoryStore.get_write_self hp m _
  · refine MemoryStore.get_write_other (fun he => hkey ?_) m _
    exact EntityStore.eq_of_encode_entityKey he hp

theorem Wrote.revision_eq {x : α} (hw : s.Wrote x s') :
    s'.revision = min (s.revision + 1) MemoryStore.revisionBound := by
  obtain ⟨m, p, rfl, -, rfl⟩ := hw
  rfl

/-- A write of an entity leaves every key of another class as it was. -/
theorem Wrote.get_other_class {x : α} (hw : s.Wrote x s') {cls : String} (hcls : cls ≠ Entity.className α)
    (rest : List String) :
    s'.backend.get ⟨Identity.entityRoot :: cls :: rest⟩ = s.backend.get ⟨Identity.entityRoot :: cls :: rest⟩ := by
  rw [hw.get, if_neg fun h => hcls h.1]

/-- A write of an entity leaves every other entity of its class as it was. -/
theorem Wrote.get_other {x : α} (hw : s.Wrote x s') {identity : List String}
    (hid : identity ≠ Entity.identity x) :
    s'.backend.get (EntityStore.entityKey α identity) = s.backend.get (EntityStore.entityKey α identity) := by
  rw [EntityStore.entityKey_eq, hw.get, if_neg fun h => hid h.2]

/-- A write of an entity leaves what the keys of another class hold. -/
theorem Wrote.stores_other {β : Type} [Entity β] {x : α} (hw : s.Wrote x s')
    (hcls : Entity.className β ≠ Entity.className α) {identity : List String} {y : β} :
    s'.Stores identity y ↔ s.Stores identity y := by
  unfold Stores
  rw [EntityStore.entityKey_eq, hw.get_other_class hcls]

/-- A written entity whose text reads back is held. -/
theorem Wrote.holds_self {x : α} (hw : s.Wrote x s') (hx : Kv.decodeAs Entity.decode (Entity.toText x) = .ok x) :
    s'.Holds x := by
  refine ⟨⟨min (s.revision + 1) MemoryStore.revisionBound, Entity.toText x⟩, ?_, hx⟩
  rw [EntityStore.entityKey_eq, hw.get, if_pos ⟨rfl, rfl⟩]

/-- Writing an entity that satisfies `R` keeps its class placed. -/
theorem Wrote.placed {x : α} (hw : s.Wrote x s') (hx : R x) (hP : s.Placed α R) : s'.Placed α R := by
  intro identity n hn
  rw [EntityStore.entityKey_eq, hw.get] at hn
  split_ifs at hn with hkey
  · cases hn
    exact ⟨x, rfl, hkey.2.symm, hx⟩
  · exact hP identity n hn

/-- Writing an entity keeps every other class placed. -/
theorem Wrote.placed_other {β : Type} [Entity β] {R' : β → Prop} {x : α} (hw : s.Wrote x s')
    (hcls : Entity.className β ≠ Entity.className α) (hP : s.Placed β R') : s'.Placed β R' := by
  intro identity n hn
  rw [EntityStore.entityKey_eq, hw.get_other_class hcls] at hn
  exact hP identity n hn

/-- Writing an entity keeps what a caller keeps of its class, when the entity held at its
identity before agrees with it on that. -/
theorem Wrote.retains {κ : Type} {key : α → κ} {x : α} (hw : s.Wrote x s')
    (hx : Kv.decodeAs Entity.decode (Entity.toText x) = .ok x)
    (hsame : ∀ y : α, s.Holds y → Entity.identity y = Entity.identity x → key y = key x) :
    s.Retains key s' := by
  intro y hy
  by_cases hid : Entity.identity y = Entity.identity x
  · exact ⟨x, hw.holds_self hx, (hsame y hy hid).symm⟩
  · obtain ⟨n, hn, hd⟩ := hy
    exact ⟨y, ⟨n, (hw.get_other hid).trans hn, hd⟩, rfl⟩

/-- Writing an entity keeps what a caller keeps of every other class. -/
theorem Wrote.retains_other {β κ : Type} [Entity β] (key : β → κ) {x : α} (hw : s.Wrote x s')
    (hcls : Entity.className β ≠ Entity.className α) : s.Retains key s' := by
  intro y hy
  obtain ⟨n, hn, hd⟩ := hy
  refine ⟨y, ⟨n, ?_, hd⟩, rfl⟩
  rw [EntityStore.entityKey_eq] at hn ⊢
  rw [hw.get_other_class hcls, hn]

end Store

/-! ## Stores checked node by node

A store written out node by node can be checked by evaluation: `MemoryStore.placesAll` goes
through the nodes at the keys of a class and asks of each that it be the text of an entity of that
identity passing a test. A class it accepts is placed, and every entity held there passes the
test. -/

namespace MemoryStore

variable {α : Type} [Entity α] {r : α → Bool} {m : MemoryStore}

/-- Whether every node at a key of the class is the text of an entity whose identity is that key
and that passes `r`. -/
def placesAll (α : Type) [Entity α] (r : α → Bool) (m : MemoryStore) : Bool :=
  m.nodes.all fun (p, n) =>
    match (p.toList.splitOn '/').map String.ofList with
    | root :: cls :: identity =>
      !(root == Identity.entityRoot && cls == Entity.className α) ||
        match Kv.decodeAs (Entity.decode (α := α)) n.value with
        | .ok x => Entity.toText x == n.value && Entity.identity x == identity && r x
        | .error _ => false
    | _ => true

/-- What `placesAll` asks of the node read at an entity's key. -/
theorem placesAll_get (h : m.placesAll α r = true) {identity : List String} {n : Node}
    (hn : m.get (EntityStore.entityKey α identity) = .ok n) :
    ∃ x : α, Kv.decodeAs Entity.decode n.value = .ok x ∧ Entity.toText x = n.value ∧
      Entity.identity x = identity ∧ r x = true := by
  obtain ⟨p, hmem, hpieces⟩ := mem_of_get_entityKey hn
  have hnode := List.all_eq_true.mp h (p, n) hmem
  simp only [hpieces, beq_self_eq_true, Bool.and_self, Bool.not_true, Bool.false_or] at hnode
  split at hnode
  · rename_i x hx
    simp only [Bool.and_eq_true, beq_iff_eq] at hnode
    exact ⟨x, hx, hnode.1.1, hnode.1.2, hnode.2⟩
  · cases hnode

theorem placed_of_placesAll (h : m.placesAll α r = true) (rivals : List Rival) :
    Store.Placed α (fun x => r x = true) ⟨.memory m, rivals⟩ := by
  intro identity n hn
  obtain ⟨x, -, htext, hid, hr⟩ := placesAll_get h hn
  exact ⟨x, htext.symm, hid, hr⟩

theorem stores_of_placesAll (h : m.placesAll α r = true) {rivals : List Rival}
    {identity : List String} {y : α} (hy : Store.Stores ⟨.memory m, rivals⟩ identity y) :
    Entity.identity y = identity ∧ r y = true := by
  obtain ⟨n, hn, hd⟩ := hy
  obtain ⟨x, hx, -, hid, hr⟩ := placesAll_get h hn
  rw [hx] at hd
  cases hd
  exact ⟨hid, hr⟩

end MemoryStore

/-! ## Loading -/

/-- A successful load reads the entity the store holds at the identity, changing nothing. -/
theorem EntityStore.load_run_ok {α : Type} [Entity α] {identity : List String} {s s' : Store} {r : Record α}
    (h : (EntityStore.load α identity).run s = (.ok r, s')) : s' = s ∧ s.Stores identity r.data := by
  have hq := EntityStore.load_quiet α identity s
  rw [h] at hq
  refine ⟨hq, ?_⟩
  unfold EntityStore.load at h
  simp only [liftKv, ExceptT.adapt, ExceptT.run, ExceptT.mk, bind, ExceptT.bind, ExceptT.bindCont,
    StateT.bind, Functor.map, StateT.map] at h
  rw [show Kv.getAs Entity.decode (EntityStore.entityKey α identity) s = _ from Kv.getAs_run _ _ s] at h
  rcases hget : s.backend.get (EntityStore.entityKey α identity) with err | n
  · rw [hget] at h
    simp [bind, Except.bind, Except.mapError, pure, StateT.pure] at h
    cases h
  · rw [hget] at h
    rcases hdec : Kv.decodeAs (Entity.decode (α := α)) n.value with err | x
    · simp [bind, Except.bind, hdec, Except.mapError, pure, StateT.pure] at h
      cases h
    · simp [bind, Except.bind, hdec, Except.mapError, pure, StateT.pure, Except.pure, ExceptT.pure,
        ExceptT.mk] at h
      cases h
      exact ⟨n, hget, hdec⟩

/-! ## Saving on the memory store -/

namespace Kv

variable {key : Identity} {path value : String} {m : MemoryStore} {rivals : List Rival}

theorem createOnly_absent (hkey : key.encode = .ok path) (hnode : m.find? path = none) :
    createOnly key value ⟨.memory m, rivals⟩ =
      (.ok (m.write path value).1, ⟨.memory (m.write path value).2, rivals⟩) := by
  simp [createOnly, write, Backend.createOnly, MemoryStore.createOnly, hkey, hnode,
    Backend.onMemory, bind, Except.bind]

theorem createOnly_present {n : Node} (hkey : key.encode = .ok path) (hnode : m.find? path = some n) :
    createOnly key value ⟨.memory m, rivals⟩ = (.error (.alreadyExists path), ⟨.memory m, rivals⟩) := by
  simp [createOnly, write, Backend.createOnly, MemoryStore.createOnly, hkey, hnode,
    Backend.onMemory, bind, Except.bind]

theorem createOnly_unencoded {err : KvError} (hkey : key.encode = .error err) :
    createOnly key value ⟨.memory m, rivals⟩ = (.error err, ⟨.memory m, rivals⟩) := by
  simp [createOnly, write, Backend.createOnly, MemoryStore.createOnly, hkey, Backend.onMemory,
    bind, Except.bind]

theorem updateOnly_unencoded {err : KvError} {e : Nat} (hkey : key.encode = .error err) :
    updateOnly key value (some e) ⟨.memory m, []⟩ = (.error err, ⟨.memory m, []⟩) := by
  simp [updateOnly, hkey, write, Backend.updateOnly, MemoryStore.updateOnly, Backend.onMemory,
    bind, Except.bind]

end Kv

namespace EntityStore

variable {α : Type} [Entity α] {m : MemoryStore}

/-- A save on the memory store that nobody races either fails with nothing changed, or writes
the entity; a creation writes only a key that held nothing. -/
theorem save_memory {r : Record α} (hpre : Entity.presave r.data = .ok r.data) :
    (∃ err, (save r).run ⟨.memory m, []⟩ = (.error err, ⟨.memory m, []⟩)) ∨
      ∃ (v : Nat) (s' : Store), (save r).run ⟨.memory m, []⟩ = (.ok ⟨r.data, some v⟩, s') ∧
        Store.Wrote r.data ⟨.memory m, []⟩ s' ∧
        (r.version = none → ∀ y : α, ¬ Store.Stores ⟨.memory m, []⟩ (Entity.identity r.data) y) := by
  obtain ⟨x, version⟩ := r
  simp only at hpre ⊢
  rcases hk : (recordKey x).encode with err | p
  · -- a key without a path fails both ways
    left
    cases version <;>
      simp [save, liftDomain, hpre, liftKv, Kv.createOnly_unencoded hk, Kv.updateOnly_unencoded hk,
        ExceptT.adapt, ExceptT.run, bind, ExceptT.bind, ExceptT.mk, ExceptT.bindCont, pure,
        ExceptT.pure, StateT.bind, StateT.pure, Functor.map, StateT.map, Except.mapError]
    all_goals exact ⟨_, rfl⟩
  rcases hf : m.find? p with _ | n
  · cases version with
    | none =>
      right
      refine ⟨(m.write p (Entity.toText x)).1, _, ?_, ⟨m, p, rfl, hk, rfl⟩, fun _ y hy => ?_⟩
      · simp [save, liftDomain, hpre, liftKv, Kv.createOnly_absent hk hf, ExceptT.adapt,
          ExceptT.run, bind, ExceptT.bind, ExceptT.mk, ExceptT.bindCont, pure, ExceptT.pure,
          StateT.bind, StateT.pure, Functor.map, StateT.map, Except.mapError]
      · obtain ⟨n, hn, -⟩ := hy
        have hnone : m.get (recordKey x) = .error (.notFound p) := MemoryStore.get_of_find?_none hk hf
        exact absurd (hn.symm.trans hnone) (by simp)
    | some e =>
      left
      simp [save, liftDomain, hpre, liftKv, Kv.updateOnly_absent hk hf, ExceptT.adapt,
        ExceptT.run, bind, ExceptT.bind, ExceptT.mk, ExceptT.bindCont, pure, ExceptT.pure,
        StateT.bind, StateT.pure, Functor.map, StateT.map, Except.mapError]
      exact ⟨_, rfl⟩
  · cases version with
    | none =>
      left
      simp [save, liftDomain, hpre, liftKv, Kv.createOnly_present hk hf, ExceptT.adapt,
        ExceptT.run, bind, ExceptT.bind, ExceptT.mk, ExceptT.bindCont, pure, ExceptT.pure,
        StateT.bind, StateT.pure, Functor.map, StateT.map, Except.mapError]
      exact ⟨_, rfl⟩
    | some e =>
      by_cases hn : n.version = e
      · right
        refine ⟨(m.write p (Entity.toText x)).1, _, ?_, ⟨m, p, rfl, hk, rfl⟩, fun h => by cases h⟩
        simp [save, liftDomain, hpre, liftKv, Kv.updateOnly_current hk hf hn, ExceptT.adapt,
          ExceptT.run, bind, ExceptT.bind, ExceptT.mk, ExceptT.bindCont, pure, ExceptT.pure,
          StateT.bind, StateT.pure, Functor.map, StateT.map, Except.mapError]
      · left
        simp [save, liftDomain, hpre, liftKv, Kv.updateOnly_stale hk hf hn, ExceptT.adapt,
          ExceptT.run, bind, ExceptT.bind, ExceptT.mk, ExceptT.bindCont, pure, ExceptT.pure,
          StateT.bind, StateT.pure, Functor.map, StateT.map, Except.mapError]
        exact ⟨_, rfl⟩

/-- The attempts of an atomic update on the memory store that nobody races either end without a
success and with nothing changed, or succeed by writing the change of the entity they read. -/
theorem attempts_memory (hpre : ∀ x : α, Entity.presave x = .ok x) {β : Type} {identity : List String}
    {mutate : α → Except DomainError (α × β)} {fuel k calls calls' : Nat}
    {o : Option (Except DomainError (Record α × β))} {s' : Store}
    (h : attempts identity (fun _ x => liftDomain (mutate x)) fuel k calls ⟨.memory m, []⟩ = ((o, calls'), s')) :
    (s' = ⟨.memory m, []⟩ ∧ ∀ out, o ≠ some (.ok out)) ∨
      ∃ (y x' : α) (b : β) (v : Nat), o = some (.ok (⟨x', some v⟩, b)) ∧
        Store.Stores ⟨.memory m, []⟩ identity y ∧ mutate y = .ok (x', b) ∧ Store.Wrote x' ⟨.memory m, []⟩ s' := by
  induction fuel generalizing k calls with
  | zero =>
    cases h
    exact Or.inl ⟨rfl, fun _ h => by cases h⟩
  | succ fuel ih =>
    unfold attempts at h
    rcases hload : (load α identity).run ⟨.memory m, []⟩ with ⟨_ | rec, s₁⟩
    · have hs₁ : s₁ = ⟨.memory m, []⟩ := by rw [← load_quiet α identity ⟨.memory m, []⟩, hload]
      rw [hload] at h
      cases h
      exact Or.inl ⟨hs₁, fun _ h => by cases h⟩
    · obtain ⟨rfl, hstored⟩ := load_run_ok hload
      rw [hload] at h
      simp only at h
      rw [show (liftDomain (mutate rec.data)).run ⟨.memory m, []⟩ = (mutate rec.data, ⟨.memory m, []⟩)
        from rfl] at h
      rcases hmut : mutate rec.data with _ | ⟨x', b⟩
      · rw [hmut] at h
        cases h
        exact Or.inl ⟨rfl, fun _ h => by cases h⟩
      · rw [hmut] at h
        simp only at h
        rcases save_memory (m := m) (r := ⟨x', rec.version⟩) (hpre x') with
          ⟨err, hsave⟩ | ⟨v, s₂, hsave, hwrote, -⟩
        · rw [hsave] at h
          simp only at h
          split at h
          · exact ih h
          · cases h
            exact Or.inl ⟨rfl, fun _ h => by cases h⟩
        · rw [hsave] at h
          cases h
          exact Or.inr ⟨rec.data, x', b, v, rfl, hstored, hmut, hwrote⟩

/-- An atomic update ends as its attempts do, or as exhausted when none of them ended it. -/
theorem atomicUpdate_run {β : Type} (maxAttempts : Nat) (identity : List String)
    (mutate : α → Except DomainError (α × β)) (s : Store) :
    (atomicUpdate maxAttempts identity mutate).run s =
      match attempts identity (fun _ x => liftDomain (mutate x)) (max maxAttempts 1) 1 0 s with
      | ((some r, _), s') => (r, s')
      | ((none, _), s') =>
        (.error (.atomicUpdateExhausted (Entity.className α ++ "/" ++ "/".intercalate identity)
          (max maxAttempts 1)), s') := by
  simp only [atomicUpdate, atomicUpdateCounting, ExceptT.run, bind, StateT.bind, pure]
  rcases attempts identity (fun _ x => liftDomain (mutate x)) (max maxAttempts 1) 1 0 s with
    ⟨⟨_ | r, calls⟩, s'⟩ <;> rfl

/-- A failed atomic update on the memory store that nobody races changes nothing. -/
theorem atomicUpdate_memory_error (hpre : ∀ x : α, Entity.presave x = .ok x) {β : Type}
    {identity : List String} {mutate : α → Except DomainError (α × β)} {maxAttempts : Nat}
    {err : DomainError} {s' : Store}
    (h : (atomicUpdate maxAttempts identity mutate).run ⟨.memory m, []⟩ = (.error err, s')) :
    s' = ⟨.memory m, []⟩ := by
  rw [atomicUpdate_run] at h
  rcases hA : attempts identity (fun _ x => liftDomain (mutate x)) (max maxAttempts 1) 1 0 ⟨.memory m, []⟩ with
    ⟨⟨o, calls⟩, s₁⟩
  rw [hA] at h
  rcases attempts_memory hpre hA with ⟨hs, -⟩ | ⟨y, x', b, v, rfl, -, -, -⟩
  · cases o <;> (simp only at h; cases h; exact hs)
  · cases h

/-- A successful atomic update on the memory store that nobody races wrote the change of the
entity it read. -/
theorem atomicUpdate_memory_ok (hpre : ∀ x : α, Entity.presave x = .ok x) {β : Type}
    {identity : List String} {mutate : α → Except DomainError (α × β)} {maxAttempts : Nat}
    {r : Record α} {b : β} {s' : Store}
    (h : (atomicUpdate maxAttempts identity mutate).run ⟨.memory m, []⟩ = (.ok (r, b), s')) :
    ∃ y : α, Store.Stores ⟨.memory m, []⟩ identity y ∧ mutate y = .ok (r.data, b) ∧
      Store.Wrote r.data ⟨.memory m, []⟩ s' := by
  rw [atomicUpdate_run] at h
  rcases hA : attempts identity (fun _ x => liftDomain (mutate x)) (max maxAttempts 1) 1 0 ⟨.memory m, []⟩ with
    ⟨⟨o, calls⟩, s₁⟩
  rw [hA] at h
  rcases attempts_memory hpre hA with ⟨-, hfail⟩ | ⟨y, x', b', v, rfl, hy, hmut, hwrote⟩
  · cases o with
    | none => cases h
    | some res =>
      simp only at h
      cases h
      exact absurd rfl (hfail (r, b))
  · simp only at h
    cases h
    exact ⟨y, hy, hmut, hwrote⟩

end EntityStore

end MapReduce
