import MapReduce.Proofs.Kv.Versions
import MapReduce.Proofs.Domain.AtomicUpdate
import MapReduce.Proofs.Domain.Codec
import Mathlib

/-! # Atomic updates are linearizable

`EntityStore.atomicUpdate` reads an entity, runs a change on it and saves the result over the
version it read, starting again when the save meets another version. Any number of callers, each
with its entity and its change, share one memory store; their reads and compare-and-swap saves
interleave with anybody else's operations on the store, one `Move` at a time (`Race`). Each caller
counts the runs of its change and the saves of it that met another version.

Between any two operations (`Race.Inv`) the store's versions are a clock and every caller stands
where `Race.Holds` allows: one about to save has read, at a version no later than the revision, the
value its change ran on, and a node that still carries that version still holds that value. A save
therefore goes through only over the value read, and then (`Race.SavedOver`) writes the check of
the change of what the store held right before, at the next revision. Along any schedule with room
in the revision counter for each of its operations the callers are linearizable
(`atomicUpdate_linearizable`): each runs its change at most once per attempt, each time on the
entity as the store held it; it finishes with a saved entity exactly when one of its operations was
such a save; it runs out of attempts only when every save met another version; and one that failed
wrote nothing. At the ceiling of the counter versions repeat, and a write between a caller's read
and its save is lost (`atomicUpdate_not_linearizable_at_revision_ceiling`). -/

namespace MapReduce

namespace Kv

variable {m : MemoryStore}

/-- On a memory store that nobody races, a conditional write is the store's own. -/
theorem updateOnly_memory (key : Identity) (value : String) (expected : Option Nat) :
    updateOnly key value expected ⟨.memory m, []⟩ =
      match m.updateOnly key value expected with
      | .ok (v, m') => (.ok v, ⟨.memory m', []⟩)
      | .error err => (.error err, ⟨.memory m, []⟩) := by
  have hrace : ∀ path, Store.race ⟨.memory m, []⟩ key path = (.ok (), ⟨.memory m, []⟩) :=
    fun _ => rfl
  have hwrite : write (·.updateOnly key value expected) ⟨.memory m, []⟩ =
      match m.updateOnly key value expected with
      | .ok (v, m') => (.ok v, ⟨.memory m', []⟩)
      | .error err => (.error err, ⟨.memory m, []⟩) := by
    rcases h : m.updateOnly key value expected with err | ⟨v, m'⟩ <;>
      simp [write, Backend.updateOnly, Backend.onMemory, h]
  unfold updateOnly
  rcases expected with _ | e <;> rcases hk : key.encode with err | path <;> simp [hrace, hwrite]

/-- On a memory store, a write of a new key is the store's own. -/
theorem createOnly_memory (key : Identity) (value : String) (rivals : List Rival) :
    (createOnly key value).run ⟨.memory m, rivals⟩ =
      match m.createOnly key value with
      | .ok (v, m') => (.ok v, ⟨.memory m', rivals⟩)
      | .error err => (.error err, ⟨.memory m, rivals⟩) := by
  rcases h : m.createOnly key value with err | ⟨v, m'⟩ <;>
    simp [createOnly, write, Backend.createOnly, Backend.onMemory, h, ExceptT.run]

end Kv

namespace MemoryStore

variable {m : MemoryStore} {v : Nat} {p t : String}

/-- With room in the revision counter, a node that carries a version no later than the revision
after a write was there before it. -/
theorem find?_write_of_le (hroom : m.revision < revisionBound) (hv : v ≤ m.revision)
    {path value : String} (h : (m.write path value).2.find? p = some ⟨v, t⟩) :
    m.find? p = some ⟨v, t⟩ := by
  rw [find?_write] at h
  split at h
  · simp only [Option.some.injEq, Node.mk.injEq] at h
    omega
  · exact h

/-- With room in the revision counter, a node that carries a version no later than the revision
after an operation was there before it. -/
theorem Op.find?_next_of_le {op : Op} (hroom : m.revision < revisionBound) (hv : v ≤ m.revision)
    (h : (op.next m).find? p = some ⟨v, t⟩) : m.find? p = some ⟨v, t⟩ := by
  unfold Op.next at h
  rcases ha : op.apply m with err | m'
  · simpa [ha] using h
  · simp only [ha] at h
    obtain ⟨⟨q, hq⟩, hrev, hsame⟩ := Op.step_apply ha
    cases hb : op.bumps
    · rwa [hsame hb] at h
    · rw [hb, if_pos rfl] at hrev
      rcases hq p with hkeep | hnone | ⟨-, w, hnew⟩
      · rwa [hkeep] at h
      · simp [hnone] at h
      · rw [hnew] at h
        simp only [Option.some.injEq, Node.mk.injEq] at h
        omega

theorem Op.increments_le_one (op : Op) (m : MemoryStore) : op.increments m ≤ 1 := by
  unfold Op.increments
  split
  · split <;> omega
  · omega

theorem Op.next_set {key : Identity} {path : String} (hk : key.encode = .ok path) (value : String) :
    (Op.set key value).next m = (m.write path value).2 := by
  simp [Op.next, Op.apply, MemoryStore.set, hk, Except.map, bind, Except.bind]

/-- At the ceiling of the revision counter a write keeps the revision, and the node it writes
carries it as its version. -/
theorem write_at_ceiling (hm : m.revision = revisionBound) (path value : String) :
    (m.write path value).1 = revisionBound ∧ (m.write path value).2.revision = revisionBound ∧
      (m.write path value).2.find? path = some ⟨revisionBound, value⟩ := by
  simp [find?_write, hm]

end MemoryStore

namespace EntityStore

variable {α β : Type} [Entity α] {m : MemoryStore}

theorem load_run_store (identity : List String) (s : Store) : ((load α identity).run s).2 = s := by
  rcases hget : s.backend.get (entityKey α identity) with e | n
  · simp [load, liftKv, Kv.getAs, Kv.get, Kv.read, ExceptT.adapt, ExceptT.run, bind, ExceptT.bind,
      ExceptT.mk, ExceptT.bindCont, pure, StateT.bind, Functor.map, StateT.map, hget, StateT.pure,
      Except.mapError]
  · rcases hdec : Kv.decodeAs (Entity.decode (α := α)) n.value with e | x <;>
      simp [load, liftKv, Kv.getAs, Kv.get, Kv.read, ExceptT.adapt, ExceptT.run, bind,
        ExceptT.bind, ExceptT.mk, ExceptT.bindCont, pure, ExceptT.pure, StateT.bind, Functor.map,
        StateT.map, hget, StateT.pure, Kv.liftExcept, hdec, Except.mapError]

/-- A read of an entity from a memory store that succeeds gives the entity its node reads as, at
the node's version. -/
theorem load_run_memory {identity : List String} {rivals : List Rival} {r : Record α} {s : Store}
    (h : (load α identity).run ⟨.memory m, rivals⟩ = (.ok r, s)) :
    ∃ path n, (entityKey α identity).encode = .ok path ∧ m.find? path = some n ∧
      Kv.decodeAs Entity.decode n.value = .ok r.data ∧ r.version = some n.version := by
  rcases hk : (entityKey α identity).encode with e | path
  · simp [load, liftKv, Kv.getAs, Kv.get, Kv.read, ExceptT.adapt, ExceptT.run, bind, ExceptT.bind,
      ExceptT.mk, ExceptT.bindCont, pure, StateT.bind, Functor.map, StateT.map, StateT.pure,
      Backend.get, MemoryStore.get, hk, Except.bind, Except.mapError] at h
    cases h
  · rcases hn : m.find? path with _ | n
    · simp [load, liftKv, Kv.getAs, Kv.get, Kv.read, ExceptT.adapt, ExceptT.run, bind,
        ExceptT.bind, ExceptT.mk, ExceptT.bindCont, pure, StateT.bind, Functor.map, StateT.map,
        StateT.pure, Backend.get, MemoryStore.get, hk, Except.bind, hn, Except.mapError] at h
      cases h
    · rcases hdec : Kv.decodeAs (Entity.decode (α := α)) n.value with e | x
      · simp [load, liftKv, Kv.getAs, Kv.get, Kv.read, ExceptT.adapt, ExceptT.run, bind,
          ExceptT.bind, ExceptT.mk, ExceptT.bindCont, pure, StateT.bind, Functor.map, StateT.map,
          StateT.pure, Backend.get, MemoryStore.get, hk, Except.bind, hn, Kv.liftExcept, hdec,
          Except.mapError] at h
        cases h
      · have hload : (load α identity).run ⟨.memory m, rivals⟩ = _ := load_memory hk hn hdec
        simp only [ExceptT.run] at hload h
        rw [hload] at h
        cases h
        exact ⟨path, n, rfl, hn, hdec, rfl⟩

theorem save_run_memory (r : Record α) :
    (save r).run ⟨.memory m, []⟩ =
      match Entity.presave r.data with
      | .error e => (.error e, ⟨.memory m, []⟩)
      | .ok d =>
        match (match r.version with
            | none => m.createOnly (recordKey d) (Entity.toText d)
            | some v => m.updateOnly (recordKey d) (Entity.toText d) (some v)) with
        | .ok (v, m') => (.ok ⟨d, some v⟩, ⟨.memory m', []⟩)
        | .error err => (.error (.kv err), ⟨.memory m, []⟩) := by
  rcases hpre : Entity.presave r.data with e | d
  · simp [save, liftDomain, hpre, ExceptT.run, bind, ExceptT.bind, ExceptT.mk, ExceptT.bindCont,
      StateT.bind, pure, StateT.pure]
  · rcases r with ⟨x, _ | v⟩
    · have hc := Kv.createOnly_memory (m := m) (recordKey d) (Entity.toText d) []
      simp only [ExceptT.run] at hc
      rcases h : m.createOnly (recordKey d) (Entity.toText d) with err | ⟨v, m'⟩ <;>
        simp_all [save, liftDomain, liftKv, ExceptT.adapt, ExceptT.run, bind, ExceptT.bind,
          ExceptT.mk, ExceptT.bindCont, StateT.bind, pure, ExceptT.pure, StateT.pure, Functor.map,
          StateT.map, Except.mapError]
    · have hu := Kv.updateOnly_memory (m := m) (recordKey d) (Entity.toText d) (some v)
      rcases h : m.updateOnly (recordKey d) (Entity.toText d) (some v) with err | ⟨v', m'⟩ <;>
        simp_all [save, liftDomain, liftKv, ExceptT.adapt, ExceptT.run, bind, ExceptT.bind,
          ExceptT.mk, ExceptT.bindCont, StateT.bind, pure, ExceptT.pure, StateT.pure, Functor.map,
          StateT.map, Except.mapError]

/-- A save over a version on a memory store either fails, changing nothing, or goes through: the
check made `d` of the record, the node of `d`'s key held that version, and it now holds `d` at the
next revision. -/
theorem save_run_some {x : α} {v : Nat} :
    (∃ e, (save ⟨x, some v⟩).run ⟨.memory m, []⟩ = (.error e, ⟨.memory m, []⟩)) ∨
      ∃ d path n, Entity.presave x = .ok d ∧ (recordKey d).encode = .ok path ∧
        m.find? path = some n ∧ n.version = v ∧
        (save ⟨x, some v⟩).run ⟨.memory m, []⟩ = (.ok ⟨d, some (m.write path (Entity.toText d)).1⟩,
          ⟨.memory (m.write path (Entity.toText d)).2, []⟩) := by
  rw [save_run_memory]
  rcases hpre : Entity.presave x with e | d
  · exact .inl ⟨e, rfl⟩
  · simp only
    rcases hu : m.updateOnly (recordKey d) (Entity.toText d) (some v) with err | ⟨v', m'⟩
    · exact .inl ⟨_, rfl⟩
    · obtain ⟨path, hk, hr⟩ := MemoryStore.updateOnly_ok hu
      obtain ⟨path', n, hk', hn, hv⟩ := MemoryStore.updateOnly_some_ok_iff.mp ⟨_, hu⟩
      rw [hk] at hk'
      cases hk'
      cases hr
      exact .inr ⟨d, path, n, rfl, hk, hn, hv, rfl⟩

/-! ## What a caller has read -/

/-- A node carrying version `v` in `m`, if there is one, is the node of the entity `identity` and
reads as `y`. -/
def ReadAt (α : Type) [Entity α] (identity : List String) (m : MemoryStore) (v : Nat) (y : α) : Prop :=
  ∀ p t, m.find? p = some ⟨v, t⟩ →
    (entityKey α identity).encode = .ok p ∧ Kv.decodeAs Entity.decode t = .ok y

/-- On a store whose versions are a clock, what a read finds is read at its version. -/
theorem ReadAt.of_fresh {identity : List String} {path : String} {n : Node} {y : α}
    (hf : MemoryStore.Fresh m) (hk : (entityKey α identity).encode = .ok path)
    (hn : m.find? path = some n) (hy : Kv.decodeAs Entity.decode n.value = .ok y) :
    ReadAt α identity m n.version y := by
  intro p t hp
  have hpath : p = path := hf.version_inj p path _ n hp hn rfl
  subst hpath
  have ht : t = n.value := by
    rw [hn, Option.some.injEq] at hp
    rw [hp]
  exact ⟨hk, ht ▸ hy⟩

theorem ReadAt.mono {identity : List String} {m' : MemoryStore} {v : Nat} {y : α}
    (h : ReadAt α identity m v y) (hold : ∀ p t, m'.find? p = some ⟨v, t⟩ → m.find? p = some ⟨v, t⟩) :
    ReadAt α identity m' v y :=
  fun p t hp => h p t (hold p t hp)

/-! ## Callers racing on one store -/

/-- The next operation on a store shared by `n` callers of atomic updates: one of a caller's, or
one of anybody else's. -/
inductive Move (n : Nat) where
  | caller (i : Fin n)
  | other (op : MemoryStore.Op)

/-- Callers of atomic updates of one class of entities, each between two operations on a shared
store; with, for each, how many times it has run its change and how many of its saves met another
version. -/
structure Race (n : Nat) (α β : Type) where
  callers : Fin n → Phase α β
  calls : Fin n → Nat
  conflicts : Fin n → Nat
  store : Store

namespace Phase

/-- Whether the next store operation of a caller runs its change: a read that finds the entity. -/
def runsChange (identity : List String) : Phase α β → Store → Bool
  | .reading (_ + 1), s => ((load α identity).run s).1.isOk
  | _, _ => false

/-- Whether the next store operation of a caller is a save that meets another version. -/
def meetsConflict : Phase α β → Store → Bool
  | .saving _ version x _, s =>
    match ((save ⟨x, version⟩).run s).1 with
    | .error e => e.isPreconditionFailed
    | .ok _ => false
  | _, _ => false

end Phase

namespace Race

variable {n : Nat} (A : Nat) (ids : Fin n → List String) (fs : Fin n → α → Except DomainError (α × β))

/-- One operation on the store: the next one of a caller, which counts a run of its change and a
save that met another version; or somebody else's. -/
def step (c : Race n α β) : Move n → Race n α β
  | .caller i =>
    let next := (c.callers i).step A (ids i) (fs i) c.store
    { callers := Function.update c.callers i next.1
      calls := Function.update c.calls i
        (c.calls i + if (c.callers i).runsChange (ids i) c.store then 1 else 0)
      conflicts := Function.update c.conflicts i
        (c.conflicts i + if (c.callers i).meetsConflict c.store then 1 else 0)
      store := next.2 }
  | .other op => { c with store := (op.program.run c.store).2 }

/-- The operations in the order a schedule gives. -/
def run (sched : List (Move n)) (c : Race n α β) : Race n α β := sched.foldl (step A ids fs) c

/-- Every caller about to read, with `A` attempts, on a store. -/
def start (s : Store) : Race n α β := ⟨fun _ => .reading A, fun _ => 0, fun _ => 0, s⟩

/-- The race after the first `k` operations of a schedule, from every caller about to read `s`. -/
def after (s : Store) (sched : List (Move n)) (k : Nat) : Race n α β :=
  run A ids fs (sched.take k) (start A s)

@[simp] theorem run_nil (c : Race n α β) : run A ids fs [] c = c := rfl

@[simp] theorem run_cons (a : Move n) (sched : List (Move n)) (c : Race n α β) :
    run A ids fs (a :: sched) c = run A ids fs sched (step A ids fs c a) := rfl

theorem after_succ {s : Store} {sched : List (Move n)} {k : Nat} (hk : k < sched.length) :
    after A ids fs s sched (k + 1) = step A ids fs (after A ids fs s sched k) sched[k] := by
  unfold after run
  rw [List.take_add_one, List.getElem?_eq_getElem hk, Option.toList_some, List.foldl_append]
  rfl

/-! ## What each caller may hold -/

/-- Where a caller with change `f` on the entity `identity` may stand while the store holds `m`,
having run its change `calls` times and met another version `conflicts` times. A caller reading
or saving is within its `A` attempts; one about to save has read `y` at version `v`, no later than
the revision, and its change made `x` of it, and a node that carries `v` is the one it read. One
that saved ran its change once more than it met another version; one that failed either ran out of
attempts after `A` of them, or failed in an attempt before that. -/
def Holds (A : Nat) (identity : List String) (f : α → Except DomainError (α × β)) (m : MemoryStore)
    (calls conflicts : Nat) : Phase α β → Prop
  | .reading l => calls = conflicts ∧ conflicts + l = A
  | .saving l version x b => calls = conflicts + 1 ∧ conflicts + l + 1 = A ∧
      ∃ v y, version = some v ∧ v ≤ m.revision ∧ f y = .ok (x, b) ∧ ReadAt α identity m v y
  | .done (.ok _) => calls = conflicts + 1 ∧ conflicts < A
  | .done (.error e) => (conflicts = A ∧ calls = A ∧ e = Phase.exhausted α identity A) ∨
      (conflicts < A ∧ conflicts ≤ calls ∧ calls ≤ conflicts + 1)

variable {A} in
/-- What a caller holds stays true over a later store whose revision has not gone back and whose
nodes of a version up to the earlier revision were there before. -/
theorem Holds.mono {identity : List String} {f : α → Except DomainError (α × β)} {m' : MemoryStore}
    {calls conflicts : Nat} {ph : Phase α β} (h : Holds A identity f m calls conflicts ph)
    (hrev : m.revision ≤ m'.revision)
    (hold : ∀ v, v ≤ m.revision → ∀ p t, m'.find? p = some ⟨v, t⟩ → m.find? p = some ⟨v, t⟩) :
    Holds A identity f m' calls conflicts ph := by
  cases ph with
  | saving l version x b =>
    obtain ⟨hc, hl, v, y, hv, hle, hf, hread⟩ := h
    exact ⟨hc, hl, v, y, hv, by omega, hf, hread.mono (hold v hle)⟩
  | reading l => exact h
  | done o => cases o <;> exact h

/-- A caller runs its change at most once per attempt, and at most `A` times. -/
theorem Holds.counts {identity : List String} {f : α → Except DomainError (α × β)} {calls conflicts : Nat}
    {ph : Phase α β} (h : Holds A identity f m calls conflicts ph) :
    conflicts ≤ calls ∧ calls ≤ conflicts + 1 ∧ calls ≤ A := by
  cases ph with
  | reading l =>
    obtain ⟨hc, hl⟩ := h
    omega
  | saving l version x b =>
    obtain ⟨hc, hl, -⟩ := h
    omega
  | done o =>
    cases o with
    | ok r =>
      obtain ⟨hc, hl⟩ := h
      omega
    | error e => rcases h with ⟨hk, hc, -⟩ | ⟨hk, hc, hc'⟩ <;> omega

/-- A caller whose `A` saves all met another version is out of attempts, and stops with that
failure at its next operation if it has not yet; a caller that failed with fewer conflicts failed
in an attempt of its own. -/
theorem Holds.exhausted {identity : List String} {f : α → Except DomainError (α × β)}
    {calls conflicts : Nat} {ph : Phase α β} (h : Holds A identity f m calls conflicts ph) :
    (conflicts = A → ph = .reading 0 ∨ ph = .done (.error (Phase.exhausted α identity A))) ∧
      ∀ e, ph = .done (.error e) →
        (conflicts = A ∧ e = Phase.exhausted α identity A) ∨ conflicts < A := by
  cases ph with
  | reading l =>
    obtain ⟨-, hl⟩ := h
    exact ⟨fun hA => .inl (by congr; omega), fun e he => by cases he⟩
  | saving l version x b =>
    obtain ⟨-, hl, -⟩ := h
    exact ⟨fun hA => by omega, fun e he => by cases he⟩
  | done o =>
    cases o with
    | ok r =>
      obtain ⟨-, hl⟩ := h
      exact ⟨fun hA => by omega, fun e he => by cases he⟩
    | error e =>
      rcases h with ⟨hk, -, rfl⟩ | ⟨hk, -⟩
      · exact ⟨fun _ => .inr rfl, fun e' he => by cases he; exact .inl ⟨hk, rfl⟩⟩
      · exact ⟨fun hA => by omega, fun _ _ => .inr hk⟩

/-- What holds between any two operations: the store is the memory store `m`, nobody races it, its
versions are a clock, and each caller stands where it may. -/
structure Inv (c : Race n α β) (m : MemoryStore) : Prop where
  store : c.store = ⟨.memory m, []⟩
  fresh : MemoryStore.Fresh m
  callers : ∀ i, Holds A (ids i) (fs i) m (c.calls i) (c.conflicts i) (c.callers i)

/-- The save of a caller with change `f` on the entity `identity` went through in the operation
from `m` to `m'`: the entity's node held the value `y` the caller had read, its change made `x` of
`y`, the check made `d` of `x`, and the operation rewrote the node with `d` at the next revision;
the caller finished with `d` at that version. -/
def SavedOver (identity : List String) (f : α → Except DomainError (α × β)) (m m' : MemoryStore)
    (ph : Phase α β) : Prop :=
  ∃ path n y x b d, (entityKey α identity).encode = .ok path ∧ m.find? path = some n ∧
    Kv.decodeAs Entity.decode n.value = .ok y ∧ f y = .ok (x, b) ∧ Entity.presave x = .ok d ∧
    m' = (m.write path (Entity.toText d)).2 ∧ ph = .done (.ok (⟨d, some m'.revision⟩, b))

namespace SavedOver

variable {identity : List String} {f : α → Except DomainError (α × β)} {m₁ m₂ : MemoryStore}
  {ph ph' : Phase α β}

theorem done (h : SavedOver identity f m₁ m₂ ph) : ∃ o, ph = .done (.ok o) := by
  obtain ⟨-, -, -, -, -, d, -, -, -, -, -, -, rfl⟩ := h
  exact ⟨_, rfl⟩

/-- The outcome of a save that went through is fixed by the stores before and after it. -/
theorem unique (h : SavedOver identity f m₁ m₂ ph) (h' : SavedOver identity f m₁ m₂ ph') : ph = ph' := by
  obtain ⟨path, n, y, x, b, d, hk, hn, hy, hf, hd, -, rfl⟩ := h
  obtain ⟨path', n', y', x', b', d', hk', hn', hy', hf', hd', -, rfl⟩ := h'
  rw [hk, Except.ok.injEq] at hk'
  subst hk'
  rw [hn, Option.some.injEq] at hn'
  subst hn'
  rw [hy, Except.ok.injEq] at hy'
  subst hy'
  rw [hf, Except.ok.injEq, Prod.mk.injEq] at hf'
  obtain ⟨rfl, rfl⟩ := hf'
  rw [hd, Except.ok.injEq] at hd'
  rw [hd']

theorem revision (h : SavedOver identity f m₁ m₂ ph) (hroom : m₁.revision < MemoryStore.revisionBound) :
    m₂.revision = m₁.revision + 1 := by
  obtain ⟨path, -, -, -, -, d, -, -, -, -, -, rfl, -⟩ := h
  rw [MemoryStore.revision_write]
  omega

end SavedOver

/-! ## One operation -/

section Step

variable {A ids fs} {c : Race n α β} {m : MemoryStore} {i : Fin n}

/-- The race after an operation of caller `i` that took it to `ph`, ran its change `dc` more times
and met another version `dk` more times, leaving the store `s`. -/
def moved (c : Race n α β) (i : Fin n) (ph : Phase α β) (dc dk : Nat) (s : Store) : Race n α β :=
  { callers := Function.update c.callers i ph
    calls := Function.update c.calls i (c.calls i + dc)
    conflicts := Function.update c.conflicts i (c.conflicts i + dk)
    store := s }

theorem step_caller_of_done {o : Except DomainError (Record α × β)} (h : c.callers i = .done o) :
    step A ids fs c (.caller i) = c := by
  simp only [step, h, Phase.step_done, Phase.runsChange, Phase.meetsConflict]
  rw [← h]
  simp

theorem step_caller_eq (c : Race n α β) (i : Fin n) :
    step A ids fs c (.caller i) =
      moved c i ((c.callers i).step A (ids i) (fs i) c.store).1
        (if (c.callers i).runsChange (ids i) c.store then 1 else 0)
        (if (c.callers i).meetsConflict c.store then 1 else 0)
        ((c.callers i).step A (ids i) (fs i) c.store).2 := rfl

/-- An operation of caller `i` that leaves the store as it was keeps the invariant when the place
it moves to holds. -/
theorem Inv.moved_same (hI : Inv A ids fs c m) {ph : Phase α β} {dc dk : Nat}
    (h : Holds A (ids i) (fs i) m (c.calls i + dc) (c.conflicts i + dk) ph) :
    Inv A ids fs (moved c i ph dc dk c.store) m := by
  refine ⟨hI.store, hI.fresh, fun j => ?_⟩
  by_cases hj : j = i
  · subst hj
    simpa [moved] using h
  · simpa [moved, Function.update_of_ne hj] using hI.callers j

/-- A caller about to read with attempts left either fails at once, or runs its change on the
entity as the store holds it at its version, changing nothing. -/
theorem Inv.step_reading (hI : Inv A ids fs c m) {l : Nat} (h : c.callers i = .reading (l + 1)) :
    Inv A ids fs (step A ids fs c (.caller i)) m ∧
      (step A ids fs c (.caller i)).store = c.store ∧
      ∀ o, (step A ids fs c (.caller i)).callers i ≠ .done (.ok o) := by
  obtain ⟨hcalls, hleft⟩ := h ▸ hI.callers i
  rw [step_caller_eq]
  rcases hload : (load α (ids i)).run c.store with ⟨_ | r, s⟩
  · -- the read fails: the caller stops with that failure
    have hs : s = c.store := by simpa [hload] using load_run_store (α := α) (ids i) c.store
    subst hs
    simp only [h, Phase.step, hload, Phase.runsChange, Except.isOk, Except.toBool, Bool.false_eq_true, ↓reduceIte,
      Phase.meetsConflict]
    refine ⟨hI.moved_same (.inr ⟨by omega, by omega, by omega⟩), rfl, fun o => ?_⟩
    simp [moved]
  · have hs : s = c.store := by simpa [hload] using load_run_store (α := α) (ids i) c.store
    subst hs
    obtain ⟨path, node, hk, hn, hy, hv⟩ := load_run_memory (hI.store ▸ hload)
    rcases hf : fs i r.data with e | ⟨x, b⟩
    · simp only [h, Phase.step, hload, hf, Phase.runsChange, Except.isOk, Except.toBool, Bool.false_eq_true, ↓reduceIte,
        Phase.meetsConflict]
      refine ⟨hI.moved_same (.inr ⟨by omega, by omega, by omega⟩), rfl, fun o => ?_⟩
      simp [moved]
    · -- the change ran on what the read found, at the version the read found it
      simp only [h, Phase.step, hload, hf, Phase.runsChange, Except.isOk, Except.toBool, Bool.false_eq_true, ↓reduceIte,
        Phase.meetsConflict]
      refine ⟨hI.moved_same ⟨by simp; omega, by simp; omega, node.version, r.data, hv,
        hI.fresh.version_le path node hn, hf, ReadAt.of_fresh hI.fresh hk hn hy⟩, rfl, fun o => ?_⟩
      simp [moved]

/-- A caller about to save either meets another version and reads again, or fails; both change
nothing. Or its save goes through over the value it read. -/
theorem Inv.step_saving (hI : Inv A ids fs c m) (hroom : m.revision < MemoryStore.revisionBound)
    {l : Nat} {version : Option Nat} {x : α} {b : β} (h : c.callers i = .saving l version x b) :
    (Inv A ids fs (step A ids fs c (.caller i)) m ∧ (step A ids fs c (.caller i)).store = c.store ∧
      ∀ o, (step A ids fs c (.caller i)).callers i ≠ .done (.ok o)) ∨
    ∃ m', Inv A ids fs (step A ids fs c (.caller i)) m' ∧ m'.revision = m.revision + 1 ∧
      SavedOver (ids i) (fs i) m m' ((step A ids fs c (.caller i)).callers i) := by
  obtain ⟨hcalls, hleft, v, y, rfl, hle, hf, hread⟩ := h ▸ hI.callers i
  rw [step_caller_eq]
  rcases save_run_some (m := m) (x := x) (v := v) with
    ⟨e, hsave⟩ | ⟨d, path, node, hpre, hk, hn, hv, hsave⟩
  · rw [← hI.store] at hsave
    left
    by_cases hpf : e.isPreconditionFailed
    · -- another version: the next attempt
      simp only [h, Phase.step, hsave, hpf, Phase.runsChange, Phase.meetsConflict,
        Bool.false_eq_true, ↓reduceIte]
      exact ⟨hI.moved_same ⟨by omega, by omega⟩, rfl, fun o => by simp [moved]⟩
    · simp only [h, Phase.step, hsave, hpf, Phase.runsChange, Phase.meetsConflict,
        Bool.false_eq_true, ↓reduceIte]
      exact ⟨hI.moved_same (.inr ⟨by omega, by omega, by omega⟩), rfl, fun o => by simp [moved]⟩
  · rw [← hI.store] at hsave
    right
    obtain ⟨hkey, hy⟩ := hread path node.value (by rw [hn, ← hv])
    have hrev : (m.write path (Entity.toText d)).2.revision = m.revision + 1 := by
      simp only [MemoryStore.revision_write]
      omega
    simp only [h, Phase.step, hsave, Phase.runsChange, Phase.meetsConflict, Bool.false_eq_true,
      ↓reduceIte]
    refine ⟨_, ⟨rfl, hI.fresh.step (.write m path _) (by omega), fun j => ?_⟩, hrev,
      path, node, y, x, b, d, hkey, hn, hy, hf, hpre, rfl, by simp [moved]⟩
    by_cases hj : j = i
    · subst hj
      simp only [moved, Function.update_self, Holds]
      omega
    · simp only [moved, Function.update_of_ne hj, Nat.add_zero]
      exact (hI.callers j).mono (by omega)
        fun v hv p t hp => MemoryStore.find?_write_of_le hroom hv hp

theorem Inv.step_reading_zero (hI : Inv A ids fs c m) (h : c.callers i = .reading 0) :
    Inv A ids fs (step A ids fs c (.caller i)) m ∧ (step A ids fs c (.caller i)).store = c.store ∧
      ∀ o, (step A ids fs c (.caller i)).callers i ≠ .done (.ok o) := by
  obtain ⟨hcalls, hleft⟩ := h ▸ hI.callers i
  rw [step_caller_eq]
  simp only [h, Phase.step, Phase.runsChange, Phase.meetsConflict, Bool.false_eq_true, ↓reduceIte]
  exact ⟨hI.moved_same (.inl ⟨by omega, by omega, rfl⟩), rfl, fun o => by simp [moved]⟩

/-- One operation of caller `i` either leaves the store as it was, and leaves the caller finished
with a saved entity only if it was so already; or it is the caller's save going through over the
value it read, at the next revision. -/
theorem Inv.step_caller (hI : Inv A ids fs c m) (hroom : m.revision < MemoryStore.revisionBound)
    (i : Fin n) :
    (Inv A ids fs (step A ids fs c (.caller i)) m ∧ (step A ids fs c (.caller i)).store = c.store ∧
      ∀ o, (step A ids fs c (.caller i)).callers i = .done (.ok o) → c.callers i = .done (.ok o)) ∨
    ∃ m', Inv A ids fs (step A ids fs c (.caller i)) m' ∧ m'.revision = m.revision + 1 ∧
      SavedOver (ids i) (fs i) m m' ((step A ids fs c (.caller i)).callers i) := by
  cases hc : c.callers i with
  | reading l =>
    cases l with
    | zero =>
      obtain ⟨hI', hs, hne⟩ := hI.step_reading_zero hc
      exact .inl ⟨hI', hs, fun o ho => absurd ho (hne o)⟩
    | succ l =>
      obtain ⟨hI', hs, hne⟩ := hI.step_reading hc
      exact .inl ⟨hI', hs, fun o ho => absurd ho (hne o)⟩
  | saving l version x b =>
    rcases hI.step_saving hroom hc with ⟨hI', hs, hne⟩ | hsaved
    · exact .inl ⟨hI', hs, fun o ho => absurd ho (hne o)⟩
    · exact .inr hsaved
  | done o =>
    rw [step_caller_of_done hc]
    exact .inl ⟨hI, rfl, fun o' ho => hc ▸ ho⟩

/-- Anybody else's operation keeps the invariant on the store it leaves, and moves no caller. -/
theorem Inv.step_other (hI : Inv A ids fs c m) (hroom : m.revision < MemoryStore.revisionBound)
    (op : MemoryStore.Op) :
    Inv A ids fs (step A ids fs c (.other op)) (op.next m) ∧
      (op.next m).revision = m.revision + op.increments m ∧
      (step A ids fs c (.other op)).callers = c.callers := by
  have hinc := op.increments_le_one m
  have hrev : (op.next m).revision = m.revision + op.increments m := op.revision_next (by omega)
  have hstore : (step A ids fs c (.other op)).store = ⟨.memory (op.next m), []⟩ := by
    simp only [step, hI.store, MemoryStore.Op.program_run]
  refine ⟨⟨hstore, (MemoryStore.Op.fresh_next hI.fresh (by omega) : MemoryStore.Fresh (op.next m)), fun j => ?_⟩, hrev, rfl⟩
  exact (hI.callers j).mono (by omega) fun v hv p t hp => MemoryStore.Op.find?_next_of_le hroom hv hp

/-- Every operation keeps the invariant, taking at most one revision. -/
theorem Inv.step (hI : Inv A ids fs c m) (hroom : m.revision < MemoryStore.revisionBound)
    (a : Move n) : ∃ m', Inv A ids fs (step A ids fs c a) m' ∧ m'.revision ≤ m.revision + 1 := by
  cases a with
  | caller i =>
    rcases hI.step_caller hroom i with ⟨hI', -, -⟩ | ⟨m', hI', hrev, -⟩
    · exact ⟨m, hI', by omega⟩
    · exact ⟨m', hI', by omega⟩
  | other op =>
    obtain ⟨hI', hrev, -⟩ := hI.step_other hroom op
    exact ⟨_, hI', by have := op.increments_le_one m; omega⟩

/-- A schedule with room in the revision counter for each of its operations keeps the invariant. -/
theorem Inv.run (hI : Inv A ids fs c m) (sched : List (Move n))
    (hroom : m.revision + sched.length ≤ MemoryStore.revisionBound) :
    ∃ m', Inv A ids fs (run A ids fs sched c) m' ∧ m'.revision ≤ m.revision + sched.length := by
  induction sched generalizing c m with
  | nil => exact ⟨m, hI, by simp⟩
  | cons a sched ih =>
    simp only [List.length_cons] at hroom
    obtain ⟨m₁, hI₁, hrev₁⟩ := hI.step (by omega) a
    obtain ⟨m', hI', hrev'⟩ := ih hI₁ (by omega)
    exact ⟨m', hI', by simp; omega⟩

theorem Inv.start (hf : MemoryStore.Fresh m) : Inv A ids fs (start A ⟨.memory m, []⟩) m :=
  ⟨rfl, hf, fun _ => ⟨rfl, Nat.zero_add A⟩⟩

theorem step_callers_of_ne {a : Move n} (h : a ≠ .caller i) :
    (step A ids fs c a).callers i = c.callers i := by
  cases a with
  | caller j =>
    have hij : i ≠ j := fun hij => h (hij ▸ rfl)
    simp [step, Function.update_of_ne hij]
  | other op => rfl

theorem step_counts_of_ne {a : Move n} (h : a ≠ .caller i) :
    (step A ids fs c a).calls i = c.calls i ∧ (step A ids fs c a).conflicts i = c.conflicts i := by
  cases a with
  | caller j =>
    have hij : i ≠ j := fun hij => h (hij ▸ rfl)
    simp [step, Function.update_of_ne hij]
  | other op => exact ⟨rfl, rfl⟩

theorem step_callers_of_done {o : Except DomainError (Record α × β)} (h : c.callers i = .done o)
    (a : Move n) : (step A ids fs c a).callers i = .done o := by
  by_cases ha : a = .caller i
  · rw [ha, step_caller_of_done h, h]
  · rw [step_callers_of_ne ha, h]

theorem run_callers_of_done {o : Except DomainError (Record α × β)} (h : c.callers i = .done o)
    (sched : List (Move n)) : (run A ids fs sched c).callers i = .done o := by
  induction sched generalizing c with
  | nil => exact h
  | cons a sched ih => exact ih (step_callers_of_done h a)

/-- An operation of caller `i` that runs its change is a read, with attempts left, that found
the entity's node; the change ran on what the node reads as, and the caller goes on to save its
result over the node's version, or stops with the change's failure. -/
theorem Inv.step_runsChange (hI : Inv A ids fs c m)
    (h : (Race.step A ids fs c (.caller i)).calls i = c.calls i + 1) :
    ∃ l path node y, c.callers i = .reading (l + 1) ∧ (entityKey α (ids i)).encode = .ok path ∧
      m.find? path = some node ∧ Kv.decodeAs Entity.decode node.value = .ok y ∧
      (∀ x b, fs i y = .ok (x, b) →
        (Race.step A ids fs c (.caller i)).callers i = .saving l (some node.version) x b) ∧
      ∀ e, fs i y = .error e → (Race.step A ids fs c (.caller i)).callers i = .done (.error e) := by
  rw [step_caller_eq] at h ⊢
  have hruns : (c.callers i).runsChange (ids i) c.store = true := by
    by_contra hno
    simp [moved, hno] at h
  cases hc : c.callers i with
  | reading l =>
    rw [hc] at hruns
    cases l with
    | zero => simp [Phase.runsChange] at hruns
    | succ l =>
      rcases hload : (load α (ids i)).run c.store with ⟨_ | r, s⟩
      · simp [Phase.runsChange, hload, Except.isOk, Except.toBool] at hruns
      · have hs : s = c.store := by simpa [hload] using load_run_store (α := α) (ids i) c.store
        subst hs
        obtain ⟨path, node, hk, hn, hy, hv⟩ := load_run_memory (hI.store ▸ hload)
        refine ⟨l, path, node, r.data, rfl, hk, hn, hy, fun x b hf => ?_, fun e hf => ?_⟩ <;>
          simp [moved, Phase.step, hload, hf, hv]
  | saving l version x b =>
    rw [hc] at hruns
    simp [Phase.runsChange] at hruns
  | done o =>
    rw [hc] at hruns
    simp [Phase.runsChange] at hruns

end Step

/-! ## Along a schedule -/

/-- Operation `j` of the schedule is caller `i`'s save going through over the value the store held
right before it, finishing the caller with `o`. -/
def SavedAt (s : Store) (sched : List (Move n)) (i : Fin n) (j : Nat) (o : Record α × β) : Prop :=
  ∃ (hj : j < sched.length) (m₁ m₂ : MemoryStore), sched[j] = .caller i ∧
    (after A ids fs s sched j).store = ⟨.memory m₁, []⟩ ∧
    (after A ids fs s sched (j + 1)).store = ⟨.memory m₂, []⟩ ∧
    SavedOver (ids i) (fs i) m₁ m₂ (.done (.ok o))

/-- Operation `k` of the schedule runs caller `i`'s change on the entity as the store held it right
before: the caller read the entity's node with an attempt left, its change ran on what the node
reads as, and it goes on to save the result over the node's version, or stops with the change's
failure. -/
def RanAt (s : Store) (sched : List (Move n)) (i : Fin n) (k : Nat) : Prop :=
  ∃ (hk : k < sched.length) (mk : MemoryStore) (l : Nat) (path : String) (node : Node) (y : α),
    sched[k] = .caller i ∧ (after A ids fs s sched k).store = ⟨.memory mk, []⟩ ∧
    (after A ids fs s sched k).callers i = .reading (l + 1) ∧
    (entityKey α (ids i)).encode = .ok path ∧ mk.find? path = some node ∧
    Kv.decodeAs Entity.decode node.value = .ok y ∧
    (∀ x b, fs i y = .ok (x, b) →
      (after A ids fs s sched (k + 1)).callers i = .saving l (some node.version) x b) ∧
    ∀ e, fs i y = .error e → (after A ids fs s sched (k + 1)).callers i = .done (.error e)

section Schedule

variable {A ids fs} {m : MemoryStore} {s : Store} {sched : List (Move n)} {i : Fin n}

theorem after_zero : after A ids fs s sched 0 = start A s := rfl

theorem after_succ_of_length_le {k : Nat} (hk : sched.length ≤ k) :
    after A ids fs s sched (k + 1) = after A ids fs s sched k := by
  unfold after
  rw [List.take_of_length_le hk, List.take_of_length_le (by omega)]

theorem after_callers_of_done {o : Except DomainError (Record α × β)} {j k : Nat} (hjk : j ≤ k)
    (h : (after A ids fs s sched j).callers i = .done o) :
    (after A ids fs s sched k).callers i = .done o := by
  induction k, hjk using Nat.le_induction with
  | base => exact h
  | succ k _ ih =>
    by_cases hk : k < sched.length
    · rw [after_succ A ids fs hk]
      exact step_callers_of_done ih _
    · rw [after_succ_of_length_le (by omega)]
      exact ih

theorem after_calls_succ {k : Nat}
    (h : (after A ids fs s sched (k + 1)).calls i = (after A ids fs s sched k).calls i + 1) :
    ∃ hk : k < sched.length, sched[k] = .caller i := by
  by_cases hk : k < sched.length
  · refine ⟨hk, ?_⟩
    by_contra hne
    rw [after_succ A ids fs hk, (step_counts_of_ne hne).1] at h
    omega
  · rw [after_succ_of_length_le (by omega)] at h
    omega

variable (A ids fs) in
/-- Along a schedule with room in the revision counter for each of its operations, from every
caller about to read a store whose versions are a clock, the invariant holds after every prefix. -/
theorem inv_after (hf : MemoryStore.Fresh m)
    (hroom : m.revision + sched.length ≤ MemoryStore.revisionBound) (k : Nat) :
    ∃ mk, Inv A ids fs (after A ids fs ⟨.memory m, []⟩ sched k) mk ∧ mk.revision ≤ m.revision + k := by
  have hstart : Inv A ids fs (start A ⟨.memory m, []⟩) m := Inv.start hf
  obtain ⟨mk, hI, hrev⟩ := hstart.run (sched.take k) (by simp only [List.length_take]; omega)
  exact ⟨mk, hI, by simp only [List.length_take] at hrev; omega⟩

variable (A ids fs) in
/-- The operation of caller `i` at position `k` of a schedule either leaves the store as it was,
and leaves the caller finished with a saved entity only if it was so already; or it is the caller's
save going through over the value it read. -/
theorem after_caller (hf : MemoryStore.Fresh m)
    (hroom : m.revision + sched.length ≤ MemoryStore.revisionBound) {k : Nat}
    (hk : k < sched.length) (hi : sched[k] = .caller i) :
    ((after A ids fs ⟨.memory m, []⟩ sched (k + 1)).store = (after A ids fs ⟨.memory m, []⟩ sched k).store ∧
      ∀ o, (after A ids fs ⟨.memory m, []⟩ sched (k + 1)).callers i = .done (.ok o) →
        (after A ids fs ⟨.memory m, []⟩ sched k).callers i = .done (.ok o)) ∨
    ∃ m₁ m₂, (after A ids fs ⟨.memory m, []⟩ sched k).store = ⟨.memory m₁, []⟩ ∧
      (after A ids fs ⟨.memory m, []⟩ sched (k + 1)).store = ⟨.memory m₂, []⟩ ∧
      m₂.revision = m₁.revision + 1 ∧
      SavedOver (ids i) (fs i) m₁ m₂ ((after A ids fs ⟨.memory m, []⟩ sched (k + 1)).callers i) := by
  obtain ⟨mk, hI, hrev⟩ := inv_after A ids fs hf hroom k
  rw [after_succ A ids fs hk, hi]
  rcases hI.step_caller (by omega) i with ⟨-, hs, hdone⟩ | ⟨m', hI', hrev', hsaved⟩
  · exact .inl ⟨hs, hdone⟩
  · exact .inr ⟨mk, m', hI.store, hI'.store, hrev', hsaved⟩

/-- Every run of caller `i`'s change is on the entity as the store held it right before. -/
theorem ranAt_of_calls (hf : MemoryStore.Fresh m)
    (hroom : m.revision + sched.length ≤ MemoryStore.revisionBound) {k : Nat}
    (h : (after A ids fs ⟨.memory m, []⟩ sched (k + 1)).calls i =
      (after A ids fs ⟨.memory m, []⟩ sched k).calls i + 1) :
    RanAt A ids fs ⟨.memory m, []⟩ sched i k := by
  obtain ⟨hk, hi⟩ := after_calls_succ h
  obtain ⟨mk, hI, -⟩ := inv_after A ids fs hf hroom k
  rw [after_succ A ids fs hk, hi] at h
  obtain ⟨l, path, node, y, hc, hkey, hn, hy, hok, herr⟩ := hI.step_runsChange h
  refine ⟨hk, mk, l, path, node, y, hi, hI.store, hc, hkey, hn, hy, fun x b hxb => ?_, fun e he => ?_⟩
  · rw [after_succ A ids fs hk, hi]
    exact hok x b hxb
  · rw [after_succ A ids fs hk, hi]
    exact herr e he

/-- A caller is finished with a saved entity exactly when one of its operations so far was its
save going through over the value the store held right before. -/
theorem callers_done_ok_iff (hf : MemoryStore.Fresh m)
    (hroom : m.revision + sched.length ≤ MemoryStore.revisionBound) (k : Nat) (o : Record α × β) :
    (after A ids fs ⟨.memory m, []⟩ sched k).callers i = .done (.ok o) ↔
      ∃ j < k, SavedAt A ids fs ⟨.memory m, []⟩ sched i j o := by
  constructor
  · -- by induction on the prefix: the operation that finished the caller is its save
    intro h
    induction k with
    | zero => simp [after_zero, start] at h
    | succ k ih =>
      by_cases hk : k < sched.length
      · by_cases hi : sched[k] = .caller i
        · rcases after_caller A ids fs hf hroom hk hi with ⟨-, hdone⟩ | ⟨m₁, m₂, h₁, h₂, -, hsaved⟩
          · obtain ⟨j, hj, hsave⟩ := ih (hdone o h)
            exact ⟨j, by omega, hsave⟩
          · exact ⟨k, by omega, hk, m₁, m₂, hi, h₁, h₂, h ▸ hsaved⟩
        · rw [after_succ A ids fs hk, step_callers_of_ne hi] at h
          obtain ⟨j, hj, hsave⟩ := ih h
          exact ⟨j, by omega, hsave⟩
      · rw [after_succ_of_length_le (by omega)] at h
        obtain ⟨j, hj, hsave⟩ := ih h
        exact ⟨j, by omega, hsave⟩
  · rintro ⟨j, hjk, hj, m₁, m₂, hi, h₁, h₂, hsaved⟩
    refine after_callers_of_done (j := j + 1) (by omega) ?_
    rcases after_caller A ids fs hf hroom hj hi with ⟨hs, -⟩ | ⟨m₁', m₂', h₁', h₂', -, hsaved'⟩
    · -- the save moved the revision, so it cannot have left the store as it was
      obtain ⟨mj, hI, hrev⟩ := inv_after A ids fs hf hroom j
      rw [hI.store] at h₁
      cases h₁
      rw [hs, hI.store] at h₂
      cases h₂
      have := hsaved.revision (by omega)
      omega
    · rw [h₁] at h₁'
      rw [h₂] at h₂'
      cases h₁'
      cases h₂'
      exact hsaved'.unique hsaved

variable (A ids fs) in
/-- An operation of caller `i` leaves the store as it was, unless it is its save going through. -/
theorem store_of_caller (hf : MemoryStore.Fresh m)
    (hroom : m.revision + sched.length ≤ MemoryStore.revisionBound) {j : Nat}
    (hj : j < sched.length) (hi : sched[j] = .caller i) :
    (after A ids fs ⟨.memory m, []⟩ sched (j + 1)).store = (after A ids fs ⟨.memory m, []⟩ sched j).store ∨
      ∃ o, SavedAt A ids fs ⟨.memory m, []⟩ sched i j o := by
  rcases after_caller A ids fs hf hroom hj hi with ⟨hs, -⟩ | ⟨m₁, m₂, h₁, h₂, -, hsaved⟩
  · exact .inl hs
  · obtain ⟨o, ho⟩ := hsaved.done
    exact .inr ⟨o, hj, m₁, m₂, hi, h₁, h₂, ho ▸ hsaved⟩

/-- A caller that failed left the store as it was at each of its operations. -/
theorem store_of_failed (hf : MemoryStore.Fresh m)
    (hroom : m.revision + sched.length ≤ MemoryStore.revisionBound) {k : Nat} {e : DomainError}
    (h : (after A ids fs ⟨.memory m, []⟩ sched k).callers i = .done (.error e)) {j : Nat} (hjk : j < k)
    (hj : j < sched.length) (hi : sched[j] = .caller i) :
    (after A ids fs ⟨.memory m, []⟩ sched (j + 1)).store = (after A ids fs ⟨.memory m, []⟩ sched j).store := by
  rcases store_of_caller A ids fs hf hroom hj hi with hs | ⟨o, hsaved⟩
  · exact hs
  · have hdone := (callers_done_ok_iff hf hroom k o).2 ⟨j, hjk, hsaved⟩
    rw [h] at hdone
    cases hdone

variable (A ids fs) in
theorem holds_after (hf : MemoryStore.Fresh m)
    (hroom : m.revision + sched.length ≤ MemoryStore.revisionBound) (k : Nat) (i : Fin n) :
    ∃ mk, Holds A (ids i) (fs i) mk ((after A ids fs ⟨.memory m, []⟩ sched k).calls i)
      ((after A ids fs ⟨.memory m, []⟩ sched k).conflicts i) ((after A ids fs ⟨.memory m, []⟩ sched k).callers i) := by
  obtain ⟨mk, hI, -⟩ := inv_after A ids fs hf hroom k
  exact ⟨mk, hI.callers i⟩

end Schedule

theorem run_replicate_caller (i : Fin n) (k : Nat) (c : Race n α β) :
    ((run A ids fs (List.replicate k (.caller i)) c).callers i,
        (run A ids fs (List.replicate k (.caller i)) c).store) =
      (c.callers i).stepN A (ids i) (fs i) k c.store := by
  induction k generalizing c with
  | zero => rfl
  | succ k ih =>
    rw [List.replicate_succ, run_cons, ih, Phase.stepN_succ]
    simp [step]

/-! ## At the ceiling of the revision counter -/

section Ceiling

variable {A ids fs} {m : MemoryStore} {i : Fin n} {l : Nat} {path t₀ t₁ : String} {y₀ y₁ x₀ : α}
  {b₀ : β}

/-- With the revision counter at its ceiling and the entity's node at that version, a caller that
reads the entity, then a write of the entity by somebody else, then the caller's save: the save goes
through over the write, with the change made of the value read before it, and so it is not a save
over the value the store held right before. -/
theorem lost_at_ceiling (hm : m.revision = MemoryStore.revisionBound)
    (hk : (entityKey α (ids i)).encode = .ok path)
    (hn : m.find? path = some ⟨MemoryStore.revisionBound, t₀⟩)
    (hy₀ : Kv.decodeAs Entity.decode t₀ = .ok y₀) (hf₀ : fs i y₀ = .ok (x₀, b₀))
    (hpre : Entity.presave x₀ = .ok x₀) (hkey : (recordKey x₀).encode = .ok path)
    (ht₀ : t₀ ≠ Entity.toText x₀) (hy₁ : Kv.decodeAs Entity.decode t₁ = .ok y₁)
    (hlost : ∀ x b, fs i y₁ = .ok (x, b) → Entity.presave x ≠ .ok x₀) :
    (after (l + 1) ids fs ⟨.memory m, []⟩
        [.caller i, .other (.set (entityKey α (ids i)) t₁), .caller i] 3).callers i =
      .done (.ok (⟨x₀, some MemoryStore.revisionBound⟩, b₀)) ∧
    ¬ ∃ j < 3, SavedAt (l + 1) ids fs ⟨.memory m, []⟩
        [.caller i, .other (.set (entityKey α (ids i)) t₁), .caller i] i j
        (⟨x₀, some MemoryStore.revisionBound⟩, b₀) := by
  set sched : List (Move n) := [.caller i, .other (.set (entityKey α (ids i)) t₁), .caller i]
  obtain ⟨-, hrev₂, hn₂⟩ := MemoryStore.write_at_ceiling hm path t₁
  have h₁ : (after (l + 1) ids fs ⟨.memory m, []⟩ sched 1).callers i =
        .saving l (some MemoryStore.revisionBound) x₀ b₀ ∧
      (after (l + 1) ids fs ⟨.memory m, []⟩ sched 1).store = ⟨.memory m, []⟩ := by
    show (step (l + 1) ids fs (start (l + 1) ⟨.memory m, []⟩) (.caller i)).callers i = _ ∧
      (step (l + 1) ids fs (start (l + 1) ⟨.memory m, []⟩) (.caller i)).store = _
    simp [step, start, Phase.step, load_memory hk hn hy₀, hf₀]
  have h₂ : (after (l + 1) ids fs ⟨.memory m, []⟩ sched 2).callers i =
        .saving l (some MemoryStore.revisionBound) x₀ b₀ ∧
      (after (l + 1) ids fs ⟨.memory m, []⟩ sched 2).store = ⟨.memory (m.write path t₁).2, []⟩ := by
    show (step (l + 1) ids fs (after (l + 1) ids fs ⟨.memory m, []⟩ sched 1)
        (.other (.set (entityKey α (ids i)) t₁))).callers i = _ ∧
      (step (l + 1) ids fs (after (l + 1) ids fs ⟨.memory m, []⟩ sched 1)
        (.other (.set (entityKey α (ids i)) t₁))).store = _
    simp only [step, h₁, MemoryStore.Op.program_run, MemoryStore.Op.next_set hk, and_self]
  have h₃ : (after (l + 1) ids fs ⟨.memory m, []⟩ sched 3).callers i =
      .done (.ok (⟨x₀, some MemoryStore.revisionBound⟩, b₀)) := by
    show (step (l + 1) ids fs (after (l + 1) ids fs ⟨.memory m, []⟩ sched 2) (.caller i)).callers i = _
    simp [step, h₂, Phase.step, save_current hpre hkey hn₂ rfl, hm]
  refine ⟨h₃, ?_⟩
  rintro ⟨j, hj3, hj, m₁, m₂, hi, hs₁, hs₂, path', node, y, x, b, d, hk', hn', hy', hf', hd', hm₂, ho⟩
  rw [hk, Except.ok.injEq] at hk'
  subst hk'
  simp only [Phase.done.injEq, Except.ok.injEq, Prod.mk.injEq, Record.mk.injEq] at ho
  obtain ⟨⟨rfl, -⟩, rfl⟩ := ho
  obtain _ | _ | _ | j := j
  · -- the read is no save: it left the store holding what it held before
    have e₁ : m₁ = m := by
      have h₀ : (after (l + 1) ids fs ⟨.memory m, []⟩ sched 0).store = ⟨.memory m, []⟩ := rfl
      rw [h₀] at hs₁
      cases hs₁
      rfl
    have e₂ : m₂ = m := by
      rw [h₁.2] at hs₂
      cases hs₂
      rfl
    subst e₁ e₂
    have hfind := congrArg (fun s : MemoryStore => s.find? path) hm₂
    simp only [hn, (MemoryStore.write_at_ceiling hm path _).2.2, Option.some.injEq, Node.mk.injEq,
      true_and] at hfind
    exact ht₀ hfind
  · simp [sched] at hi
  · -- the save went through over the write, not over the value the change was made of
    rw [h₂.2] at hs₁
    cases hs₁
    rw [hn₂, Option.some.injEq] at hn'
    subst hn'
    have hy : y₁ = y := by simpa [hy₁] using hy'
    subst hy
    exact hlost x _ hf' hd'
  · omega

end Ceiling

end Race

/-! ## Linearizability -/

variable {n : Nat}

/-- Callers of `atomicUpdate maxAttempts`, caller `i` on the entity `ids i` with the change
`fs i`, racing along the schedule `sched` from the store `s` among anybody else's operations, each
behave as one read-modify-write that takes effect at its compare-and-swap. -/
structure Linearizable (maxAttempts : Nat) (ids : Fin n → List String)
    (fs : Fin n → α → Except DomainError (α × β)) (s : Store) (sched : List (Move n)) : Prop where
  /-- Run alone, a caller is the atomic update, with its outcome and the store it leaves. -/
  solo : ∀ i s₀,
    ((Race.run (max maxAttempts 1) ids fs (List.replicate (2 * max maxAttempts 1 + 1) (.caller i))
          (Race.start (max maxAttempts 1) s₀)).callers i,
        (Race.run (max maxAttempts 1) ids fs (List.replicate (2 * max maxAttempts 1 + 1) (.caller i))
          (Race.start (max maxAttempts 1) s₀)).store) =
      (.done ((atomicUpdate maxAttempts (ids i) (fs i)).run s₀).1,
        ((atomicUpdate maxAttempts (ids i) (fs i)).run s₀).2)
  /-- A caller runs its change once per attempt at most, and at most `max maxAttempts 1` times:
  every save but the last met another version. -/
  counts : ∀ k i,
    (Race.after (max maxAttempts 1) ids fs s sched k).conflicts i ≤
        (Race.after (max maxAttempts 1) ids fs s sched k).calls i ∧
      (Race.after (max maxAttempts 1) ids fs s sched k).calls i ≤
        (Race.after (max maxAttempts 1) ids fs s sched k).conflicts i + 1 ∧
      (Race.after (max maxAttempts 1) ids fs s sched k).calls i ≤ max maxAttempts 1
  /-- Every run of a caller's change is on the entity as the store held it right then. -/
  ran : ∀ k i,
    (Race.after (max maxAttempts 1) ids fs s sched (k + 1)).calls i =
        (Race.after (max maxAttempts 1) ids fs s sched k).calls i + 1 →
      Race.RanAt (max maxAttempts 1) ids fs s sched i k
  /-- A caller finishes with a saved entity exactly when one of its operations is its save going
  through over the value the store held right before: no update is lost. -/
  saved : ∀ k i o,
    (Race.after (max maxAttempts 1) ids fs s sched k).callers i = .done (.ok o) ↔
      ∃ j < k, Race.SavedAt (max maxAttempts 1) ids fs s sched i j o
  /-- A caller whose every attempt met another version fails with running out of attempts. -/
  exhausted : ∀ k i,
    (Race.after (max maxAttempts 1) ids fs s sched k).conflicts i = max maxAttempts 1 →
      (Race.after (max maxAttempts 1) ids fs s sched k).callers i = .reading 0 ∨
        (Race.after (max maxAttempts 1) ids fs s sched k).callers i =
          .done (.error (Phase.exhausted α (ids i) (max maxAttempts 1)))
  /-- A caller that failed either ran out of attempts, or failed in an attempt before the last. -/
  failed : ∀ k i e,
    (Race.after (max maxAttempts 1) ids fs s sched k).callers i = .done (.error e) →
      ((Race.after (max maxAttempts 1) ids fs s sched k).conflicts i = max maxAttempts 1 ∧
          e = Phase.exhausted α (ids i) (max maxAttempts 1)) ∨
        (Race.after (max maxAttempts 1) ids fs s sched k).conflicts i < max maxAttempts 1
  /-- An operation of a caller leaves the store as it was, unless it is its save going through. -/
  writes : ∀ j i (hj : j < sched.length), sched[j] = .caller i →
    (Race.after (max maxAttempts 1) ids fs s sched (j + 1)).store =
        (Race.after (max maxAttempts 1) ids fs s sched j).store ∨
      ∃ o, Race.SavedAt (max maxAttempts 1) ids fs s sched i j o
  /-- A caller that failed has written nothing. -/
  failed_writes_nothing : ∀ k i e,
    (Race.after (max maxAttempts 1) ids fs s sched k).callers i = .done (.error e) →
      ∀ j < k, ∀ (hj : j < sched.length), sched[j] = .caller i →
        (Race.after (max maxAttempts 1) ids fs s sched (j + 1)).store =
          (Race.after (max maxAttempts 1) ids fs s sched j).store

/-- Atomic updates are linearizable on a memory store whose versions are a clock, along any
schedule that leaves room in the revision counter for each of its operations. -/
theorem atomicUpdate_linearizable (maxAttempts : Nat) (ids : Fin n → List String)
    (fs : Fin n → α → Except DomainError (α × β)) {m : MemoryStore} (hf : MemoryStore.Fresh m)
    (sched : List (Move n)) (hroom : m.revision + sched.length ≤ MemoryStore.revisionBound) :
    Linearizable maxAttempts ids fs ⟨.memory m, []⟩ sched where
  solo i s₀ := by
    rw [Race.run_replicate_caller]
    exact Phase.stepN_eq_atomicUpdate maxAttempts s₀
  counts k i := by
    obtain ⟨mk, h⟩ := Race.holds_after _ ids fs hf hroom k i
    exact h.counts
  ran _ _ h := Race.ranAt_of_calls hf hroom h
  saved k _ o := Race.callers_done_ok_iff hf hroom k o
  exhausted k i := by
    obtain ⟨mk, h⟩ := Race.holds_after _ ids fs hf hroom k i
    exact h.exhausted.1
  failed k i e := by
    obtain ⟨mk, h⟩ := Race.holds_after _ ids fs hf hroom k i
    exact h.exhausted.2 e
  writes _ _ hj hi := Race.store_of_caller _ ids fs hf hroom hj hi
  failed_writes_nothing _ _ _ h _ hjk hj hi := Race.store_of_failed hf hroom h hjk hj hi

/-- Two callers on a fanned-out invocation stored at version 1: one counts a child down, the other
records an error. Both read, the second saves first, the first meets the new version, reads again
and saves: it ran its change twice and met one conflict, and the stored invocation carries both
changes. -/
theorem atomicUpdate_linearizable_two_callers :
    MemoryStore.Fresh ⟨[("entities/invocation/wf/p", ⟨1, Entity.toText
          (⟨"wf", "p", none, "s", .map, .fannedOut 2 2, none, "2024-01-01T00:00:00Z"⟩ : Invocation)⟩)], 1, false, by decide⟩ ∧
      Linearizable 2 ![["wf", "p"], ["wf", "p"]]
        ![fun (x : Invocation) => x.decrementWaiting.map fun (_, y) => (y, true),
          fun (x : Invocation) => .ok ({ x with error := some "late" }, false)]
        ⟨.memory ⟨[("entities/invocation/wf/p", ⟨1, Entity.toText
          (⟨"wf", "p", none, "s", .map, .fannedOut 2 2, none, "2024-01-01T00:00:00Z"⟩ : Invocation)⟩)], 1, false, by decide⟩, []⟩
        [.caller 0, .caller 1, .caller 1, .caller 0, .caller 0, .caller 0] ∧
      ∃ r, Race.after 2 ![["wf", "p"], ["wf", "p"]]
        ![fun (x : Invocation) => x.decrementWaiting.map fun (_, y) => (y, true),
          fun (x : Invocation) => .ok ({ x with error := some "late" }, false)]
        ⟨.memory ⟨[("entities/invocation/wf/p", ⟨1, Entity.toText
          (⟨"wf", "p", none, "s", .map, .fannedOut 2 2, none, "2024-01-01T00:00:00Z"⟩ : Invocation)⟩)], 1, false, by decide⟩, []⟩
        [.caller 0, .caller 1, .caller 1, .caller 0, .caller 0, .caller 0] 6 = r ∧
        r.conflicts 0 = 1 ∧ r.calls 0 = 2 ∧
        ((EntityStore.load Invocation ["wf", "p"]).run r.store).1.toOption.map (·.data) =
          some ⟨"wf", "p", none, "s", .map, .fannedOut 2 1, some "late", "2024-01-01T00:00:00Z"⟩ :=
  ⟨MemoryStore.fresh_single (Nat.le_refl 1),
    atomicUpdate_linearizable 2 _ _ (MemoryStore.fresh_single (Nat.le_refl 1)) _ (by decide),
    _, rfl, by decide +kernel⟩

section Ceiling

variable {ids : Fin n → List String} {fs : Fin n → α → Except DomainError (α × β)} {m : MemoryStore}
  {i : Fin n} {l : Nat} {path t₀ t₁ : String} {y₀ y₁ x₀ : α} {b₀ : β}

/-- With the revision counter at its ceiling and the entity's node at that version, a write of the
entity by somebody else between a caller's read and its save is lost, unless the caller's change
makes of it what it made of the value it read. -/
theorem not_linearizable_at_ceiling (hm : m.revision = MemoryStore.revisionBound)
    (hk : (entityKey α (ids i)).encode = .ok path)
    (hn : m.find? path = some ⟨MemoryStore.revisionBound, t₀⟩)
    (hy₀ : Kv.decodeAs Entity.decode t₀ = .ok y₀) (hf₀ : fs i y₀ = .ok (x₀, b₀))
    (hpre : Entity.presave x₀ = .ok x₀) (hkey : (recordKey x₀).encode = .ok path)
    (ht₀ : t₀ ≠ Entity.toText x₀) (hy₁ : Kv.decodeAs Entity.decode t₁ = .ok y₁)
    (hlost : ∀ x b, fs i y₁ = .ok (x, b) → Entity.presave x ≠ .ok x₀) :
    ¬ Linearizable (l + 1) ids fs ⟨.memory m, []⟩
      [.caller i, .other (.set (entityKey α (ids i)) t₁), .caller i] := by
  intro h
  obtain ⟨hdone, hnot⟩ := Race.lost_at_ceiling (l := l) hm hk hn hy₀ hf₀ hpre hkey ht₀ hy₁ hlost
  have hsaved := (h.saved 3 i (⟨x₀, some MemoryStore.revisionBound⟩, b₀)).1
  rw [show max (l + 1) 1 = l + 1 by omega] at hsaved
  exact hnot (hsaved hdone)

end Ceiling

/-- With the revision counter at its ceiling, an update that marks a request done, read before
somebody else writes the request with another context and saved after, goes through over that
write: the write is lost, and the updates are not linearizable. -/
theorem atomicUpdate_not_linearizable_at_revision_ceiling :
    ¬ Linearizable 1 ![["wf", "r"]]
        ![fun r : Request => .ok (r.markDone "2024-01-02T00:00:00Z", true)]
        ⟨.memory ⟨[("entities/request/wf/r", ⟨MemoryStore.revisionBound, Entity.toText
          (⟨"wf", "r", "j", "I001", .null, false, false, none, "2024-01-01T00:00:00Z", none⟩ : Request)⟩)],
          MemoryStore.revisionBound, false, by decide⟩, []⟩
        [.caller 0, .other (.set (entityKey Request ["wf", "r"]) (Entity.toText
          (⟨"wf", "r", "j", "I001", .obj [("rival", .bool true)], false, false, none,
            "2024-01-01T00:00:00Z", none⟩ : Request))), .caller 0] := by
  have hr₀ : (⟨"wf", "r", "j", "I001", .null, false, false, none, "2024-01-01T00:00:00Z", none⟩ :
      Request).Readable := ⟨by decide, by simp, .null _⟩
  have hr₁ : (⟨"wf", "r", "j", "I001", .obj [("rival", .bool true)], false, false, none,
      "2024-01-01T00:00:00Z", none⟩ : Request).Readable :=
    ⟨by decide, by simp, .obj _ _ (by decide) (by simp) (by simp [Json.Readable.bool])⟩
  have hnow : Text.normalTimestamp "2024-01-02T00:00:00Z" = .ok "2024-01-02T00:00:00Z" := by decide
  have ht₀ : Entity.toText (⟨"wf", "r", "j", "I001", .null, false, false, none, "2024-01-01T00:00:00Z",
      none⟩ : Request) ≠ Entity.toText (Request.markDone ⟨"wf", "r", "j", "I001", .null, false, false,
        none, "2024-01-01T00:00:00Z", none⟩ "2024-01-02T00:00:00Z") := by
    intro h
    have h' := Request.decodeAs_toText (hr₀.markDone hnow)
    rw [← h, Request.decodeAs_toText hr₀, Except.ok.injEq] at h'
    have hdone := congrArg Request.isDone h'
    simp [Request.markDone] at hdone
  refine not_linearizable_at_ceiling rfl rfl rfl (Request.decodeAs_toText hr₀) rfl rfl rfl ht₀
    (Request.decodeAs_toText hr₁) fun x b h hx => ?_
  simp only [Matrix.cons_val_fin_one, Except.ok.injEq, Prod.mk.injEq] at h
  obtain ⟨rfl, -⟩ := h
  have hctx := congrArg Request.context (Except.ok.inj hx)
  simp [Request.markDone] at hctx

end EntityStore

end MapReduce
