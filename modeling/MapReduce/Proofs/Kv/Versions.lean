import MapReduce.Proofs.Kv.Memory
import Mathlib

/-! # Versions of the in-memory store

Every successful write or removal takes the next revision, and a written node carries it as its
version; a failed operation changes nothing. While the revision counter has room below its ceiling,
this makes versions a clock. Every node carries its own version, none above the revision
(`Fresh`), and one operation changes the nodes of a store in one way only (`Step`): each path keeps
its node or loses it, except one path at most, which gets a node carrying the new revision.

Compare-and-swap on such a store has no ABA. Once the node at a path has changed, the version read
there before is past (`Past`): no later node at that path carries it again, also after a removal
and a new write. So an update against a version read at some point of a run goes through exactly
when no operation since has changed the node (`Untouched`). The main statement,
`fresh_versions_make_cas_exact`, gathers this with the conditions under which each conditional
write goes through, and with the fact that a failed operation leaves the store as it was.

The operations are gathered in `MemoryStore.Op`, so that a run is a list of them. -/

namespace MapReduce

namespace MemoryStore

/-- A lookup after the nodes of the paths a test picks are dropped finds nothing at those paths
and what was there at every other path. -/
theorem find?_filter_not (P : String → Bool) (q : String) (l : List (String × Node)) :
    ((l.filter fun e => !P e.1).find? (·.1 == q)).map (·.2) =
      if P q then none else (l.find? (·.1 == q)).map (·.2) := by
  induction l with
  | nil => simp
  | cons e rest ih =>
    obtain ⟨p, m⟩ := e
    by_cases hp : P p
    · by_cases hq : p = q
      · subst hq
        simpa [hp] using ih
      · simpa [List.filter_cons, hp, hq] using ih
    · by_cases hq : p = q
      · subst hq
        simp [hp]
      · simpa [List.filter_cons, hp, hq] using ih

theorem find?_deleteTree {s s' : MemoryStore} {key : Identity} (h : s.deleteTree key = .ok s') :
    ∃ root, key.encode = .ok root ∧ s'.revision = min (s.revision + 1) revisionBound ∧
      ∀ q, s'.find? q = if underRoot root q then none else s.find? q := by
  unfold deleteTree at h
  rcases hk : key.encode with err | root
  · simp [hk, bind, Except.bind] at h
  · simp only [hk, bind, Except.bind] at h
    split at h
    · cases h
      exact ⟨root, rfl, rfl, fun q => find?_filter_not (underRoot root) q s.nodes⟩
    · cases h

theorem set_ok {s : MemoryStore} {key : Identity} {value : String} {r : Nat × MemoryStore}
    (h : s.set key value = .ok r) : ∃ path, key.encode = .ok path ∧ r = s.write path value := by
  unfold set at h
  rcases hk : key.encode with err | path
  · simp [hk, bind, Except.bind] at h
  · simp only [hk, bind, Except.bind, Except.ok.injEq] at h
    exact ⟨path, rfl, h.symm⟩

theorem createOnly_ok {s : MemoryStore} {key : Identity} {value : String} {r : Nat × MemoryStore}
    (h : s.createOnly key value = .ok r) : ∃ path, key.encode = .ok path ∧ r = s.write path value := by
  unfold createOnly at h
  rcases hk : key.encode with err | path
  · simp [hk, bind, Except.bind] at h
  · rcases hn : s.find? path with _ | n <;> simp [hk, hn, bind, Except.bind] at h
    exact ⟨path, rfl, h.symm⟩

theorem updateOnly_ok {s : MemoryStore} {key : Identity} {value : String} {e : Option Nat}
    {r : Nat × MemoryStore} (h : s.updateOnly key value e = .ok r) :
    ∃ path, key.encode = .ok path ∧ r = s.write path value := by
  unfold updateOnly at h
  rcases hk : key.encode with err | path
  · simp [hk, bind, Except.bind] at h
  · simp only [hk, bind, Except.bind] at h
    refine ⟨path, rfl, ?_⟩
    split at h
    · cases h
    · cases h
    · split at h
      · cases h
      · cases h
        rfl
    · cases h
      rfl

/-! ## When the conditional writes go through -/

/-- A compare-and-swap update goes through exactly when the key's node holds the expected
version. -/
theorem updateOnly_some_ok_iff {s : MemoryStore} {key : Identity} {value : String} {e : Nat} :
    (∃ r, s.updateOnly key value (some e) = .ok r) ↔
      ∃ path n, key.encode = .ok path ∧ s.find? path = some n ∧ n.version = e := by
  unfold updateOnly
  rcases hk : key.encode with err | path
  · simp [bind, Except.bind]
  · rcases hn : s.find? path with _ | n
    · simp [bind, Except.bind, hn]
    · by_cases hv : n.version = e <;> simp [bind, Except.bind, hn, hv]

/-- An update without an expected version goes through exactly when the key has a node. -/
theorem updateOnly_none_ok_iff {s : MemoryStore} {key : Identity} {value : String} :
    (∃ r, s.updateOnly key value none = .ok r) ↔
      ∃ path n, key.encode = .ok path ∧ s.find? path = some n := by
  unfold updateOnly
  rcases hk : key.encode with err | path
  · simp [bind, Except.bind]
  · rcases hn : s.find? path with _ | n <;> simp [bind, Except.bind, hn]

/-- A create-only write goes through exactly when the key has no node. -/
theorem createOnly_ok_iff {s : MemoryStore} {key : Identity} {value : String} :
    (∃ r, s.createOnly key value = .ok r) ↔ ∃ path, key.encode = .ok path ∧ s.find? path = none := by
  unfold createOnly
  rcases hk : key.encode with err | path
  · simp [bind, Except.bind]
  · rcases hn : s.find? path with _ | n <;> simp [bind, Except.bind, hn]

/-! ## One step of the store -/

/-- What one operation does to the nodes of a store: each path keeps its node or loses it, except
one path at most, which gets a node carrying the store's new revision. -/
def Step (m m' : MemoryStore) : Prop :=
  ∃ p, ∀ q, m'.find? q = m.find? q ∨ m'.find? q = none ∨
    q = p ∧ ∃ v, m'.find? q = some ⟨m'.revision, v⟩

theorem Step.refl (m : MemoryStore) : Step m m := ⟨"", fun _ => .inl rfl⟩

theorem Step.write (m : MemoryStore) (path value : String) : Step m (m.write path value).2 := by
  refine ⟨path, fun q => ?_⟩
  rw [find?_write]
  by_cases hq : q = path
  · exact .inr (.inr ⟨hq, value, by simp [hq]⟩)
  · exact .inl (if_neg hq)

theorem Step.of_dropped {m m' : MemoryStore} (h : ∀ q, m'.find? q = m.find? q ∨ m'.find? q = none) :
    Step m m' :=
  ⟨"", fun q => (h q).elim .inl fun h => .inr (.inl h)⟩

/-- The versions of a store are a clock: every node carries a version no greater than the
revision, and nodes at two paths carry two versions. -/
structure Fresh (m : MemoryStore) : Prop where
  version_le : ∀ p n, m.find? p = some n → n.version ≤ m.revision
  version_inj : ∀ p q n n', m.find? p = some n → m.find? q = some n' → n.version = n'.version → p = q

theorem fresh_empty : Fresh {} where
  version_le := by simp [find?]
  version_inj := by simp [find?]

/-- A store of one node whose version is no later than its revision has versions that are a clock. -/
theorem fresh_single {k : String} {n : Node} {r : Nat} {c : Bool} (h : n.version ≤ r) :
    Fresh ⟨[(k, n)], r, c, List.pairwise_singleton _ _⟩ where
  version_le q n' hq := by
    by_cases hk : k = q
    · simp only [find?, List.find?_cons, hk, beq_self_eq_true, Option.map_some,
        Option.some.injEq] at hq
      exact hq ▸ h
    · simp [find?, hk] at hq
  version_inj q q' n₁ n₂ h₁ h₂ _ := by
    by_cases hk : k = q <;> by_cases hk' : k = q' <;> simp_all [find?]

/-- A step that moves the revision on keeps the versions a clock: its new node, if any, carries a
version no other node has. -/
theorem Fresh.step {m m' : MemoryStore} (hf : Fresh m) (hs : Step m m') (hlt : m.revision < m'.revision) :
    Fresh m' := by
  obtain ⟨p, hp⟩ := hs
  constructor
  · intro q n hq
    rcases hp q with hkeep | hnone | ⟨-, v, hnew⟩
    · have := hf.version_le q n (hkeep ▸ hq)
      omega
    · simp [hnone] at hq
    · rw [hnew] at hq
      cases hq
      exact le_rfl
  · intro q₁ q₂ n₁ n₂ h₁ h₂ hv
    rcases hp q₁ with hk₁ | hn₁ | ⟨rfl, v₁, hw₁⟩ <;> rcases hp q₂ with hk₂ | hn₂ | ⟨hq₂, v₂, hw₂⟩
    · exact hf.version_inj q₁ q₂ n₁ n₂ (hk₁ ▸ h₁) (hk₂ ▸ h₂) hv
    · simp [hn₂] at h₂
    · have := hf.version_le q₁ n₁ (hk₁ ▸ h₁)
      rw [hw₂] at h₂
      cases h₂
      simp at hv
      omega
    · simp [hn₁] at h₁
    · simp [hn₁] at h₁
    · simp [hn₁] at h₁
    · have := hf.version_le q₂ n₂ (hk₂ ▸ h₂)
      rw [hw₁] at h₁
      cases h₁
      simp at hv
      omega
    · simp [hn₂] at h₂
    · exact hq₂.symm

/-! ## Operations -/

/-- An operation of the store's interface, with its arguments. -/
inductive Op where
  | get (key : Identity)
  | set (key : Identity) (value : String)
  | createOnly (key : Identity) (value : String)
  | updateOnly (key : Identity) (value : String) (expected : Option Nat)
  | delete (key : Identity)
  | deleteTree (key : Identity)
  | listChildren (key : Identity)
  | append (key : Identity) (value : String)
  | watch (key : Identity) (since : Option Nat)

namespace Op

/-- The store after an operation, or the operation's failure. -/
def apply : Op → MemoryStore → Except KvError MemoryStore
  | .get k, s => (s.get k).map fun _ => s
  | .set k v, s => (s.set k v).map (·.2)
  | .createOnly k v, s => (s.createOnly k v).map (·.2)
  | .updateOnly k v e, s => (s.updateOnly k v e).map (·.2)
  | .delete k, s => s.delete k
  | .deleteTree k, s => s.deleteTree k
  | .listChildren k, s => (s.listChildren k).map fun _ => s
  | .append k v, s => (s.append k v).map (·.2)
  | .watch k since, s => (s.watch k since).map fun _ => s

/-- Whether the operation writes or removes, and so takes a revision when it succeeds. -/
def bumps : Op → Bool
  | .set .. | .createOnly .. | .updateOnly .. | .delete _ | .deleteTree _ | .append .. => true
  | .get _ | .listChildren _ | .watch .. => false

/-- The key an operation writes or removes by name. -/
def target? : Op → Option Identity
  | .set k _ | .createOnly k _ | .updateOnly k _ _ | .delete k => some k
  | .get _ | .deleteTree _ | .listChildren _ | .append .. | .watch .. => none

/-- The store after the operation: a failed operation leaves it as it was. -/
def next (op : Op) (s : MemoryStore) : MemoryStore :=
  match op.apply s with
  | .ok s' => s'
  | .error _ => s

/-- The revisions an operation takes: one when it writes or removes and succeeds. -/
def increments (op : Op) (s : MemoryStore) : Nat :=
  match op.apply s with
  | .ok _ => if op.bumps then 1 else 0
  | .error _ => 0

/-- The program the engine runs for an operation on its store, the answer dropped. -/
def program : Op → KvM Unit
  | .get k => do let _ ← Kv.get k; pure ()
  | .set k v => do let _ ← Kv.set k v; pure ()
  | .createOnly k v => do let _ ← Kv.createOnly k v; pure ()
  | .updateOnly k v e => do let _ ← Kv.updateOnly k v e; pure ()
  | .delete k => Kv.delete k
  | .deleteTree k => Kv.deleteTree k
  | .listChildren k => do let _ ← Kv.listChildren k; pure ()
  | .append k v => do let _ ← Kv.append k v; pure ()
  | .watch k since => do let _ ← Kv.watch k since; pure ()

/-- Run on a memory store that no rival races, the program of an operation fails as the
operation does and leaves the store as the operation leaves it. -/
theorem program_run (op : Op) (m : MemoryStore) :
    op.program.run ⟨.memory m, []⟩ = ((op.apply m).map fun _ => (), ⟨.memory (op.next m), []⟩) := by
  cases op with
  | get k =>
    rcases h : m.get k with e | n <;>
      simp [program, apply, next, h, Kv.get, Kv.read, Backend.get, ExceptT.run, bind, ExceptT.bind,
        ExceptT.mk, ExceptT.bindCont, StateT.bind, pure, ExceptT.pure, StateT.pure, Except.map]
  | set k v =>
    rcases h : m.set k v with e | ⟨n, m'⟩ <;>
      simp [program, apply, next, h, Kv.set, Kv.write, Backend.set, Backend.onMemory, ExceptT.run,
        bind, ExceptT.bind, ExceptT.mk, ExceptT.bindCont, StateT.bind, pure, ExceptT.pure,
        StateT.pure, Except.map]
  | createOnly k v =>
    rcases h : m.createOnly k v with e | ⟨n, m'⟩ <;>
      simp [program, apply, next, h, Kv.createOnly, Kv.write, Backend.createOnly, Backend.onMemory,
        ExceptT.run, bind, ExceptT.bind, ExceptT.mk, ExceptT.bindCont, StateT.bind, pure,
        ExceptT.pure, StateT.pure, Except.map]
  | updateOnly k v e =>
    have hrace : ∀ path, Store.race ⟨.memory m, []⟩ k path = (.ok (), ⟨.memory m, []⟩) := fun _ => rfl
    rcases h : m.updateOnly k v e with err | ⟨n, m'⟩ <;> rcases e with _ | e <;>
      rcases hk : k.encode with _ | path <;>
      simp [program, apply, next, h, hk, hrace, Kv.updateOnly, Kv.write, Backend.updateOnly,
        Backend.onMemory, ExceptT.run, bind, ExceptT.bind, ExceptT.mk, ExceptT.bindCont,
        StateT.bind, pure, ExceptT.pure, StateT.pure, Except.map]
  | delete k =>
    rcases h : m.delete k with e | m' <;>
      simp [program, apply, next, h, Kv.delete, Kv.write, Backend.delete, Backend.onMemory,
        ExceptT.run, Except.map]
  | deleteTree k =>
    rcases h : m.deleteTree k with e | m' <;>
      simp [program, apply, next, h, Kv.deleteTree, Kv.write, Backend.deleteTree, Backend.onMemory,
        ExceptT.run, Except.map]
  | listChildren k =>
    rcases h : m.listChildren k with e | n <;>
      simp [program, apply, next, h, Kv.listChildren, Kv.read, Backend.listChildren, ExceptT.run,
        bind, ExceptT.bind, ExceptT.mk, ExceptT.bindCont, StateT.bind, pure, ExceptT.pure,
        StateT.pure, Except.map]
  | append k v =>
    rcases h : m.append k v with e | ⟨n, m'⟩ <;>
      simp [program, apply, next, h, Kv.append, Kv.write, Backend.append, Backend.onMemory,
        ExceptT.run, bind, ExceptT.bind, ExceptT.mk, ExceptT.bindCont, StateT.bind, pure,
        ExceptT.pure, StateT.pure, Except.map]
  | watch k since =>
    rcases h : m.watch k since with e | n <;>
      simp [program, apply, next, h, Kv.watch, Kv.read, Backend.watch, ExceptT.run, bind,
        ExceptT.bind, ExceptT.mk, ExceptT.bindCont, StateT.bind, pure, ExceptT.pure, StateT.pure,
        Except.map]

/-- A failed operation answers its failure and leaves a memory store that no rival races as it
was. -/
theorem program_error {op : Op} {m : MemoryStore} {err : KvError} (h : op.apply m = .error err) :
    op.program.run ⟨.memory m, []⟩ = (.error err, ⟨.memory m, []⟩) := by
  rw [program_run, h]
  simp [next, h, Except.map]

variable {op : Op} {m m' : MemoryStore}

/-- A successful operation is one step of the store. The revision moves on, up to its ceiling,
when the operation writes or removes; an operation that does neither leaves the store as it
was. -/
theorem step_apply (h : op.apply m = .ok m') :
    Step m m' ∧ m'.revision = (if op.bumps then min (m.revision + 1) revisionBound else m.revision) ∧
      (op.bumps = false → m' = m) := by
  cases op with
  | get k =>
    rcases hr : m.get k with e | n <;> simp [apply, hr, Except.map] at h
    subst h
    exact ⟨Step.refl _, by simp [bumps], fun _ => rfl⟩
  | set k v =>
    rcases hr : m.set k v with e | r <;> simp [apply, hr, Except.map] at h
    obtain ⟨path, -, rfl⟩ := set_ok hr
    subst h
    exact ⟨Step.write m path v, by simp [bumps], by simp [bumps]⟩
  | createOnly k v =>
    rcases hr : m.createOnly k v with e | r <;> simp [apply, hr, Except.map] at h
    obtain ⟨path, -, rfl⟩ := createOnly_ok hr
    subst h
    exact ⟨Step.write m path v, by simp [bumps], by simp [bumps]⟩
  | updateOnly k v e =>
    rcases hr : m.updateOnly k v e with err | r <;> simp [apply, hr, Except.map] at h
    obtain ⟨path, -, rfl⟩ := updateOnly_ok hr
    subst h
    exact ⟨Step.write m path v, by simp [bumps], by simp [bumps]⟩
  | delete k =>
    have hd : m.delete k = .ok m' := h
    rcases hk : k.encode with err | path
    · simp [MemoryStore.delete, hk, bind, Except.bind] at hd
    · refine ⟨Step.of_dropped fun q => ?_, by simp [bumps, revision_delete hd], by simp [bumps]⟩
      rw [find?_delete hk hd]
      by_cases hq : q = path <;> simp [hq]
  | deleteTree k =>
    have hd : m.deleteTree k = .ok m' := h
    obtain ⟨root, -, hrev, hfind⟩ := find?_deleteTree hd
    refine ⟨Step.of_dropped fun q => ?_, by simp [bumps, hrev], by simp [bumps]⟩
    rw [hfind]
    by_cases hq : underRoot root q <;> simp [hq]
  | listChildren k =>
    rcases hr : m.listChildren k with e | n <;> simp [apply, hr, Except.map] at h
    subst h
    exact ⟨Step.refl _, by simp [bumps], fun _ => rfl⟩
  | append k v =>
    rcases hr : m.append k v with e | ⟨r, s⟩ <;> simp [apply, hr, Except.map] at h
    obtain ⟨root, -, rfl⟩ := append_eq_write hr
    subst h
    exact ⟨Step.write m _ v, by simp [bumps], by simp [bumps]⟩
  | watch k since =>
    rcases hr : m.watch k since with e | n <;> simp [apply, hr, Except.map] at h
    subst h
    exact ⟨Step.refl _, by simp [bumps], fun _ => rfl⟩

/-- Below the ceiling, a successful operation takes the next revision when it writes or removes,
and leaves the revision otherwise. -/
theorem revision_apply (hroom : m.revision < revisionBound) (h : op.apply m = .ok m') :
    m'.revision = if op.bumps then m.revision + 1 else m.revision := by
  rw [(step_apply h).2.1]
  split <;> omega

/-- With room for its revision, the store after an operation has its revision moved on by the
revisions the operation takes. -/
theorem revision_next (hroom : m.revision + op.increments m ≤ revisionBound) :
    (op.next m).revision = m.revision + op.increments m := by
  unfold next increments at *
  rcases h : op.apply m with e | m'
  · rfl
  · simp only [h] at hroom ⊢
    rw [(step_apply h).2.1]
    split <;> split at hroom <;> omega

/-- With room for its revision, an operation keeps the versions a clock. -/
theorem fresh_next (hf : Fresh m) (hroom : m.revision + op.increments m ≤ revisionBound) :
    Fresh (op.next m) := by
  unfold next
  rcases h : op.apply m with e | m'
  · exact hf
  · show Fresh m'
    obtain ⟨hs, hrev, hsame⟩ := step_apply h
    cases hb : op.bumps
    · rw [hsame hb]
      exact hf
    · -- a write or a removal with room takes a revision above every version there
      have hinc : op.increments m = 1 := by simp [increments, h, hb]
      rw [hb, if_pos rfl] at hrev
      exact hf.step hs (by omega)

/-- A successful operation on one key writes a value at the key's path, or finds a node there
and removes it. -/
theorem apply_of_target {key : Identity} {path : String} (ht : op.target? = some key)
    (hkey : key.encode = .ok path) (h : op.apply m = .ok m') :
    (∃ value, m' = (m.write path value).2) ∨
      (m.find? path ≠ none ∧ m' = { m.bump with
        nodes := m.nodes.filter (·.1 != path)
        sorted := m.sorted_filter _ }) := by
  cases op with
  | set k v =>
    cases ht
    rcases hr : m.set key v with e | r <;> simp [apply, hr, Except.map] at h
    obtain ⟨path', hk', rfl⟩ := set_ok hr
    rw [hkey] at hk'
    cases hk'
    exact .inl ⟨v, h.symm⟩
  | createOnly k v =>
    cases ht
    rcases hr : m.createOnly key v with e | r <;> simp [apply, hr, Except.map] at h
    obtain ⟨path', hk', rfl⟩ := createOnly_ok hr
    rw [hkey] at hk'
    cases hk'
    exact .inl ⟨v, h.symm⟩
  | updateOnly k v e =>
    cases ht
    rcases hr : m.updateOnly key v e with err | r <;> simp [apply, hr, Except.map] at h
    obtain ⟨path', hk', rfl⟩ := updateOnly_ok hr
    rw [hkey] at hk'
    cases hk'
    exact .inl ⟨v, h.symm⟩
  | delete k =>
    cases ht
    have hd : m.delete key = .ok m' := h
    rcases hf : m.find? path with _ | n <;> simp [MemoryStore.delete, hkey, hf, bind, Except.bind] at hd
    exact .inr ⟨by simp, hd.symm⟩
  | get _ | deleteTree _ | listChildren _ | append _ _ | watch _ _ => cases ht

/-- Below the ceiling, a successful operation that writes or removes a key by name changes the
node at the key's path: a write puts there a version no node had, a removal finds a node to
remove. -/
theorem find?_apply_ne_of_target (hf : Fresh m) (hroom : m.revision < revisionBound) {key : Identity}
    {path : String} (ht : op.target? = some key) (hkey : key.encode = .ok path)
    (h : op.apply m = .ok m') : m'.find? path ≠ m.find? path := by
  rcases apply_of_target ht hkey h with ⟨value, rfl⟩ | ⟨hfound, rfl⟩
  · -- the node a write leaves at its path carries the new revision, which no node of `m` carries
    rw [find?_write, if_pos rfl]
    intro heq
    have := hf.version_le path _ heq.symm
    simp at this
    omega
  · show ((m.nodes.filter (·.1 != path)).find? (·.1 == path)).map (·.2) ≠ m.find? path
    rw [find?_filter_ne, if_pos rfl]
    exact fun h => hfound h.symm

end Op

/-! ## Runs -/

/-- The store after a run of operations. -/
def run (m : MemoryStore) (ops : List Op) : MemoryStore := ops.foldl (fun m op => op.next m) m

/-- The revisions a run takes: one for each write or removal that succeeds. -/
def increments : MemoryStore → List Op → Nat
  | _, [] => 0
  | m, op :: ops => op.increments m + increments (op.next m) ops

@[simp] theorem run_nil (m : MemoryStore) : run m [] = m := rfl

@[simp] theorem run_cons (m : MemoryStore) (op : Op) (ops : List Op) :
    run m (op :: ops) = run (op.next m) ops := rfl

theorem run_append (m : MemoryStore) (ops ops' : List Op) :
    run m (ops ++ ops') = run (run m ops) ops' := List.foldl_append

theorem increments_append (m : MemoryStore) (ops ops' : List Op) :
    increments m (ops ++ ops') = increments m ops + increments (run m ops) ops' := by
  induction ops generalizing m with
  | nil => simp [increments]
  | cons op ops ih =>
    simp only [List.cons_append, increments, ih, run_cons]
    omega

/-- A run with room for its revisions keeps the versions a clock, and moves the revision on by
the writes and removals that succeed. -/
theorem Fresh.run {m : MemoryStore} (hf : Fresh m) {ops : List Op}
    (hroom : m.revision + increments m ops ≤ revisionBound) :
    Fresh (MemoryStore.run m ops) ∧ (MemoryStore.run m ops).revision = m.revision + increments m ops := by
  induction ops generalizing m with
  | nil => exact ⟨hf, rfl⟩
  | cons op ops ih =>
    simp only [increments] at hroom
    have hnext : (op.next m).revision = m.revision + op.increments m := by
      apply Op.revision_next
      omega
    have hf' : Fresh (op.next m) := by
      apply Op.fresh_next hf
      omega
    obtain ⟨hf'', hrev⟩ := ih hf' (by omega)
    refine ⟨hf'', ?_⟩
    rw [run_cons, hrev, hnext]
    simp only [increments]
    omega

/-! ## No ABA -/

/-- A version is past at a path: the revision has moved beyond it, and the node at the path, if
any, was written after it. -/
def Past (e : Nat) (p : String) (m : MemoryStore) : Prop :=
  e < m.revision ∧ ∀ n, m.find? p = some n → e < n.version

/-- Once past, a version stays past: every later node at the path is written at a later revision. -/
theorem Past.next {e : Nat} {p : String} {m : MemoryStore} (h : Past e p m) (op : Op)
    (hroom : m.revision ≤ revisionBound) : Past e p (op.next m) := by
  unfold Op.next
  rcases ha : op.apply m with err | m'
  · exact h
  · show Past e p m'
    obtain ⟨⟨q, hq⟩, hrev, -⟩ := Op.step_apply ha
    have hle : m.revision ≤ m'.revision := by rw [hrev]; split <;> omega
    have hpast := h.1
    refine ⟨by omega, fun n hn => ?_⟩
    rcases hq p with hkeep | hnone | ⟨-, v, hnew⟩
    · exact h.2 n (hkeep ▸ hn)
    · simp [hnone] at hn
    · rw [hnew] at hn
      cases hn
      simp only
      omega

theorem Past.run {e : Nat} {p : String} {m : MemoryStore} (h : Past e p m) {ops : List Op}
    (hroom : m.revision + increments m ops ≤ revisionBound) : Past e p (MemoryStore.run m ops) := by
  induction ops generalizing m with
  | nil => exact h
  | cons op ops ih =>
    simp only [increments] at hroom
    have hnext : (op.next m).revision = m.revision + op.increments m := by
      apply Op.revision_next
      omega
    rw [run_cons]
    exact ih (h.next op (by omega)) (by omega)

/-- An operation that changes the node at a path makes every version up to the revision past
there. -/
theorem Op.past_next {op : Op} {m : MemoryStore} {e : Nat} {p : String}
    (hroom : m.revision + op.increments m ≤ revisionBound) (he : e ≤ m.revision)
    (hchanged : (op.next m).find? p ≠ m.find? p) : Past e p (op.next m) := by
  unfold Op.next at *
  rcases ha : op.apply m with err | m'
  · simp [ha] at hchanged
  · simp only [ha] at hchanged ⊢
    obtain ⟨⟨q, hq⟩, hrev, hsame⟩ := Op.step_apply ha
    cases hb : op.bumps
    · exact absurd (by rw [hsame hb]) hchanged
    · -- a write or a removal with room takes the next revision
      have hinc : op.increments m = 1 := by simp [Op.increments, ha, hb]
      rw [hb, if_pos rfl] at hrev
      refine ⟨by omega, fun n hn => ?_⟩
      rcases hq p with hkeep | hnone | ⟨-, v, hnew⟩
      · exact absurd hkeep hchanged
      · simp [hnone] at hn
      · rw [hnew] at hn
        cases hn
        simp only
        omega

/-- A compare-and-swap update against a version that is past fails. -/
theorem updateOnly_of_past {m : MemoryStore} {key : Identity} {p : String} {e : Nat}
    (hkey : key.encode = .ok p) (h : Past e p m) (value : String) :
    ¬ ∃ r, m.updateOnly key value (some e) = .ok r := by
  rw [updateOnly_some_ok_iff]
  rintro ⟨path, n, hk, hn, rfl⟩
  rw [hkey] at hk
  cases hk
  have := h.2 n hn
  omega

/-- No operation of a run from a store changes the node at a path. -/
def Untouched (p : String) : MemoryStore → List Op → Prop
  | _, [] => True
  | m, op :: ops => (op.next m).find? p = m.find? p ∧ Untouched p (op.next m) ops

instance Untouched.decidable (p : String) :
    (m : MemoryStore) → (ops : List Op) → Decidable (Untouched p m ops)
  | _, [] => isTrue trivial
  | m, op :: ops =>
    have := Untouched.decidable p (op.next m) ops
    inferInstanceAs (Decidable (_ ∧ _))

theorem find?_run_of_untouched {p : String} {m : MemoryStore} {ops : List Op}
    (h : Untouched p m ops) : (run m ops).find? p = m.find? p := by
  induction ops generalizing m with
  | nil => rfl
  | cons op ops ih =>
    obtain ⟨hop, hrest⟩ := h
    rw [run_cons, ih hrest, hop]

/-- When some operation of a run changes the node at a path, every version up to the revision
the run started at is past there at its end. -/
theorem past_run_of_touched {p : String} {m : MemoryStore} {ops : List Op} {e : Nat}
    (hroom : m.revision + increments m ops ≤ revisionBound) (he : e ≤ m.revision)
    (h : ¬ Untouched p m ops) : Past e p (run m ops) := by
  induction ops generalizing m with
  | nil => exact absurd trivial h
  | cons op ops ih =>
    simp only [increments] at hroom
    have hnext : (op.next m).revision = m.revision + op.increments m := by
      apply Op.revision_next
      omega
    rw [run_cons]
    by_cases hop : (op.next m).find? p = m.find? p
    · -- the change comes later in the run
      exact ih (by omega) (by omega) fun hrest => h ⟨hop, hrest⟩
    · exact (Op.past_next (by omega) he hop).run (by omega)

/-- A compare-and-swap update against the version a key's node had at the start of a run goes
through at its end exactly when no operation of the run changed that node. -/
theorem updateOnly_run_ok_iff {m : MemoryStore} (hf : Fresh m) {ops : List Op}
    (hroom : m.revision + increments m ops ≤ revisionBound) {key : Identity} {p : String}
    (hkey : key.encode = .ok p) {n : Node} (hn : m.find? p = some n) (value : String) :
    (∃ r, (run m ops).updateOnly key value (some n.version) = .ok r) ↔ Untouched p m ops := by
  constructor
  · intro hok
    by_contra htouched
    exact updateOnly_of_past hkey
      (past_run_of_touched hroom (hf.version_le p n hn) htouched) value hok
  · intro huntouched
    rw [updateOnly_some_ok_iff]
    exact ⟨p, n, hkey, (find?_run_of_untouched huntouched).trans hn, rfl⟩

/-! ## The compare-and-swap substrate -/

/-- Along every run of the in-memory store from empty that takes fewer revisions than the
counter's ceiling: the versions are a clock and the revision counts the writes and removals; a
further successful operation takes the next revision exactly when it writes or removes, and one
that writes or removes a key by name changes its node; a compare-and-swap against the version a
key held at an earlier point goes through exactly when nothing since changed the key's node, so
a key removed and written again refuses its old version. In every store, a compare-and-swap goes
through exactly when the key holds the expected version, a create-only write exactly when the
key is absent, and an update without a version exactly when the key is present. A failed
operation answers its failure and leaves the store as it was. -/
theorem fresh_versions_make_cas_exact (ops : List Op) (hfew : increments {} ops < revisionBound) :
    (Fresh (run {} ops) ∧ (run {} ops).revision = increments {} ops) ∧
    (∀ (op : Op) (m' : MemoryStore), op.apply (run {} ops) = .ok m' →
      m'.revision = (if op.bumps then (run {} ops).revision + 1 else (run {} ops).revision) ∧
        (op.bumps = false → m' = run {} ops)) ∧
    (∀ (op : Op) (key : Identity) (p : String) (m' : MemoryStore), op.target? = some key →
      key.encode = .ok p → op.apply (run {} ops) = .ok m' →
      m'.find? p ≠ (run {} ops).find? p) ∧
    (∀ (pre between : List Op) (key : Identity) (p : String) (n : Node) (value : String),
      ops = pre ++ between → key.encode = .ok p →
      (run {} pre).find? p = some n →
      ((∃ m', (Op.updateOnly key value (some n.version)).apply (run {} ops) = .ok m') ↔
        Untouched p (run {} pre) between)) ∧
    (∀ (m : MemoryStore) (key : Identity) (value : String) (e : Nat),
      (∃ r, m.updateOnly key value (some e) = .ok r) ↔
      ∃ p n, key.encode = .ok p ∧ m.find? p = some n ∧ n.version = e) ∧
    (∀ (m : MemoryStore) (key : Identity) (value : String), (∃ r, m.createOnly key value = .ok r) ↔
      ∃ p, key.encode = .ok p ∧ m.find? p = none) ∧
    (∀ (m : MemoryStore) (key : Identity) (value : String), (∃ r, m.updateOnly key value none = .ok r) ↔
      ∃ p n, key.encode = .ok p ∧ m.find? p = some n) ∧
    (∀ (op : Op) (m : MemoryStore) (err : KvError), op.apply m = .error err →
      op.program.run ⟨.memory m, []⟩ = (.error err, ⟨.memory m, []⟩)) := by
  have hrun : Fresh (run {} ops) ∧ (run {} ops).revision = 0 + increments {} ops :=
    fresh_empty.run (by simp; omega)
  simp only [zero_add] at hrun
  obtain ⟨hf, hrev⟩ := hrun
  have hroom : (run {} ops).revision < revisionBound := by rw [hrev]; exact hfew
  refine ⟨⟨hf, hrev⟩, fun op m' h => ⟨Op.revision_apply hroom h, (Op.step_apply h).2.2⟩,
    fun op key p m' ht hk h => Op.find?_apply_ne_of_target hf hroom ht hk h, ?_,
    fun _ _ _ _ => updateOnly_some_ok_iff, fun _ _ _ => createOnly_ok_iff,
    fun _ _ _ => updateOnly_none_ok_iff, fun _ _ _ h => Op.program_error h⟩
  intro pre between key p n value hsplit hkey hn
  subst hsplit
  rw [increments_append] at hfew
  have hpre : Fresh (run {} pre) ∧ (run {} pre).revision = 0 + increments {} pre :=
    fresh_empty.run (by simp; omega)
  simp only [zero_add] at hpre
  have hiff := updateOnly_run_ok_iff hpre.1 (by rw [hpre.2]; exact Nat.le_of_lt hfew) hkey hn value
  rw [← hiff, run_append]
  simp only [Op.apply, Except.map]
  constructor
  · rintro ⟨m', hm'⟩
    split at hm'
    · cases hm'
    · exact ⟨_, by assumption⟩
  · rintro ⟨r, hr⟩
    exact ⟨r.2, by rw [hr]⟩

/-- A key written, removed and written again refuses the version it had first: a compare-and-swap
against it fails, although the key holds a node again. -/
theorem recreated_key_refuses_first_version :
    increments {} [.set ⟨["a"]⟩ "1", .delete ⟨["a"]⟩, .createOnly ⟨["a"]⟩ "2"] < revisionBound ∧
      ¬ ∃ m', (Op.updateOnly ⟨["a"]⟩ "3" (some 1)).apply
        (run {} [.set ⟨["a"]⟩ "1", .delete ⟨["a"]⟩, .createOnly ⟨["a"]⟩ "2"]) = .ok m' := by
  have hfew : increments {} [.set ⟨["a"]⟩ "1", .delete ⟨["a"]⟩, .createOnly ⟨["a"]⟩ "2"] <
      revisionBound := by decide
  refine ⟨hfew, ?_⟩
  have h := (fresh_versions_make_cas_exact _ hfew).2.2.2.1 [.set ⟨["a"]⟩ "1"]
    [.delete ⟨["a"]⟩, .createOnly ⟨["a"]⟩ "2"] ⟨["a"]⟩ "a" ⟨1, "1"⟩ "3" rfl (by decide) (by decide)
  rw [h]
  decide

end MemoryStore

end MapReduce
