import MapReduce.Proofs.Engine.Completion
import MapReduce.Engine.Lifecycle
import Mathlib

/-! # What the engine's programs leave alone

Most of what the engine does while it handles a message or submits a request touches neither the
stored entities nor the broker: the datasets of invocations are queues below `queues`, relations,
sessions and claims are trees below `entity_trees`, and files, notifications, identifiers and
rendered results live outside the store. A path starts with its first segment, so a node written
below another root is never an entity's (`Identity.encode_ne_of_head_ne`).

`Apart` says this of a store program and `Inert` of an engine program: run from a memory store
that nobody races, with its revision within its ceiling, it keeps every entity's node and the
broker, and moves the revision only forward, however it ends. Both are closed under the ways
programs are put together, so the handlers' scripts, the combining of pairs, the merging of a
fan-out's results and the waiting for a result are inert because every step of them is. -/

namespace MapReduce

namespace Identity

/-- After its first segment, the joined segments go on with a `/` or end. -/
theorem display_cons_toList (a : String) (rest : List String) :
    ∃ t : List Char, (display ⟨a :: rest⟩).toList = a.toList ++ t ∧ ∀ c ∈ t.head?, c = '/' := by
  cases rest with
  | nil => exact ⟨[], by simp [display], by simp⟩
  | cons b bs =>
    refine ⟨'/' :: ("/".intercalate (b :: bs)).toList, ?_, by simp⟩
    simp [display, String.intercalate_cons_of_ne_nil, String.toList_append]

/-- No segment of an identity that has a path holds a `/`. -/
theorem slash_not_mem_of_encode {segs : List String} {p : String} (h : (Identity.mk segs).encode = .ok p)
    {a : String} (ha : a ∈ segs) : '/' ∉ a.toList := by
  intro hc
  have hv := validateSegment_of_encode h ha
  have hany : a.toList.any (fun c => c = '/' || c = '-') = true :=
    List.any_eq_true.mpr ⟨'/', hc, by simp⟩
  simp only [validateSegment, hany, if_true] at hv
  split at hv <;> cases hv

/-- The first segment of a path is what comes before its first `/`, also when more text
starting with a `/` follows the path. -/
theorem takeWhile_encode {a : String} {rest : List String} {p : String}
    (h : (Identity.mk (a :: rest)).encode = .ok p) {s : List Char} (hs : ∀ c ∈ s.head?, c = '/') :
    (p.toList ++ s).takeWhile (· != '/') = a.toList := by
  have hslash := slash_not_mem_of_encode h List.mem_cons_self
  have hp : p = display ⟨a :: rest⟩ := by
    unfold encode at h
    split at h
    · cases h
    · cases h; rfl
  obtain ⟨t, ht, hhead⟩ := display_cons_toList a rest
  rw [hp, ht, List.append_assoc, List.takeWhile_append_of_pos]
  · have hrest : (t ++ s).takeWhile (· != '/') = [] := by
      cases t with
      | nil =>
        cases s with
        | nil => rfl
        | cons c cs => simp at hs; simp [hs]
      | cons c cs => simp at hhead; simp [hhead]
    rw [hrest, List.append_nil]
  · intro c hc
    have : c ≠ '/' := fun h => hslash (h ▸ hc)
    simpa using this

/-- Paths of identities with different first segments differ, also from every path below the
other one. -/
theorem encode_ne_of_head_ne {a b : String} {r r' : List String} {p q : String}
    (hp : (Identity.mk (a :: r)).encode = .ok p) (hq : (Identity.mk (b :: r')).encode = .ok q)
    (hab : a ≠ b) {s : List Char} (hs : ∀ c ∈ s.head?, c = '/') : p.toList ≠ q.toList ++ s := by
  intro h
  have h1 := takeWhile_encode hp (s := []) (by simp)
  have h2 := takeWhile_encode hq hs
  rw [List.append_nil, h] at h1
  exact hab (String.toList_inj.mp (h1.symm.trans h2))

end Identity

namespace MemoryStore

/-- Two memory stores hold the same node at every path of an entity. -/
def SameEntities (m m' : MemoryStore) : Prop :=
  ∀ (rest : List String) (p : String), (Identity.mk (Identity.entityRoot :: rest)).encode = .ok p →
    m'.find? p = m.find? p

theorem SameEntities.refl (m : MemoryStore) : m.SameEntities m := fun _ _ _ => rfl

theorem SameEntities.trans {m₁ m₂ m₃ : MemoryStore} (h₁ : m₁.SameEntities m₂) (h₂ : m₂.SameEntities m₃) :
    m₁.SameEntities m₃ := fun rest p hp => (h₂ rest p hp).trans (h₁ rest p hp)

/-- A write moves the revision forward within its ceiling. -/
theorem revision_le_write (m : MemoryStore) (hm : m.revision ≤ revisionBound) (path value : String) :
    m.revision ≤ (m.write path value).2.revision ∧ (m.write path value).2.revision ≤ revisionBound := by
  simp only [revision_write]
  omega

end MemoryStore

namespace Store

/-- A store on memory that nobody races, its revision within its ceiling. -/
def Bounded (s : Store) : Prop := ∃ m : MemoryStore, s = ⟨.memory m, []⟩ ∧ m.revision ≤ MemoryStore.revisionBound

/-- A later store on memory that nobody races keeps every entity's node, its revision moved only
forward within its ceiling. -/
def Aside (s s' : Store) : Prop :=
  ∃ m m' : MemoryStore, s = ⟨.memory m, []⟩ ∧ s' = ⟨.memory m', []⟩ ∧ m.revision ≤ m'.revision ∧
    m'.revision ≤ MemoryStore.revisionBound ∧ m.SameEntities m'

theorem Aside.refl {s : Store} (hs : s.Bounded) : s.Aside s := by
  obtain ⟨m, rfl, hm⟩ := hs
  exact ⟨m, m, rfl, rfl, le_rfl, hm, .refl m⟩

theorem Aside.bounded {s s' : Store} (h : s.Aside s') : s'.Bounded := by
  obtain ⟨_, m', _, rfl, _, hm', _⟩ := h
  exact ⟨m', rfl, hm'⟩

theorem Aside.trans {s₁ s₂ s₃ : Store} (h₁ : s₁.Aside s₂) (h₂ : s₂.Aside s₃) : s₁.Aside s₃ := by
  obtain ⟨m₁, m₂, rfl, rfl, hle₁, -, hs₁⟩ := h₁
  obtain ⟨m₂', m₃, hm, rfl, hle₂, hb₃, hs₂⟩ := h₂
  cases hm
  exact ⟨m₁, m₃, rfl, rfl, hle₁.trans hle₂, hb₃, hs₁.trans hs₂⟩

end Store

/-! ## Programs that leave entities alone -/

/-- A store program that, from a bounded store, keeps every entity's node however it ends. -/
def Apart {ε α : Type} (prog : ExceptT ε (StateM Store) α) : Prop :=
  ∀ s : Store, s.Bounded → s.Aside (prog.run s).2

namespace Apart

variable {ε : Type}

theorem of_quiet {α : Type} {prog : ExceptT ε (StateM Store) α} (h : Quiet prog) : Apart prog := by
  intro s hs
  rw [h s]
  exact .refl hs

theorem pure {α : Type} (a : α) : Apart (Pure.pure a : ExceptT ε (StateM Store) α) :=
  of_quiet (Quiet.pure a)

theorem bind {α β : Type} {m : ExceptT ε (StateM Store) α} {f : α → ExceptT ε (StateM Store) β}
    (hm : Apart m) (hf : ∀ a, Apart (f a)) : Apart (m >>= f) := by
  intro s hs
  have h₁ := hm s hs
  rcases h : m.run s with ⟨r, s₁⟩
  rw [h] at h₁
  cases r with
  | ok a => rw [run_bind_ok h]; exact h₁.trans (hf a s₁ h₁.bounded)
  | error e => rw [run_bind_error h]; exact h₁

theorem adapt {ε' α : Type} (f : ε → ε') {m : ExceptT ε (StateM Store) α} (hm : Apart m) :
    Apart (ExceptT.adapt f m) :=
  fun s hs => hm s hs

end Apart

/-! ## Store operations below the other roots -/

theorem Store.aside_write {r : String} {rest : List String} {q path : String}
    (hr : r ≠ Identity.entityRoot) (hq : (Identity.mk (r :: rest)).encode = .ok q)
    (hpath : ∃ s : List Char, path.toList = q.toList ++ s ∧ ∀ c ∈ s.head?, c = '/')
    {m : MemoryStore} (hm : m.revision ≤ MemoryStore.revisionBound) (value : String) :
    Store.Aside ⟨.memory m, []⟩ ⟨.memory (m.write path value).2, []⟩ := by
  obtain ⟨s, hs, hhead⟩ := hpath
  refine ⟨m, _, rfl, rfl, (m.revision_le_write hm path value).1, (m.revision_le_write hm path value).2, ?_⟩
  intro rest' p hp
  rw [MemoryStore.find?_write, if_neg]
  intro hpq
  apply Identity.encode_ne_of_head_ne hp hq (Ne.symm hr) hhead
  rw [hpq, hs]

namespace Kv

theorem read_quiet {α : Type} (f : Backend → Except KvError α) : Quiet (read f) := fun _ => rfl

theorem liftExcept_quiet {α : Type} (x : Except KvError α) : Quiet (liftExcept x) := fun _ => rfl

theorem getAs_apart {β : Type} (dec : Json → Except String β) (key : Identity) : Apart (getAs dec key) :=
  Apart.of_quiet (getAs_quiet dec key)

theorem listAs_apart {β : Type} (dec : Json → Except String β) (key : Identity) : Apart (listAs dec key) :=
  Apart.of_quiet (Quiet.bind (read_quiet _) fun _ => liftExcept_quiet _)

theorem watchAs_apart {β : Type} (dec : Json → Except String β) (key : Identity) (since : Option Nat) :
    Apart (watchAs dec key since) :=
  Apart.of_quiet (Quiet.bind (read_quiet _) fun _ => Quiet.bind (liftExcept_quiet _) fun _ => Quiet.pure _)

theorem set_apart (r : String) (rest : List String) (hr : r ≠ Identity.entityRoot) (value : String) : Apart (set ⟨r :: rest⟩ value) := by
  rintro s ⟨m, rfl, hm⟩
  rcases hk : (Identity.mk (r :: rest)).encode with err | q
  · rw [set_memory_error hk]
    exact .refl ⟨m, rfl, hm⟩
  · rw [set_memory hk]
    exact Store.aside_write hr hk ⟨[], by simp, by simp⟩ hm value

theorem createOnly_apart (r : String) (rest : List String) (hr : r ≠ Identity.entityRoot) (value : String) :
    Apart (createOnly ⟨r :: rest⟩ value) := by
  rintro s ⟨m, rfl, hm⟩
  rcases hk : (Identity.mk (r :: rest)).encode with err | q
  · simp only [createOnly, write, ExceptT.run, Backend.createOnly, MemoryStore.createOnly, hk, bind,
      Except.bind, Backend.onMemory]
    exact .refl ⟨m, rfl, hm⟩
  · rcases hf : m.find? q with _ | n
    · simp only [createOnly, write, ExceptT.run, Backend.createOnly, MemoryStore.createOnly, hk, hf,
        bind, Except.bind, Backend.onMemory]
      exact Store.aside_write hr hk ⟨[], by simp, by simp⟩ hm value
    · simp only [createOnly, write, ExceptT.run, Backend.createOnly, MemoryStore.createOnly, hk, hf,
        bind, Except.bind, Backend.onMemory]
      exact .refl ⟨m, rfl, hm⟩

theorem append_apart (r : String) (rest : List String) (hr : r ≠ Identity.entityRoot) (value : String) : Apart (append ⟨r :: rest⟩ value) := by
  rintro s ⟨m, rfl, hm⟩
  rcases ha : m.append ⟨r :: rest⟩ value with err | ⟨res, m'⟩
  · simp only [append, write, ExceptT.run, Backend.append, ha, Backend.onMemory]
    exact .refl ⟨m, rfl, hm⟩
  · simp only [append, write, ExceptT.run, Backend.append, ha, Backend.onMemory]
    obtain ⟨root, hroot, rfl⟩ := MemoryStore.append_eq_write ha
    exact Store.aside_write hr hroot ⟨'/' :: (inOrderName m.bump.revision).toList,
      by simp [String.toList_append], by simp⟩ hm value

end Kv

theorem liftKv_apart {α : Type} {m : KvM α} (hm : Apart m) : Apart (liftKv m) := Apart.adapt _ hm

theorem queueRoot_ne : Identity.queueRoot ≠ Identity.entityRoot := by decide

theorem treeRoot_ne : Identity.treeRoot ≠ Identity.entityRoot := by decide

namespace Queue

theorem add_apart (id : Identity) (v : Json) : Apart ((Queue.ofIdentity id).add v) :=
  Apart.bind (Kv.append_apart Identity.queueRoot id.segments queueRoot_ne _) fun _ => Apart.pure _

theorem listWithNames_apart (q : Queue) : Apart q.listWithNames :=
  Apart.bind (Kv.listAs_apart _ _) fun _ => Apart.pure _

theorem list_apart (q : Queue) : Apart q.list :=
  Apart.bind (listWithNames_apart q) fun _ => Apart.pure _

end Queue

namespace Tree

theorem add_apart (id : Identity) (name : String) (v : Json) : Apart ((Tree.ofIdentity id).add name v) :=
  Kv.createOnly_apart Identity.treeRoot _ treeRoot_ne _

theorem set_apart (id : Identity) (name : String) (v : Json) : Apart ((Tree.ofIdentity id).set name v) :=
  Kv.set_apart Identity.treeRoot _ treeRoot_ne _

theorem get_apart (t : Tree) (name : String) : Apart (t.get name) :=
  Apart.bind (Kv.getAs_apart _ _) fun _ => Apart.pure _

theorem listKeys_apart (t : Tree) : Apart t.listKeys :=
  Apart.bind (Apart.of_quiet (Kv.read_quiet _)) fun _ => Apart.pure _

end Tree

theorem Dataset.add_apart (d : Dataset) (record : Json) : Apart (d.add record) :=
  Apart.bind (liftKv_apart (Queue.add_apart _ _)) fun _ => Apart.pure _

theorem Dataset.list_apart (d : Dataset) : Apart d.list := liftKv_apart (Queue.list_apart _)

theorem Dataset.listAs_apart {α : Type} (d : Dataset) (dec : Json → Except String α) :
    Apart (d.listAs dec) :=
  Apart.bind (Dataset.list_apart d) fun _ => liftKv_apart (Apart.of_quiet (Kv.liftExcept_quiet _))

theorem Dataset.pairs_apart (d : Dataset) : Apart d.pairs := d.listAs_apart _

theorem Dataset.groups_apart (d : Dataset) : Apart d.groups := d.listAs_apart _

theorem Relations.add_apart (r : Relations) (target : String) (metadata : Option Json) :
    Apart (r.add target metadata) :=
  Apart.bind (liftKv_apart (Tree.add_apart _ _ _)) fun _ => Apart.pure _

theorem Relations.targets_apart (r : Relations) : Apart r.targets := liftKv_apart (Tree.listKeys_apart _)

theorem Session.set_apart (s : Session) (name : String) (v : Json) : Apart (s.set name v) :=
  Apart.bind (liftKv_apart (Tree.set_apart _ _ _)) fun _ => Apart.pure _

theorem Session.get_apart (s : Session) (name : String) : Apart (s.get name) := by
  intro st hst
  have h := Tree.get_apart s.tree name st hst
  unfold Session.get
  simp only [ExceptT.run] at h ⊢
  rcases hrun : s.tree.get name st with ⟨r, st'⟩
  rw [hrun] at h
  cases r with
  | ok v => exact h
  | error e => dsimp only; split <;> exact h

theorem Claims.claim_apart (c : Claims) (d : Direction) (now : String) : Apart (c.claim d now) := by
  intro st hst
  have h : st.Aside ((c.tree.add d.text (.obj [("claimed_at", .str now)])).run st).2 :=
    Tree.add_apart _ _ _ st hst
  unfold Claims.claim
  simp only [ExceptT.run] at h ⊢
  rcases hrun : (c.tree.add d.text (.obj [("claimed_at", .str now)])) st with ⟨r, st'⟩
  rw [hrun] at h
  cases r with
  | ok v => exact h
  | error e => dsimp only; split <;> exact h

theorem CleanupQueue.add_apart (q : CleanupQueue) (request now : String) : Apart (q.add request now) :=
  Apart.bind (liftKv_apart (Queue.add_apart _ _)) fun _ => Apart.pure _

namespace EntityStore

theorem tryLoad_quiet (α : Type) [Entity α] (identity : List String) : Quiet (tryLoad α identity) := by
  intro s
  have h := load_quiet α identity s
  unfold tryLoad
  simp only [ExceptT.run] at h ⊢
  rcases hrun : (load α identity) s with ⟨r, s'⟩
  rw [hrun] at h
  cases r with
  | ok x => exact h
  | error e => dsimp only; split <;> exact h

theorem watch_apart (α : Type) [Entity α] (identity : List String) (since : Option Nat) :
    Apart (watch α identity since) :=
  Apart.bind (liftKv_apart (Kv.watchAs_apart _ _ _)) fun _ => Apart.pure _

end EntityStore

/-- An abort goes through the handling of failures. -/
theorem EngineM.catchFailure_run_abort {α : Type} {m : EngineM α} {w w' : World} {h : EngineError → EngineM α}
    (hm : m.run w = (.error .abort, w')) : (EngineM.catchFailure m h).run w = (.error .abort, w') := by
  simp only [EngineM.catchFailure, tryCatch, tryCatchThe, MonadExceptOf.tryCatch, ExceptT.tryCatch, ExceptT.run,
    ExceptT.mk, bind, StateT.bind] at hm ⊢
  rw [hm]
  rfl

/-- An engine program that, from a world over a bounded store, keeps every entity's node and the
broker, however it ends. -/
def Inert {α : Type} (prog : EngineM α) : Prop :=
  ∀ w : World, w.store.Bounded → w.store.Aside (prog.run w).2.store ∧ (prog.run w).2.broker = w.broker

namespace Inert

variable {α β : Type}

/-- A program that changes neither the store nor the broker. -/
theorem of_offstore {prog : EngineM α}
    (h : ∀ w, (prog.run w).2.store = w.store ∧ (prog.run w).2.broker = w.broker) : Inert prog := by
  intro w hw
  obtain ⟨hs, hb⟩ := h w
  rw [hs]
  exact ⟨.refl hw, hb⟩

theorem of_quiet {prog : EngineM α} (h : Quiet prog) : Inert prog :=
  of_offstore fun w => by rw [h w]; exact ⟨rfl, rfl⟩

theorem pure (a : α) : Inert (Pure.pure a : EngineM α) := of_quiet (Quiet.pure a)

theorem bind {m : EngineM α} {f : α → EngineM β} (hm : Inert m) (hf : ∀ a, Inert (f a)) :
    Inert (m >>= f) := by
  intro w hw
  obtain ⟨hs, hb⟩ := hm w hw
  rcases h : m.run w with ⟨r, w₁⟩
  rw [h] at hs hb
  cases r with
  | ok a =>
    rw [run_bind_ok h]
    obtain ⟨hs', hb'⟩ := hf a w₁ hs.bounded
    exact ⟨hs.trans hs', hb'.trans hb⟩
  | error e =>
    rw [run_bind_error h]
    exact ⟨hs, hb⟩

theorem fail (e : EngineError) : Inert (EngineM.fail e : EngineM α) := of_quiet (EngineM.fail_quiet e)

theorem ofExcept (r : Except EngineError α) : Inert (EngineM.ofExcept r) := by
  cases r with
  | ok a => exact pure a
  | error e => exact fail e

theorem throw_abort : Inert (throw .abort : EngineM α) := of_quiet fun _ => rfl

theorem domain {d : DomainM α} (hd : Apart d) : Inert (EngineM.domain d) := by
  intro w hw
  have h := hd w.store hw
  show w.store.Aside (EngineM.domain d w).2.store ∧ (EngineM.domain d w).2.broker = w.broker
  unfold EngineM.domain
  rcases hrun : d.run w.store with ⟨r, s⟩
  rw [hrun] at h
  cases r <;> exact ⟨h, rfl⟩

theorem map {m : EngineM α} (f : α → β) (hm : Inert m) : Inert (ExceptT.map f m) := by
  intro w hw
  obtain ⟨hs, hb⟩ := hm w hw
  simp only [ExceptT.map, ExceptT.run, ExceptT.mk, Bind.bind, StateT.bind] at hs hb ⊢
  rcases h : m w with ⟨r, w₁⟩
  rw [h] at hs hb
  cases r <;> exact ⟨hs, hb⟩

theorem catchFailure {m : EngineM α} {h : EngineError → EngineM α} (hm : Inert m)
    (hh : ∀ err, Inert (h err)) : Inert (EngineM.catchFailure m h) := by
  intro w hw
  obtain ⟨hs, hb⟩ := hm w hw
  rcases hrun : m.run w with ⟨r, w₁⟩
  rw [hrun] at hs hb
  cases r with
  | error f =>
    cases f with
    | error err =>
      rw [EngineM.catchFailure_run_error hrun]
      obtain ⟨hs', hb'⟩ := hh err w₁ hs.bounded
      exact ⟨hs.trans hs', hb'.trans hb⟩
    | abort =>
      rw [EngineM.catchFailure_run_abort hrun]
      exact ⟨hs, hb⟩
  | ok a =>
    rw [EngineM.catchFailure_run_ok hrun]
    exact ⟨hs, hb⟩

theorem attempt {m : EngineM Unit} (hm : Inert m) : Inert (EngineM.attempt m) :=
  catchFailure hm fun _ => pure ()

theorem result {m : EngineM α} (hm : Inert m) : Inert (EngineM.result m) :=
  catchFailure (map _ hm) fun _ => pure _

theorem forIn {xs : List α} {init : β} {f : α → β → EngineM (ForInStep β)}
    (hf : ∀ a ∈ xs, ∀ b, Inert (f a b)) : Inert (forIn xs init f) := by
  induction xs generalizing init with
  | nil => exact pure init
  | cons a as ih =>
    rw [List.forIn_cons]
    refine bind (hf a List.mem_cons_self init) fun r => ?_
    cases r with
    | done b => exact pure b
    | yield b => exact ih fun a' ha' => hf a' (List.mem_cons_of_mem _ ha')

theorem mapM {xs : List α} {f : α → EngineM β} (hf : ∀ a ∈ xs, Inert (f a)) : Inert (xs.mapM f) := by
  induction xs with
  | nil => exact pure []
  | cons a as ih =>
    rw [List.mapM_cons]
    exact bind (hf a List.mem_cons_self) fun _ =>
      bind (ih fun a' ha' => hf a' (List.mem_cons_of_mem _ ha')) fun _ => pure _

end Inert

/-! ## The engine's programs that leave entities alone -/

theorem EngineM.freshId_inert : Inert EngineM.freshId := Inert.of_offstore fun _ => ⟨rfl, rfl⟩

namespace Engine

variable (e : Engine)

theorem notify_inert (subject message : String) : Inert (e.notify subject message) :=
  Inert.of_offstore fun w => by cases h : e.notifier <;> simp only [notify, h] <;> exact ⟨rfl, rfl⟩

theorem changeFiles_inert (f : FileSystem → Except IoError FileSystem) : Inert (changeFiles f) :=
  Inert.of_offstore fun w => by
    show (changeFiles f w).2.store = w.store ∧ (changeFiles f w).2.broker = w.broker
    unfold changeFiles
    split <;> exact ⟨rfl, rfl⟩

theorem writeFile_inert (workflow rel content : String) : Inert (e.writeFile workflow rel content) :=
  Inert.bind (Inert.ofExcept _) fun _ =>
    Inert.bind (changeFiles_inert _) fun _ => changeFiles_inert _

theorem readFile_inert (workflow rel : String) : Inert (e.readFile workflow rel) := by
  refine Inert.bind (Inert.ofExcept _) fun path => Inert.bind (Inert.of_quiet fun _ => rfl) fun w => ?_
  split
  · exact Inert.pure _
  · exact Inert.fail _

theorem nativeHandler?_inert (workflow name : String) : Inert (nativeHandler? workflow name) :=
  Inert.of_quiet fun _ => rfl

theorem render_inert (r : Request) (pairs : List Pair) : Inert (e.render r pairs) := by
  unfold render
  split
  · exact Inert.bind (Inert.of_offstore fun _ => ⟨rfl, rfl⟩) fun _ => Inert.pure _
  · exact Inert.bind (changeFiles_inert _) fun _ => Inert.bind (changeFiles_inert _) fun _ =>
      Inert.bind (Inert.of_offstore fun _ => ⟨rfl, rfl⟩) fun _ => Inert.pure _

theorem scheduleCleanup_inert (workflow request : String) : Inert (e.scheduleCleanup workflow request) := by
  unfold scheduleCleanup
  split
  · exact Inert.pure _
  · exact Inert.bind (Inert.domain (CleanupQueue.add_apart _ _ _)) fun _ => Inert.pure _

end Engine

section Scripts

variable (e : Engine) (c : HandlerCall) (args : HandlerArguments)

mutual

/-- The sources of pairs only read sessions and files. -/
theorem PairSource.pairs_inert : ∀ src : PairSource, Inert (src.pairs e c args)
  | .literal _ => Inert.pure _
  | .argument _ => Inert.pure _
  | .words src => Inert.bind (PairSource.pairs_inert src) fun _ => Inert.pure _
  | .lowerWords src => Inert.bind (PairSource.pairs_inert src) fun _ => Inert.pure _
  | .explode src => Inert.bind (PairSource.pairs_inert src) fun _ => Inert.pure _
  | .aggregate _ src => Inert.bind (PairSource.pairs_inert src) fun _ => Inert.pure _
  | .sumByKey src => Inert.bind (PairSource.pairs_inert src) fun _ => Inert.pure _
  | .concat srcs => PairSource.pairsOfAll_inert srcs
  | .session _ => Inert.mapM fun _ _ =>
      Inert.bind (Inert.domain (Session.get_apart _ _)) fun _ => Inert.pure _
  | .swap src => Inert.bind (PairSource.pairs_inert src) fun _ => Inert.pure _
  | .take src _ => Inert.bind (PairSource.pairs_inert src) fun _ => Inert.pure _
  | .keyOf src => Inert.bind (PairSource.pairs_inert src) fun _ => Inert.pure _
  | .readFile _ => Inert.mapM fun _ _ =>
      Inert.bind (Engine.readFile_inert e _ _) fun _ => Inert.pure _
  | .nothing => Inert.pure _

theorem PairSource.pairsOfAll_inert : ∀ srcs : List PairSource, Inert (PairSource.pairsOfAll e c args srcs)
  | [] => Inert.pure _
  | src :: rest =>
    Inert.bind (PairSource.pairs_inert src) fun _ =>
      Inert.bind (PairSource.pairsOfAll_inert rest) fun _ => Inert.pure _

end

theorem ScriptItem.outputs_inert (handler : String) (item : ScriptItem) :
    Inert (item.outputs e c args handler) := by
  cases item with
  | pairs src => exact Inert.bind (PairSource.pairs_inert e c args src) fun _ => Inert.pure _
  | _ => exact Inert.pure _

end Scripts

section Handlers

variable (e : Engine)

/-- A script writes sessions and files, notifies, and answers; no entity is among what it
touches. -/
theorem Script.run_inert (c : HandlerCall) (args : HandlerArguments) (handler : String) (s : Script) :
    Inert (s.run e c args handler) := by
  unfold Script.run
  dsimp only
  repeat
    first
    | with_reducible_and_instances refine Inert.bind ?_ fun _ => ?_
    | with_reducible_and_instances exact Inert.pure _
    | with_reducible_and_instances exact Inert.throw_abort
    | with_reducible_and_instances exact Inert.fail _
    | with_reducible_and_instances exact Inert.ofExcept _
    | with_reducible_and_instances exact Engine.notify_inert e _ _
    | with_reducible_and_instances exact PairSource.pairs_inert e c args _
    | with_reducible_and_instances exact Inert.domain (Session.set_apart _ _ _)
    | with_reducible_and_instances exact Engine.writeFile_inert e _ _ _
    | with_reducible_and_instances exact Inert.mapM fun _ _ => ScriptItem.outputs_inert e c args handler _
    | with_reducible_and_instances refine Inert.forIn fun _ _ _ => ?_
    | split

theorem Engine.runHandler_inert (workflow handler : String) (args : HandlerArguments) (c : HandlerCall) :
    Inert (e.runHandler workflow handler args c) := by
  unfold Engine.runHandler
  refine Inert.bind (Engine.nativeHandler?_inert _ _) fun h => ?_
  cases h with
  | none => exact Inert.fail _
  | some h => exact Inert.bind (Inert.ofExcept _) fun _ => Script.run_inert e c args handler h.script

theorem Engine.combine_inert (c : InvocationContext) (pairs : List Pair) : Inert (e.combine c pairs) := by
  unfold Engine.combine
  split
  · split
    · exact Inert.pure _
    · exact Inert.throw_abort
  · exact Inert.bind (Engine.runHandler_inert e _ _ _ _) fun _ =>
      Inert.bind (Inert.ofExcept _) fun _ => Inert.pure _

theorem Engine.mappingGroups_inert (target : Invocation) : Inert (Engine.mappingGroups target) := by
  unfold Engine.mappingGroups
  dsimp only
  exact Inert.bind (Inert.domain (Relations.targets_apart _)) fun _ =>
    Inert.bind (Inert.forIn fun _ _ _ =>
      Inert.bind (Inert.domain (Dataset.pairs_apart _)) fun _ => Inert.pure _) fun _ => Inert.pure _

theorem Engine.awaitDone_inert (workflow id : String) (rounds : Nat) (since : Option Nat) :
    Inert (Engine.awaitDone workflow id rounds since) := by
  induction rounds generalizing since with
  | zero => exact Inert.bind (Inert.domain (EntityStore.watch_apart _ _ _)) fun _ => Inert.pure _
  | succ k ih =>
    refine Inert.bind (Inert.domain (EntityStore.watch_apart _ _ _)) fun r => ?_
    split
    · exact Inert.pure _
    · exact ih _

theorem Engine.failureOf_inert (r : Request) (failed : String) : Inert (Engine.failureOf r failed) := by
  unfold Engine.failureOf
  refine Inert.bind (Inert.result (Inert.domain (Apart.of_quiet (EntityStore.tryLoad_quiet _ _)))) fun _ => ?_
  dsimp only
  split <;> exact Inert.pure _

theorem Engine.blockForResult_inert (p : PackagedRequest) : Inert (e.blockForResult p) := by
  unfold Engine.blockForResult
  dsimp only
  repeat
    first
    | with_reducible_and_instances refine Inert.bind ?_ fun _ => ?_
    | with_reducible_and_instances exact Inert.pure _
    | with_reducible_and_instances exact Inert.fail _
    | with_reducible_and_instances exact Engine.awaitDone_inert _ _ _ _
    | with_reducible_and_instances exact Engine.failureOf_inert _ _
    | with_reducible_and_instances exact Inert.domain (Dataset.pairs_apart _)
    | split

theorem Engine.awaitResult_inert (p : PackagedRequest) : Inert (e.awaitResult p) :=
  Inert.bind (Engine.blockForResult_inert e p) fun _ =>
    Inert.bind (Engine.render_inert e _ _) fun _ => Inert.pure _

end Handlers

end MapReduce
