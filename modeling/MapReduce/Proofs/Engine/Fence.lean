import MapReduce.Engine.Processor
import MapReduce.Engine.Admin
import Mathlib

/-! # The idempotency fence

With the fence on, a message is processed past its claim only when its request is not done and
the claim of its invocation's direction is not stored yet. Everything before the claim only reads:
loading what the message names, and checking its direction and its request. So a message the world
already settles, because its request is done or its claim is stored, is answered as abandoned or
as a duplicate, or fails while it is read, and in every case the world stays as it was. On the
in-memory store a claim of a stored key fails as already existing without a write, which is what
the fence rests on.

`Quiet` says of a program that it leaves its state unchanged however it ends; it is closed under
`bind`, so the reads of a message are quiet because each load is. -/

namespace MapReduce

/-- A program that leaves its state as it found it, however it ends. -/
def Quiet {ε σ α : Type} (m : ExceptT ε (StateM σ) α) : Prop := ∀ s, (m.run s).2 = s

section Runs

variable {ε σ α β : Type} {m : ExceptT ε (StateM σ) α} {f : α → ExceptT ε (StateM σ) β} {s s' : σ}

theorem run_bind_ok {a : α} (h : m.run s = (.ok a, s')) : (m >>= f).run s = (f a).run s' := by
  simp only [ExceptT.run, Bind.bind, ExceptT.bind, ExceptT.mk, ExceptT.bindCont, StateT.bind] at h ⊢
  rw [h]

theorem run_bind_error {e : ε} (h : m.run s = (.error e, s')) : (m >>= f).run s = (.error e, s') := by
  simp only [ExceptT.run, Bind.bind, ExceptT.bind, ExceptT.mk, ExceptT.bindCont, StateT.bind] at h ⊢
  rw [h]
  rfl

/-- A run whose answer reads as a value ended with that value. -/
theorem run_eq_ok_of_toOption {a : α} (h : (m.run s).1.toOption = some a) :
    m.run s = (.ok a, (m.run s).2) := by
  rcases hr : m.run s with ⟨_ | b, s₁⟩
  · simp [hr, Except.toOption] at h
  · simp only [hr, Except.toOption, Option.some.injEq] at h
    rw [h]

/-- A run whose answer reads as no value ended with an error. -/
theorem exists_run_error_of_toOption (h : (m.run s).1.toOption = none) :
    ∃ e, m.run s = (.error e, (m.run s).2) := by
  rcases hr : m.run s with ⟨e | b, s₁⟩
  · exact ⟨e, rfl⟩
  · simp [hr, Except.toOption] at h

end Runs

namespace Quiet

variable {ε σ : Type}

theorem pure {α : Type} (a : α) : Quiet (Pure.pure a : ExceptT ε (StateM σ) α) := fun _ => rfl

theorem bind {α β : Type} {m : ExceptT ε (StateM σ) α} {f : α → ExceptT ε (StateM σ) β}
    (hm : Quiet m) (hf : ∀ a, Quiet (f a)) : Quiet (m >>= f) := by
  intro s
  have hs := hm s
  rcases h : m.run s with ⟨r, s'⟩
  rw [h] at hs
  subst hs
  cases r with
  | ok a => rw [run_bind_ok h]; exact hf a _
  | error e => rw [run_bind_error h]

theorem adapt {ε' α : Type} (f : ε → ε') {m : ExceptT ε (StateM σ) α} (hm : Quiet m) :
    Quiet (ExceptT.adapt f m) :=
  fun s => hm s

end Quiet

/-! ## Reads -/

namespace Kv

/-- Reading a key answers what the backend holds there, read as the shape, and changes nothing. -/
theorem getAs_run {β : Type} (dec : Json → Except String β) (key : Identity) (s : Store) :
    (getAs dec key).run s = ((do
      let n ← s.backend.get key
      let v ← decodeAs dec n.value
      pure (n.version, v)), s) := by
  simp only [getAs, get, read, ExceptT.run, bind, ExceptT.bind, ExceptT.mk, ExceptT.bindCont,
    StateT.bind, pure, ExceptT.pure]
  rcases s.backend.get key with e | n
  · rfl
  · rcases h : decodeAs dec n.value with e | v <;> simp [h, Except.bind, Except.pure] <;> rfl

theorem getAs_quiet {β : Type} (dec : Json → Except String β) (key : Identity) :
    Quiet (getAs dec key) := fun s => by rw [getAs_run]

end Kv

theorem EntityStore.load_quiet (α : Type) [Entity α] (identity : List String) :
    Quiet (EntityStore.load α identity) :=
  Quiet.bind (Quiet.adapt _ (Kv.getAs_quiet _ _)) fun _ => Quiet.pure _

namespace EngineM

theorem domain_run_ok {α : Type} {d : DomainM α} {w : World} {a : α} {s : Store}
    (h : d.run w.store = (.ok a, s)) : (domain d).run w = (.ok a, { w with store := s }) := by
  show domain d w = _
  unfold domain
  rw [h]

theorem domain_quiet {α : Type} {d : DomainM α} (hd : Quiet d) : Quiet (domain d) := by
  intro w
  have hs := hd w.store
  rcases h : d.run w.store with ⟨r, s⟩
  rw [h] at hs
  subst hs
  show (domain d w).2 = w
  unfold domain
  rw [h]
  cases r <;> rfl

theorem fail_run {α : Type} (e : EngineError) (w : World) :
    (fail e : EngineM α).run w = (.error (.error e), w) := rfl

theorem ofExcept_run {α : Type} (r : Except EngineError α) (w : World) :
    (ofExcept r).run w = (r.mapError .error, w) := by
  cases r <;> rfl

theorem fail_quiet {α : Type} (e : EngineError) : Quiet (fail e : EngineM α) := fun _ => rfl

end EngineM

theorem Engine.load_quiet (α : Type) [Entity α] (identity : List String) :
    Quiet (Engine.load α identity) :=
  EngineM.domain_quiet (EntityStore.load_quiet α identity)

/-- Loading what a message names only reads the store. -/
theorem Engine.inflate_quiet (m : WireMessage) : Quiet (Engine.inflate m) := by
  unfold Engine.inflate
  dsimp only
  repeat
    first
    | exact Engine.load_quiet _ _
    | exact Quiet.pure _
    | exact EngineM.fail_quiet _
    | refine Quiet.bind ?_ fun _ => ?_
    | split

/-! ## The claim of a stored key -/

/-- Creating a key the memory store holds fails as already existing. -/
theorem MemoryStore.createOnly_of_get {m : MemoryStore} {key : Identity} {n : Node} (value : String)
    (hn : m.get key = .ok n) : ∃ path, m.createOnly key value = .error (.alreadyExists path) := by
  unfold MemoryStore.get at hn
  unfold MemoryStore.createOnly
  rcases hk : key.encode with err | path
  · simp [hk, bind, Except.bind] at hn
  · refine ⟨path, ?_⟩
    rcases hf : m.find? path with _ | n'
    · simp [hk, hf, bind, Except.bind] at hn
    · simp [hf, bind, Except.bind]

/-- Claiming a direction whose claim the memory store already holds answers that the claim was
made before, and changes nothing. -/
theorem Claims.claim_of_stored {c : Claims} {d : Direction} {now : String} {s : Store}
    {m : MemoryStore} (hs : s.backend = .memory m) {n : Node}
    (hn : s.backend.get (c.tree.root.child d.text) = .ok n) :
    (c.claim d now).run s = (.ok false, s) := by
  obtain ⟨backend, rivals⟩ := s
  subst hs
  obtain ⟨path, hcreate⟩ := MemoryStore.createOnly_of_get
    (Json.write (.obj [("claimed_at", .str now)])) hn
  simp [Claims.claim, Tree.add, Kv.createOnlyJson, Kv.createOnly, Kv.write, ExceptT.run,
    Backend.createOnly, hcreate, Backend.onMemory, KvError.isAlreadyExists]

/-! ## Settled messages change nothing -/

namespace Engine

/-- The key of the claim of an invocation's direction. -/
def claimKey (workflow invocation : String) (d : Direction) : Identity :=
  (Claims.mk workflow invocation).tree.root.child d.text

/-- What the world already settles of a message of a direction, read as a context: its request is
done, or the claim of its invocation's direction is stored. -/
def Settled (w : World) (d : Direction) (c : InvocationContext) : Prop :=
  c.request.data.isDone = true ∨
    ∃ n, w.store.backend.get (claimKey c.workflowName c.invocationId d) = .ok n

/-- With the fence on, a message of a direction that the world settles, on the in-memory store,
is answered as a duplicate or as abandoned, or fails before anything is written; the world stays as
it was. -/
theorem handle_settled (e : Engine) (hfence : e.config.fence = true) {w : World} {m : MemoryStore}
    (hmem : w.store.backend = .memory m) (d : Direction) (msg : WireMessage)
    (hsettled : ∀ c, ((inflate msg).run w).1 = .ok c → Settled w d c) :
    ((e.handle d msg).run w).2 = w ∧
      ∀ o, ((e.handle d msg).run w).1 = .ok o → o = .duplicate ∨ o = .abandoned := by
  rcases h : (inflate msg).run w with ⟨r, w'⟩
  have hw : w' = w := by rw [← inflate_quiet msg w, h]
  subst hw
  unfold handle
  cases r with
  | error err =>
    rw [run_bind_error h]
    exact ⟨rfl, fun o ho => nomatch ho⟩
  | ok c =>
    rw [run_bind_ok h]
    dsimp only
    have hs := hsettled c (by rw [h])
    by_cases hdir : c.invocation.data.direction ≠ d
    · rw [if_pos hdir, run_bind_error (EngineM.fail_run _ _)]
      exact ⟨rfl, fun o ho => nomatch ho⟩
    · rw [if_neg hdir]
      by_cases hdone : c.request.data.isDone = true
      · rw [if_pos hdone]
        refine ⟨rfl, fun o ho => ?_⟩
        cases ho
        exact .inr rfl
      · -- an open request is settled by its stored claim, which the fence does not take twice
        rw [if_neg hdone, if_pos hfence]
        obtain ⟨n, hn⟩ := hs.resolve_left hdone
        rw [run_bind_ok (EngineM.domain_run_ok (Claims.claim_of_stored hmem hn))]
        refine ⟨rfl, fun o ho => ?_⟩
        cases ho
        exact .inl rfl

/-- With the fence on, a body that names a message the world settles, on the in-memory store, is
answered as a duplicate or as abandoned, or fails before anything is written; the world stays as
it was. -/
theorem handleRaw_settled (e : Engine) (hfence : e.config.fence = true) {w : World}
    {m : MemoryStore} (hmem : w.store.backend = .memory m) (raw : String)
    (hsettled : ∀ d msg c, classify raw = .ok (d, msg) → ((inflate msg).run w).1 = .ok c →
      Settled w d c) :
    ((e.handleRaw raw).run w).2 = w ∧
      ∀ o, ((e.handleRaw raw).run w).1 = .ok o → o = .duplicate ∨ o = .abandoned := by
  unfold handleRaw
  rcases hc : classify raw with err | ⟨d, msg⟩
  · rw [run_bind_error (EngineM.ofExcept_run _ _)]
    exact ⟨rfl, fun o ho => nomatch ho⟩
  · rw [run_bind_ok (EngineM.ofExcept_run _ _)]
    exact handle_settled e hfence hmem d msg (hsettled d msg · hc)

/-- The root map message of request `r` of workflow `wf`: invocation `i`, at step `s`. -/
def rootMessage : WireMessage := { workflow := "wf", request := "r", invocation := "i", step := "s" }

/-- A world where request `r` of workflow `wf`, of job `j`, has its root map invocation `i` at
step `s`, which handler `h` maps, and the invocation's map has been claimed. -/
def claimedWorld : World where
  store := ⟨.memory ⟨[
    ("entities/handler/wf/h",
      ⟨1, Entity.toText (⟨"wf", "h", "", [], "src", "script", "v", .mapper, "none"⟩ : Handler)⟩),
    ("entities/invocation/wf/i", ⟨5, Entity.toText
      ({ workflow := "wf", id := "i", step := "s", direction := .map,
         createdAt := "2024-01-01T00:00:00Z" } : Invocation)⟩),
    ("entities/job/wf/j", ⟨2, Entity.toText (⟨"wf", "j", "", "s"⟩ : Job)⟩),
    ("entities/request/wf/r", ⟨6, Entity.toText
      ({ workflow := "wf", id := "r", job := "j", invocation := "i", isBlocking := false,
         createdAt := "2024-01-01T00:00:00Z" } : Request)⟩),
    ("entities/step/wf/s", ⟨3, Entity.toText (⟨"wf", "s", "", "h", none, none⟩ : Step)⟩),
    ("entities/workflow/wf", ⟨4, Entity.toText (⟨"wf", "", none⟩ : Workflow)⟩),
    ("entity_trees/claims/wf/i/map", ⟨7, "\x7b\"claimed_at\":\"2024-01-01T00:00:00Z\"\x7d"⟩)], 7, false, by decide⟩, []⟩

/-- The root message delivered again to `claimedWorld`, whose claim is stored: it is answered as a
duplicate, and the world stays as it was. -/
theorem handleRaw_settled_redelivered_root :
    ((({} : Engine).handleRaw (encodeEnvelope .map rootMessage)).run claimedWorld).2 = claimedWorld ∧
      ((({} : Engine).handleRaw (encodeEnvelope .map rootMessage)).run claimedWorld).1.toOption =
        some .duplicate := by
  have hrun : ((({} : Engine).handleRaw (encodeEnvelope .map rootMessage)).run claimedWorld).1.toOption =
        some .duplicate ∧
      (classify (encodeEnvelope .map rootMessage)).toOption = some (.map, rootMessage) ∧
      ((inflate rootMessage).run claimedWorld).1.toOption.map (fun c => (c.workflowName, c.invocationId)) =
        some ("wf", "i") ∧
      (claimedWorld.store.backend.get (claimKey "wf" "i" .map)).toOption.isSome = true := by
    decide +kernel
  obtain ⟨hdup, hcl, hnames, hclaim⟩ := hrun
  refine ⟨(handleRaw_settled (w := claimedWorld) (m := _) {} rfl rfl _ ?_).1, hdup⟩
  intro d msg c hclass hinf
  rw [hclass] at hcl
  obtain ⟨rfl, rfl⟩ : d = .map ∧ msg = rootMessage := by simpa [Except.toOption] using hcl
  simp only [hinf, Except.toOption, Option.map_some, Option.some.injEq, Prod.mk.injEq] at hnames
  rcases hget : claimedWorld.store.backend.get (claimKey "wf" "i" .map) with err | n
  · simp [hget, Except.toOption] at hclaim
  · exact .inr ⟨n, by rw [hnames.1, hnames.2, hget]⟩

/-- `claimedWorld` before its claim, and without job `j`. -/
def joblessWorld : World where
  store := ⟨.memory ⟨[
    ("entities/handler/wf/h",
      ⟨1, Entity.toText (⟨"wf", "h", "", [], "src", "script", "v", .mapper, "none"⟩ : Handler)⟩),
    ("entities/invocation/wf/i", ⟨5, Entity.toText
      ({ workflow := "wf", id := "i", step := "s", direction := .map,
         createdAt := "2024-01-01T00:00:00Z" } : Invocation)⟩),
    ("entities/request/wf/r", ⟨6, Entity.toText
      ({ workflow := "wf", id := "r", job := "j", invocation := "i", isBlocking := false,
         createdAt := "2024-01-01T00:00:00Z" } : Request)⟩),
    ("entities/step/wf/s", ⟨3, Entity.toText (⟨"wf", "s", "", "h", none, none⟩ : Step)⟩),
    ("entities/workflow/wf", ⟨4, Entity.toText (⟨"wf", "", none⟩ : Workflow)⟩)], 6, false, by decide⟩, []⟩

/-- A first delivery that fails before its claim leaves no claim behind, so a later delivery of the
same message is no duplicate: it runs. In `joblessWorld` the root message fails while it is read,
for want of job `j`; once the job is created, delivering the message again claims it. Without that
second delivery the claim is never written, so removing it changes the final store. -/
theorem redelivery_after_a_failed_read_is_processed :
    ∃ r : Except Fault HandleOutcome × World,
      r = (({} : Engine).handleRaw (encodeEnvelope .map rootMessage)).run joblessWorld ∧
      ∃ w : World, w = ((Engine.createJob ⟨"wf", "j", "", "s"⟩).run r.2).2 ∧
        r.1.toOption = none ∧ (w.store.backend.get (claimKey "wf" "i" .map)).toOption.isNone = true ∧
        (((({} : Engine).handleRaw (encodeEnvelope .map rootMessage)).run w).2.store.backend.get
          (claimKey "wf" "i" .map)).toOption.isSome = true :=
  ⟨_, rfl, _, rfl, by decide +kernel⟩

end Engine

end MapReduce
