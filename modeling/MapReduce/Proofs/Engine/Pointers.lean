import MapReduce.Proofs.Engine.Resolution
import MapReduce.Engine.Dispatcher
import Mathlib

/-! # Every pushed message resolves

The engine pushes a message from three places: the root invocation of a submitted request, each
child of a fan-out, and the reduction of an invocation. Each producer loads the step and the
handler the message will need before it creates the invocation, and threads the request from the
context it works in, so the message it pushes resolves in the store (`Store.Resolves`). Here
every program a worker runs is specified with `Keeps`: from a sound world it ends in a sound world
that has kept what earlier messages need, whatever fails along the way, as long as the revision
ceiling is not reached.

A run of the engine (`Engine.performAll`) is a sequence of submissions and of deliveries of
waiting messages, in any order, some of them lost or delivered again, with the definitions of
workflows left as they are and no request pruned; a dispatcher's run is one of them. From a sound
world, every world a run reaches is sound, and in it every waiting message reads back as its
envelope and resolves through `inflate` to the context it names: the direction it was pushed with,
its workflow, request, invocation and step, and the handler of the step for its direction. -/

namespace MapReduce

/-! ## Stable properties -/

namespace Stable

theorem and {P Q : World → Prop} (hP : Stable P) (hQ : Stable Q) : Stable fun w => P w ∧ Q w :=
  fun w w' hg h => ⟨hP w w' hg h.1, hQ w w' hg h.2⟩

theorem const (p : Prop) : Stable fun _ => p := fun _ _ _ h => h

theorem revision (k : Nat) : Stable fun w => k ≤ w.store.revision :=
  fun _ _ hg h => h.trans hg.revision

theorem revision_lt (k : Nat) : Stable fun w => k < w.store.revision :=
  fun _ _ hg h => lt_of_lt_of_le h hg.revision

theorem requested (wf id : String) : Stable fun w => w.store.Requested wf id :=
  fun _ _ hg h => hg.requested h

theorem tracks (x : Invocation) : Stable fun w => w.store.Tracks x :=
  fun _ _ hg h => hg.tracks h

theorem stores {α : Type} [Entity α] (hcls : Entity.className α ∈ definitionClasses)
    (identity : List String) (x : α) : Stable fun w => w.store.Stores identity x :=
  fun _ _ hg h => hg.stores hcls h

theorem served (wf : String) (d : Direction) (st : Step) : Stable fun w => w.store.Served wf d st :=
  fun _ _ hg h => hg.served h

/-- What creating an invocation ends with is stable. -/
theorem created {P : World → Prop} (hP : Stable P) (k : Nat) (inv : Invocation) (p : Prop) :
    Stable fun w => ((P w ∧ k < w.store.revision) ∧ w.store.Tracks inv) ∧ p :=
  ((hP.and (revision_lt k)).and (tracks inv)).and (const p)

end Stable

/-! ## The message of an invocation -/

/-- The message that queues an invocation of a request. -/
def Invocation.pointer (inv : Invocation) (request : String) : WireMessage :=
  ⟨wireFormatVersion, inv.workflow, request, inv.id, inv.step⟩

/-- The message of an invocation resolves when its request is ready, the invocation is tracked, and
its step is stored with the handlers the invocation's direction needs. -/
theorem Store.resolves_pointer {s : Store} {inv : Invocation} {request : String} {st : Step}
    (hreq : s.Requested inv.workflow request) (htr : s.Tracks inv)
    (hst : s.Stores [inv.workflow, inv.step] st) (hserved : s.Served inv.workflow inv.direction st) :
    s.Resolves inv.direction (inv.pointer request) :=
  ⟨hreq, htr, st, hst, hserved⟩

theorem Broker.push_waiting {b b' : Broker} {topic : String} {d : Direction} {m : WireMessage}
    (h : b.push topic d m = .ok b') : b'.waiting = b.waiting ++ [⟨topic, encodeEnvelope d m⟩] := by
  unfold Broker.push at h
  split at h
  · cases h; rfl
  · cases h

namespace World

/-- A world over the same store whose waiting messages were waiting before or resolve is sound. -/
theorem Sound.of_waiting {w w' : World} (hw : w.Sound) (hstore : w'.store = w.store)
    (hwait : ∀ dl ∈ w'.broker.waiting, dl ∈ w.broker.waiting ∨ ∃ (d : Direction) (msg : WireMessage),
      dl.body = encodeEnvelope d msg ∧ msg.formatVersion = wireFormatVersion ∧ w.store.Resolves d msg) :
    w'.Sound := by
  rw [← hstore] at hwait
  refine ⟨hstore ▸ hw.room, hstore ▸ hw.invocations, hstore ▸ hw.requests, ?_, ?_, ?_, ?_⟩
  · exact hstore ▸ hw.workflows
  · exact hstore ▸ hw.steps
  · exact hstore ▸ hw.handlers
  · intro dl hdl
    rcases hwait dl hdl with hold | hnew
    · exact hstore ▸ hw.waiting dl hold
    · exact hnew

/-- A world over the same store with more messages waiting grows. -/
theorem Grows.of_waiting {w w' : World} (hstore : w'.store = w.store)
    (hpre : w.broker.waiting <+: w'.broker.waiting) : w.Grows w' := by
  refine ⟨fun _ _ _ => by rw [hstore], ?_, ?_, hpre, by rw [hstore]⟩
  · rw [hstore]; exact .refl _ _
  · rw [hstore]; exact .refl _ _

end World

/-! ## Loads, failures and pushes -/

theorem Engine.load_run_ok {α : Type} [Entity α] {identity : List String} {w : World} {r : Record α}
    (h : ((Engine.load α identity).run w).1 = .ok r) : w.store.Stores identity r.data := by
  unfold Engine.load at h
  rcases hl : (EntityStore.load α identity).run w.store with ⟨_ | r', s⟩
  · rw [EngineM.domain_run_error hl] at h
    cases h
  · rw [EngineM.domain_run_ok hl] at h
    cases h
    exact (EntityStore.load_run_ok hl).2

/-- Pushing the message of an invocation: the broker takes it at the end of its waiting messages,
or refuses it and nothing changes. -/
theorem Engine.pushInvocation_run (e : Engine) (request : String) (inv : Invocation)
    (handler : Option Handler) (w : World) :
    (∃ err, (e.pushInvocation request inv handler).run w = (.error (.error err), w)) ∨
      ∃ topic b, w.broker.push topic inv.direction (inv.pointer request) = .ok b ∧
        (e.pushInvocation request inv handler).run w = (.ok (), { w with broker := b }) := by
  unfold Engine.pushInvocation
  dsimp only
  rw [run_bind_ok (show (get : EngineM World).run w = (.ok w, w) from rfl)]
  split
  · rename_i b hb
    exact Or.inr ⟨_, b, hb, rfl⟩
  · exact Or.inl ⟨_, rfl⟩

namespace Keeps

variable {α β : Type} {P : World → Prop} {Q : α → World → Prop}

theorem load (γ : Type) [Entity γ] (identity : List String) :
    Keeps P (Engine.load γ identity) fun r w => P w ∧ w.store.Stores identity r.data :=
  of_quiet (Engine.load_quiet γ identity) fun _ _ _ hp h => ⟨hp, Engine.load_run_ok h⟩

theorem fail_bind (e : EngineError) {f : β → EngineM α} : Keeps P (EngineM.fail e >>= f) Q := by
  intro w hw
  have h := Keeps.fail (P := P) (Q := Q) e w hw
  rw [EngineM.fail_run] at h
  rwa [run_bind_error (EngineM.fail_run e w)]

/-- Pushing the message of an invocation keeps a stable property, when the message resolves. -/
theorem pushInvocation (hP : Stable P) (e : Engine) (request : String) (inv : Invocation)
    (handler : Option Handler) :
    Keeps (fun w => P w ∧ w.store.Resolves inv.direction (inv.pointer request))
      (e.pushInvocation request inv handler) fun _ => P := by
  intro w ⟨m, hm, hb⟩
  have hfw : w.store.Forward w.store := ⟨m, m, hm, hm, le_rfl, hb⟩
  rcases e.pushInvocation_run request inv handler w with ⟨err, hrun⟩ | ⟨topic, b, hpush, hrun⟩
  · rw [hrun]
    exact ⟨hfw, fun _ hs _ => ⟨hs, .refl w, fun _ h => by cases h⟩⟩
  · rw [hrun]
    refine ⟨hfw, fun _ hs ⟨hp, hres⟩ => ?_⟩
    have hwait := Broker.push_waiting hpush
    have hg : w.Grows { w with broker := b } :=
      World.Grows.of_waiting rfl (by rw [hwait]; exact List.prefix_append _ _)
    refine ⟨hs.of_waiting rfl fun dl hdl => ?_, hg, fun _ _ => hP _ _ hg hp⟩
    rw [hwait, List.mem_append, List.mem_singleton] at hdl
    rcases hdl with hold | rfl
    · exact Or.inl hold
    · exact Or.inr ⟨inv.direction, inv.pointer request, rfl, rfl, hres⟩

end Keeps

/-! ## Creating invocations -/

namespace Keeps

variable {P : World → Prop}

/-- Creating an invocation at a time in normal form keeps a stable property, moves the revision
up, and tracks the new invocation, with the workflow, parent, step and direction asked for. -/
theorem createInvocation {e : Engine} (hnow : Text.normalTimestamp e.now = .ok e.now) (hP : Stable P)
    (wf : String) (parent : Option String) (step : String) (d : Direction) (k : Nat) :
    Keeps (fun w => P w ∧ k ≤ w.store.revision) (e.createInvocation wf parent step d)
      fun inv w => ((P w ∧ k < w.store.revision) ∧ w.store.Tracks inv) ∧
        (inv.workflow = wf ∧ inv.parent = parent ∧ inv.step = step ∧ inv.direction = d) := by
  unfold Engine.createInvocation Engine.newInvocation
  simp only [bind_assoc, pure_bind]
  refine bind (of_inert EngineM.freshId_inert (hP.and (Stable.revision k))) fun id => ?_
  refine bind (create Tracked.invocations hP (x := ⟨wf, id, parent, step, d, .leaf, none, e.now⟩)
    ⟨hnow, trivial⟩ k) fun r => pure fun _ _ h => ?_
  obtain ⟨hpk, hr, hheld⟩ := h
  rw [hr]
  exact ⟨⟨hpk, _, hheld, rfl⟩, rfl, rfl, rfl, rfl⟩

end Keeps

/-! ## Reading a message -/

/-- What reading a message loaded: its workflow, request and invocation at the message's
identities, and the request's job. -/
structure InvocationContext.Loaded (c : InvocationContext) (m : WireMessage) (s : Store) : Prop where
  workflow : s.Stores [m.workflow] c.workflow
  request : s.Stores [m.workflow, m.request] c.request.data
  invocation : s.Stores [m.workflow, m.invocation] c.invocation.data
  job : s.Stores [m.workflow, c.request.data.job] c.job

/-- What handling relies on of the context of a message: its request is ready under the
context's workflow, and its invocation belongs to that workflow. -/
structure InvocationContext.Ready (c : InvocationContext) (w : World) : Prop where
  requested : w.store.Requested c.workflowName c.requestId
  workflow : c.invocation.data.workflow = c.workflowName

theorem InvocationContext.Ready.stable (c : InvocationContext) : Stable c.Ready :=
  fun _ _ hg h => ⟨hg.requested h.requested, h.workflow⟩

/-- In a sound world, what reading a message loads is ready to be handled, and its workflow and
invocation are those the message names. -/
theorem InvocationContext.Loaded.ready {c : InvocationContext} {m : WireMessage} {w : World}
    (hs : w.Sound) (h : c.Loaded m w.store) :
    c.Ready w ∧ c.workflowName = m.workflow ∧ c.requestId = m.request ∧ c.invocationId = m.invocation := by
  have hwf : c.workflowName = m.workflow := hs.workflows _ _ h.workflow
  obtain ⟨hreq, -, hheld⟩ := hs.requests.stores Request.readback h.request
  obtain ⟨hinv, -, -⟩ := hs.invocations.stores Invocation.readback h.invocation
  simp only [Entity.identity, List.cons.injEq, and_true] at hreq hinv
  have hjob : w.store.Stores [c.workflowName, c.request.data.job] c.job := by rw [hwf]; exact h.job
  refine ⟨⟨⟨⟨c.workflow, hwf ▸ h.workflow⟩, c.request.data, hheld, hreq.1.trans hwf.symm, rfl, c.job,
    hjob⟩, hinv.1.trans hwf.symm⟩, hwf, hreq.2, hinv.2⟩

namespace Keeps

variable {P : World → Prop}

/-- Reading a message changes nothing and loads what it names. -/
theorem inflate (m : WireMessage) : Keeps P (Engine.inflate m) fun c w => P w ∧ c.Loaded m w.store := by
  unfold Engine.inflate
  dsimp only
  refine bind (load _ _) fun wfr => bind (load _ _) fun req => bind (load _ _) fun inv => ?_
  split
  · exact fail_bind _
  refine bind (load _ _) fun job => bind (load _ _) fun st => ?_
  split
  · refine bind (load _ _) fun h => ?_
    simp only [pure_bind]
    exact pure fun _ _ hp => ⟨hp.1.1.1.1.1.1, hp.1.1.1.1.1.2, hp.1.1.1.1.2, hp.1.1.1.2, hp.1.1.2⟩
  · split
    · refine bind (load _ _) fun h => ?_
      simp only [pure_bind]
      exact pure fun _ _ hp => ⟨hp.1.1.1.1.1.1, hp.1.1.1.1.1.2, hp.1.1.1.1.2, hp.1.1.1.2, hp.1.1.2⟩
    · simp only [pure_bind]
      exact pure fun _ _ hp => ⟨hp.1.1.1.1.1, hp.1.1.1.1.2, hp.1.1.1.2, hp.1.1.2, hp.1.2⟩

end Keeps

/-! ## Queueing a reduction -/

namespace Keeps

variable {P : World → Prop}

/-- Queueing the reduction of an invocation keeps a stable property when the request is ready
under the invocation's workflow: the step and its reduce handler are loaded before the reduction
is created, so its message resolves when it is pushed. -/
theorem queueReduce {e : Engine} (hnow : Text.normalTimestamp e.now = .ok e.now) (hP : Stable P)
    (request : String) (target : Invocation) :
    Keeps (fun w => P w ∧ w.store.Requested target.workflow request) (e.queueReduce request target)
      fun _ => P := by
  unfold Engine.queueReduce
  dsimp only
  refine bind (load _ _) fun st => ?_
  have hstar : Stable fun w => (P w ∧ w.store.Requested target.workflow request) ∧
      w.store.Stores [target.workflow, target.step] st.data ∧
      w.store.Served target.workflow .reduce st.data :=
    (hP.and (Stable.requested _ _)).and ((Stable.stores (by decide) _ _).and (Stable.served _ _ _))
  split
  case' h_1 name hname =>
    refine bind (load _ _) fun h => ?_
    simp only [pure_bind]
    refine mono (P := fun w => (P w ∧ w.store.Requested target.workflow request) ∧
      w.store.Stores [target.workflow, target.step] st.data ∧
      w.store.Served target.workflow .reduce st.data) ?_
      (fun w _ hp => ⟨hp.1.1, hp.1.2, fun n hn => ⟨h.data, by rw [hname] at hn; cases hn; exact hp.2⟩⟩)
      (fun _ _ _ h => h)
  case' h_2 hnone =>
    simp only [pure_bind]
    refine mono (P := fun w => (P w ∧ w.store.Requested target.workflow request) ∧
      w.store.Stores [target.workflow, target.step] st.data ∧
      w.store.Served target.workflow .reduce st.data) ?_
      (fun w _ hp => ⟨hp.1, hp.2, fun n hn => by rw [hnone] at hn; cases hn⟩) (fun _ _ _ h => h)
  all_goals
    refine bind ((createInvocation hnow hstar _ _ _ _ 0).mono (fun _ _ hp => ⟨hp, Nat.zero_le _⟩)
      (fun _ _ _ h => h)) fun red => ?_
    refine bind (of_inert (Inert.domain (Relations.add_apart _ _ _))
      (Stable.created hstar 0 red _)) fun _ => ?_
    refine bind ((pushInvocation hP e request red _).mono (fun w _ hp => ⟨hp.1.1.1.1.1, ?_⟩)
      (fun _ _ _ h => h)) fun _ => pure fun _ _ h => h
    obtain ⟨⟨⟨⟨⟨-, hreq⟩, hst, hsrv⟩, -⟩, htr⟩, hwf, -, hstep, hdir⟩ := hp
    rw [← hwf] at hreq hst hsrv
    rw [← hstep] at hst
    rw [← hdir] at hsrv
    exact Store.resolves_pointer hreq htr hst hsrv

end Keeps

/-! ## The map side -/

/-- The children a fan-out has made so far in a workflow: each tracked, of the step, and mapped. -/
def Store.Spawned (s : Store) (wf step : String) (children : List Invocation) : Prop :=
  ∀ ch ∈ children, s.Tracks ch ∧ ch.workflow = wf ∧ ch.step = step ∧ ch.direction = .map

theorem Stable.spawned (wf step : String) (children : List Invocation) :
    Stable fun w => w.store.Spawned wf step children :=
  fun _ _ hg h ch hch => ⟨hg.tracks (h ch hch).1, (h ch hch).2⟩

theorem Store.Spawned.snoc {s : Store} {wf step : String} {children : List Invocation} {ch : Invocation}
    (h : s.Spawned wf step children) (htr : s.Tracks ch) (hwf : ch.workflow = wf) (hstep : ch.step = step)
    (hdir : ch.direction = .map) : s.Spawned wf step (children ++ [ch]) := by
  intro x hx
  rcases List.mem_append.mp hx with hx | hx
  · exact h x hx
  · rw [List.mem_singleton] at hx
    subst hx
    exact ⟨htr, hwf, hstep, hdir⟩


namespace Keeps

variable {e : Engine}

/-- Failing or going on with a value keeps what held. -/
theorem ofExcept_keeps {α : Type} {P : World → Prop} (r : Except EngineError α) :
    Keeps P (EngineM.ofExcept r) fun _ => P :=
  (ofExcept r).mono (fun _ _ h => h) fun _ _ _ h => h.1

/-- Keeping a result's groups and queueing the reduction keeps a context ready. -/
theorem collectResult (hnow : Text.normalTimestamp e.now = .ok e.now) (c : InvocationContext)
    (pairs : List (Except EngineError Pair)) : Keeps c.Ready (e.collectResult c pairs) fun _ => c.Ready := by
  unfold Engine.collectResult
  have hc := InvocationContext.Ready.stable c
  refine bind (ofExcept_keeps _) fun ps => bind (of_inert (Engine.combine_inert e c ps) hc) fun groups => ?_
  refine bind (of_inert (Inert.forIn fun _ _ _ =>
    Inert.bind (Inert.domain (Dataset.add_apart _ _)) fun _ => Inert.pure _) hc) fun _ => ?_
  refine bind ((queueReduce hnow hc _ _).mono (fun w _ hp => ⟨hp, hp.workflow ▸ hp.requested⟩)
    (fun _ _ _ h => h)) fun _ => pure fun _ _ h => h

/-- Mapping to a next step keeps a context ready. Every child is created, tracked and counted
before the fan-out is recorded, and its message is pushed with the step and map handler loaded
first. The revision moves up with each child, so the count of children stays below the ceiling. -/
theorem mapToDownstream (hnow : Text.normalTimestamp e.now = .ok e.now) (c : InvocationContext)
    (next : String) (pairs : List (Except EngineError Pair)) :
    Keeps c.Ready (e.mapToDownstream c next pairs) fun _ => c.Ready := by
  unfold Engine.mapToDownstream
  dsimp only
  refine bind (load _ _) fun st => bind (load _ _) fun h => ?_
  have hdefs : Stable fun w => (c.Ready w ∧ w.store.Stores [c.workflowName, next] st.data) ∧
      w.store.Stores [c.workflowName, st.data.mapHandler] h.data :=
    ((InvocationContext.Ready.stable c).and (Stable.stores (by decide) _ _)).and (Stable.stores (by decide) _ _)
  have hkids : ∀ b : List Invocation, Stable fun w => ((c.Ready w ∧
      w.store.Stores [c.workflowName, next] st.data) ∧ w.store.Stores [c.workflowName, st.data.mapHandler] h.data) ∧
      w.store.Spawned c.workflowName st.data.name b := fun b =>
    hdefs.and (Stable.spawned _ _ b)
  refine bind ((forIn (I := fun b w => (((c.Ready w ∧ w.store.Stores [c.workflowName, next] st.data) ∧
      w.store.Stores [c.workflowName, st.data.mapHandler] h.data) ∧ w.store.Spawned c.workflowName st.data.name b) ∧
      b.length ≤ w.store.revision) fun item _ b => ?_).mono
    (fun _ _ hp => ⟨⟨hp, fun _ h => by cases h⟩, Nat.zero_le _⟩) (fun _ _ _ h => h)) fun children => ?_
  · -- one pair: a child of the next step, its arguments, and its relation to the parent
    refine bind (ofExcept_keeps _) fun kv => ?_
    obtain ⟨k, v⟩ := kv
    refine bind (createInvocation hnow (hkids b) _ _ _ _ b.length) fun child => ?_
    refine bind (of_inert (Inert.domain (Dataset.add_apart _ _)) (Stable.created (hkids b) _ child _)) fun _ => ?_
    refine bind (of_inert (Inert.domain (Relations.add_apart _ _ _)) (Stable.created (hkids b) _ child _))
      fun _ => pure fun _ _ hp => ?_
    obtain ⟨⟨⟨⟨hd, hb⟩, hlt⟩, htr⟩, hwf, -, hstep, hdir⟩ := hp
    exact ⟨⟨hd, hb.snoc htr hwf hstep hdir⟩, by simpa using hlt⟩
  split
  · exact (collectResult hnow c []).mono (fun _ _ hp => hp.1.1.1.1) (fun _ _ _ h => h)
  refine bind (update Tracked.invocations ((hkids children).and (Stable.revision _)) e _ _ ?_) fun _ => ?_
  · intro w y x' _ hs hp hy hmut
    obtain ⟨-, hread, -⟩ := hs.invocations.stores Invocation.readback hy
    obtain ⟨m, hm, hlt⟩ := hs.room
    have hcount : children.length < 2 ^ 64 := by
      have hle := hp.2
      have h64 : Nat.pow 2 64 = 2 ^ 64 := rfl
      rw [hm, Store.revision_memory] at hle
      unfold MemoryStore.revisionBound at hlt
      omega
    unfold Invocation.setFanOut at hmut
    split at hmut
    · cases hmut
    split at hmut
    · cases hmut
    · simp only [Except.map, Except.ok.injEq, Prod.mk.injEq] at hmut
      obtain ⟨rfl, -⟩ := hmut
      exact ⟨⟨hread.createdAt, hcount, hcount⟩, rfl⟩
  refine bind ((forIn (I := fun _ w =>
      (((c.Ready w ∧ w.store.Stores [c.workflowName, next] st.data) ∧
      w.store.Stores [c.workflowName, st.data.mapHandler] h.data) ∧
      w.store.Spawned c.workflowName st.data.name children)) fun child hchild _ => ?_).mono
    (fun _ _ hp => hp.1) (fun _ _ _ h => h)) fun _ => pure fun _ _ hp => hp.1.1.1
  refine bind ((pushInvocation (hkids children) e _ child _).mono (fun w hs hp => ⟨hp, ?_⟩)
    (fun _ _ _ h => h)) fun _ => pure fun _ _ h => h
  obtain ⟨⟨⟨hready, hst⟩, hh⟩, hb⟩ := hp
  obtain ⟨htr, hwf, hstep, hdir⟩ := hb child hchild
  have hname : st.data.name = next := (hs.steps _ _ _ hst).1
  have hreq := hready.requested
  rw [← hwf] at hreq hst hh
  rw [← hname, ← hstep] at hst
  refine Store.resolves_pointer hreq htr hst ?_
  rw [hdir]
  exact ⟨h.data, hh⟩

/-- Running the map handler and following its directive keeps a context ready. -/
theorem handleMap (hnow : Text.normalTimestamp e.now = .ok e.now) (c : InvocationContext) :
    Keeps c.Ready (e.handleMap c) fun _ => c.Ready := by
  unfold Engine.handleMap
  have hc := InvocationContext.Ready.stable c
  split
  · refine bind (of_inert (Inert.domain (Dataset.pairs_apart _)) hc) fun args => ?_
    refine bind (of_inert (Engine.runHandler_inert e _ _ _ _) hc) fun out => ?_
    refine bind (ofExcept_keeps _) fun dp => ?_
    obtain ⟨directive, pairs⟩ := dp
    cases directive with
    | mapTo next => exact mapToDownstream hnow c next pairs
    | returning => exact collectResult hnow c pairs
  · exact fail _

end Keeps

/-! ## The reduce side and failures -/

namespace Keeps

variable {e : Engine} {P : World → Prop}

/-- Counting a child of an invocation as reduced keeps a stable property: the count goes down
within its bounds and nothing messages need changes. -/
theorem decrementParent (hP : Stable P) (wf id : String) : Keeps P (e.decrementParent wf id) fun _ => P := by
  unfold Engine.decrementParent
  refine bind (update Tracked.invocations hP e _ _ ?_) fun r => ?_
  · intro w y x' _ hs _ hy hmut
    obtain ⟨-, hread, -⟩ := hs.invocations.stores Invocation.readback hy
    unfold Invocation.decrementWaiting at hmut
    have hbound := hread.fanOut
    split at hmut
    · rename_i c n hfan
      simp only [Except.map, Except.ok.injEq, Prod.mk.injEq] at hmut
      obtain ⟨rfl, -⟩ := hmut
      rw [hfan] at hbound
      exact ⟨⟨hread.createdAt, hbound.1, by have := hbound.2; omega⟩, rfl⟩
    · cases hmut
    · cases hmut
  · obtain ⟨r, ⟨⟩⟩ := r
    exact pure fun _ _ h => h

/-- Completing a request keeps a stable property: the request is marked done, with its routing, and
the rest renders, queues and notifies. -/
theorem completeRequest (hnow : Text.normalTimestamp e.now = .ok e.now) (hP : Stable P)
    (c : InvocationContext) (results : List Pair) : Keeps P (e.completeRequest c results) fun _ => P := by
  unfold Engine.completeRequest
  refine bind (update Tracked.requests hP e _ _ ?_) fun rn => ?_
  · intro w y x' _ hs _ hy hmut
    obtain ⟨-, hread, -⟩ := hs.requests.stores Request.readback hy
    simp only [Except.ok.injEq] at hmut
    split at hmut
    · cases hmut
      exact ⟨hread, rfl⟩
    · cases hmut
      exact ⟨hread.markDone hnow, rfl⟩
  obtain ⟨r, newlyDone⟩ := rn
  dsimp only
  split
  · exact pure fun _ _ h => h
  have htail : Keeps P (do
      let _ ← e.scheduleCleanup c.workflowName r.data.id
      e.notify "request done" ("request [" ++ r.data.id ++ "] of job [" ++ r.data.job ++ "] finished"))
      fun _ => P :=
    bind (of_inert (Engine.scheduleCleanup_inert e _ _) hP) fun _ => of_inert (Engine.notify_inert e _ _) hP
  split
  · exact bind (of_inert (Engine.render_inert e _ _) hP) fun _ => htail
  · exact htail

/-- Recording a failure keeps a stable property: the invocation keeps its routing with the failure
written on it, and the request is closed as failed. -/
theorem recordFailure (hnow : Text.normalTimestamp e.now = .ok e.now) (hP : Stable P)
    (c : InvocationContext) (failure : EngineError) : Keeps P (e.recordFailure c failure) fun _ => P := by
  unfold Engine.recordFailure
  dsimp only
  refine bind (attempt (bind (update Tracked.invocations hP e _ _ ?_) fun _ => pure fun _ _ h => h) hP)
    fun _ => ?_
  · intro w y x' _ hs _ hy hmut
    obtain ⟨-, hread, -⟩ := hs.invocations.stores Invocation.readback hy
    cases hmut
    exact ⟨⟨hread.createdAt, hread.fanOut⟩, rfl⟩
  refine bind (result (update Tracked.requests hP e _ _ ?_) hP) fun r => ?_
  · intro w y x' _ hs _ hy hmut
    obtain ⟨-, hread, -⟩ := hs.requests.stores Request.readback hy
    simp only [Except.ok.injEq] at hmut
    split at hmut
    · cases hmut
      exact ⟨hread, rfl⟩
    · cases hmut
      exact ⟨hread.markFailed _ hnow, rfl⟩
  split
  · exact bind (of_inert (Engine.notify_inert e _ _) hP) fun _ =>
      attempt (bind (of_inert (Engine.scheduleCleanup_inert e _ _) hP) fun _ => pure fun _ _ h => h) hP
  · exact pure fun _ _ h => h

/-- Reducing the target of a reduction keeps a context ready. The reduction of the target's parent,
when the last child is counted, loads the parent where the request's workflow holds it, so the
request is ready under the parent's workflow. -/
theorem handleReduce (hnow : Text.normalTimestamp e.now = .ok e.now) (c : InvocationContext) :
    Keeps c.Ready (e.handleReduce c) fun _ => c.Ready := by
  unfold Engine.handleReduce
  dsimp only
  have hc := InvocationContext.Ready.stable c
  split
  case' h_2 => exact fail _
  refine bind ((load _ _).mono (fun _ _ h => h) (fun _ _ _ h => h.1)) fun tgt => ?_
  split
  case' isTrue => refine bind (of_inert (Engine.mappingGroups_inert _) hc) fun groups => ?_
  case' isFalse => refine bind (of_inert (Inert.domain (Dataset.groups_apart _)) hc) fun groups => ?_
  all_goals
    split
    case' h_1 =>
      refine bind (of_inert (Engine.runHandler_inert e _ _ _ _) hc) fun out => ?_
      refine bind (ofExcept_keeps _) fun results => ?_
    case' h_2 => simp only [pure_bind]
    all_goals
      refine bind (of_inert (Inert.forIn fun _ _ _ =>
        Inert.bind (Inert.domain (Dataset.add_apart _ _)) fun _ => Inert.pure _) hc) fun _ => ?_
      split
      · refine bind (decrementParent hc _ _) fun last => ?_
        split
        · refine bind (load _ _) fun parent => ?_
          refine bind ((queueReduce hnow hc _ _).mono (fun w hs hp => ⟨hp.1, ?_⟩) (fun _ _ _ h => h))
            fun _ => pure fun _ _ h => h
          obtain ⟨hready, hparent⟩ := hp
          obtain ⟨hid, -, -⟩ := hs.invocations.stores Invocation.readback hparent
          simp only [Entity.identity, List.cons.injEq] at hid
          rw [hid.1]
          exact hready.requested
        · exact pure fun _ _ h => h
      · exact bind (completeRequest hnow hc c _) fun _ => pure fun _ _ h => h

/-- Handling a message keeps every world sound that it starts from: a message that does not
resolve to a context of its direction fails before anything is written. -/
theorem handle (hnow : Text.normalTimestamp e.now = .ok e.now) (d : Direction) (m : WireMessage) :
    Keeps (fun _ => True) (e.handle d m) fun _ _ => True := by
  unfold Engine.handle
  dsimp only
  refine bind ((inflate m).mono (fun _ _ h => h) (fun c _ hs h => (h.2.ready hs).1)) fun c => ?_
  have hc := InvocationContext.Ready.stable c
  split
  · exact fail_bind _
  split
  · exact pure fun _ _ _ => trivial
  split
  case' isTrue =>
    refine bind (of_inert (Inert.domain (Claims.claim_apart _ _ _)) hc) fun claimed => ?_
    split
    · exact pure fun _ _ _ => trivial
  all_goals
    refine catchFailure ?_ (fun err => bind (recordFailure hnow hc c err) fun _ => fail _) hc
    cases d with
    | map => exact (handleMap hnow c).mono (fun _ _ h => h) (fun _ _ _ _ => trivial)
    | reduce => exact (handleReduce hnow c).mono (fun _ _ h => h) (fun _ _ _ _ => trivial)

/-- Handling a message body keeps every world sound that it starts from. -/
theorem handleRaw (hnow : Text.normalTimestamp e.now = .ok e.now) (raw : String) :
    Keeps (fun _ => True) (e.handleRaw raw) fun _ _ => True := by
  unfold Engine.handleRaw
  refine bind (ofExcept_keeps _) fun dm => ?_
  obtain ⟨d, m⟩ := dm
  exact handle hnow d m

end Keeps

/-! ## Submitting a request -/

namespace Keeps

variable {e : Engine}

/-- Packaging a request whose context reads back keeps every world sound, and the message of its
root invocation resolves: the job, its initial step and the step's map handler are loaded before
the invocation and the request are created. -/
theorem packageRequest (hnow : Text.normalTimestamp e.now = .ok e.now) (wf job : String)
    (args : List Pair) {context : Json} (hctx : Json.Readable 127 context) (blocking : Bool) :
    Keeps (fun _ => True) (e.packageRequest wf job args context blocking)
      fun p w => w.store.Resolves p.invocation.direction (p.invocation.pointer p.request.data.id) := by
  unfold Engine.packageRequest
  refine bind (load _ _) fun j => bind (load _ _) fun st => bind (load _ _) fun h => ?_
  have hdefs : Stable fun w => ((True ∧ w.store.Stores [wf, job] j.data) ∧
      w.store.Stores [wf, j.data.initialStep] st.data) ∧ w.store.Stores [wf, st.data.mapHandler] h.data :=
    (((Stable.const True).and (Stable.stores (by decide) _ _)).and (Stable.stores (by decide) _ _)).and
      (Stable.stores (by decide) _ _)
  refine bind ((createInvocation hnow hdefs wf none st.data.name .map 0).mono
    (fun _ _ hp => ⟨hp, Nat.zero_le _⟩) (fun _ _ _ h => h)) fun root => ?_
  have hroot := Stable.created hdefs 0 root
    (root.workflow = wf ∧ root.parent = none ∧ root.step = st.data.name ∧ root.direction = .map)
  refine bind (of_inert (Inert.forIn fun _ _ _ =>
    Inert.bind (Inert.domain (Dataset.add_apart _ _)) fun _ => Inert.pure _) hroot) fun _ => ?_
  refine bind (of_inert EngineM.freshId_inert hroot) fun id => ?_
  refine bind ((create Tracked.requests hroot (x := ⟨wf, id, job, root.id, context, blocking, false, none, e.now,
      none⟩) ⟨hnow, (fun _ ht => by cases ht), hctx⟩ 0).mono
    (fun _ _ hp => ⟨hp, Nat.zero_le _⟩) (fun _ _ _ h => h)) fun req => pure fun w hs hp => ?_
  obtain ⟨⟨⟨⟨⟨⟨⟨⟨-, hj⟩, hst⟩, hh⟩, -⟩, htr⟩, hwf, -, hstep, hdir⟩, -⟩, hreq, hheld⟩ := hp
  obtain ⟨hname, hflow⟩ := hs.steps _ _ _ hst
  dsimp only
  rw [hreq]
  have hroot_step : w.store.Stores [root.workflow, root.step] st.data := by
    rw [hwf, hstep, hname]
    exact hst
  refine Store.resolves_pointer ?_ htr hroot_step ?_
  · rw [hwf]
    exact ⟨hflow, _, hheld, rfl, rfl, j.data, hj⟩
  · rw [hwf, hdir]
    exact ⟨h.data, hh⟩

/-- Submitting a request whose context reads back keeps every world sound. -/
theorem submit (hnow : Text.normalTimestamp e.now = .ok e.now) (wf job : String) (args : List Pair)
    {context : Json} (hctx : Json.Readable 127 context) (blocking : Bool) :
    Keeps (fun _ => True) (e.submit wf job args context blocking) fun _ _ => True := by
  unfold Engine.submit Engine.pushRequest
  refine bind (packageRequest hnow wf job args hctx blocking) fun p => ?_
  refine bind ((pushInvocation (Stable.const True) e _ _ _).mono (fun _ _ hp => ⟨trivial, hp⟩)
    (fun _ _ _ h => h)) fun _ => ?_
  split
  · exact pure fun _ _ _ => trivial
  · exact of_inert (Engine.awaitResult_inert e p) (Stable.const True)

end Keeps

/-! ## Resolving a message -/

/-- The handler a step runs for a direction: its map handler, or its reduce handler if it has one. -/
def Step.handlerFor (st : Step) : Direction → Option String
  | .map => some st.mapHandler
  | .reduce => st.reduceHandler

/-- A context resolved from a message of a direction: its invocation has that direction, its
identities are those the message names, and its handler is the one its step runs for the
direction. -/
structure InvocationContext.Resolved (c : InvocationContext) (d : Direction) (m : WireMessage) : Prop where
  direction : c.invocation.data.direction = d
  workflow : c.workflowName = m.workflow
  request : c.requestId = m.request
  invocation : c.invocationId = m.invocation
  step : c.step.name = m.step
  handler : c.handler.map Handler.name = c.step.handlerFor d

/-- A context resolved from a message of the known format version writes back as the message. -/
theorem InvocationContext.Resolved.deflate {c : InvocationContext} {d : Direction} {m : WireMessage}
    (h : c.Resolved d m) (hv : m.formatVersion = wireFormatVersion) : c.deflate = m := by
  obtain ⟨v, wf, req, inv, st⟩ := m
  simp only at hv
  simp only [InvocationContext.deflate, h.workflow, h.request, h.invocation, h.step, hv]

/-- Reading a stored entity answers it, at the version it is stored at, and changes nothing. -/
theorem EntityStore.load_of_stores {α : Type} [Entity α] {identity : List String} {s : Store} {x : α}
    (h : s.Stores identity x) : ∃ v, (EntityStore.load α identity).run s = (.ok ⟨x, some v⟩, s) := by
  obtain ⟨n, hget, hdec⟩ := h
  refine ⟨n.version, ?_⟩
  unfold EntityStore.load
  simp only [liftKv, ExceptT.adapt, ExceptT.run, ExceptT.mk, bind, ExceptT.bind, ExceptT.bindCont,
    StateT.bind, Functor.map, StateT.map]
  rw [show Kv.getAs Entity.decode (EntityStore.entityKey α identity) s = _ from Kv.getAs_run _ _ s, hget]
  simp [bind, Except.bind, hdec, Except.mapError, pure, StateT.pure, Except.pure, ExceptT.pure, ExceptT.mk]

theorem Engine.load_of_stores {α : Type} [Entity α] {identity : List String} {w : World} {x : α}
    (h : w.store.Stores identity x) : ∃ v, (Engine.load α identity).run w = (.ok ⟨x, some v⟩, w) := by
  obtain ⟨v, hv⟩ := EntityStore.load_of_stores h
  exact ⟨v, EngineM.domain_run_ok hv⟩

/-- In a sound world, a message that resolves is read without a change to the world, into a
context resolved from it. -/
theorem Engine.inflate_of_resolves {w : World} (hs : w.Sound) {d : Direction} {m : WireMessage}
    (h : w.store.Resolves d m) :
    ∃ c : InvocationContext, (Engine.inflate m).run w = (.ok c, w) ∧ c.Resolved d m := by
  obtain ⟨⟨⟨x, hx⟩, r, hr, hrwf, hrid, j, hj⟩, ⟨i, hi, hroute⟩, st, hst, hserved⟩ := h
  simp only [Invocation.routing, Prod.mk.injEq] at hroute
  obtain ⟨hiwf, hiid, histep, hidir⟩ := hroute
  have hr' : w.store.Stores [m.workflow, m.request] r := by
    rw [← hrwf, ← hrid]
    exact hr
  have hi' : w.store.Stores [m.workflow, m.invocation] i := by
    rw [← hiwf, ← hiid]
    exact hi
  have hname : st.name = m.step := (hs.steps _ _ _ hst).1
  obtain ⟨v₁, h₁⟩ := Engine.load_of_stores hx
  obtain ⟨v₂, h₂⟩ := Engine.load_of_stores hr'
  obtain ⟨v₃, h₃⟩ := Engine.load_of_stores hi'
  obtain ⟨v₄, h₄⟩ := Engine.load_of_stores hj
  obtain ⟨v₅, h₅⟩ := Engine.load_of_stores hst
  unfold Engine.inflate
  dsimp only
  rw [run_bind_ok h₁, run_bind_ok h₂, run_bind_ok h₃]
  dsimp only
  split
  · rename_i hne
    exact absurd histep hne
  rw [run_bind_ok h₄, run_bind_ok h₅]
  dsimp only
  have hresolved : ∀ handler : Option Handler, handler.map Handler.name = st.handlerFor d →
      InvocationContext.Resolved ⟨x, ⟨r, some v₂⟩, ⟨i, some v₃⟩, j, st, handler⟩ d m :=
    fun _ hh => ⟨hidir, hs.workflows _ _ hx, hrid, hiid, hname, hh⟩
  rw [hidir]
  cases d with
  | map =>
    obtain ⟨h, hh⟩ := hserved
    obtain ⟨v₆, h₆⟩ := Engine.load_of_stores hh
    simp only [pure_bind]
    rw [run_bind_ok h₆]
    exact ⟨_, rfl, hresolved _ (by simp [Step.handlerFor, hs.handlers _ _ _ hh])⟩
  | reduce =>
    dsimp only
    split
    · rename_i name hred
      obtain ⟨h, hh⟩ := hserved name hred
      obtain ⟨v₆, h₆⟩ := Engine.load_of_stores hh
      simp only [pure_bind]
      rw [run_bind_ok h₆]
      exact ⟨_, rfl, hresolved _ (by simp [Step.handlerFor, hred, hs.handlers _ _ _ hh])⟩
    · rename_i hred
      simp only [pure_bind]
      exact ⟨_, rfl, hresolved _ (by simp [Step.handlerFor, hred])⟩

/-! ## Runs -/

/-- What happens to a worker's world, one event at a time: a request is submitted, the waiting
message at a position is taken and handled, a body is handled as if delivered (a message delivered
again, or any text at all), or the waiting message at a position is lost. Nothing here changes the
definitions of workflows or prunes a request. -/
inductive Activity where
  | submit (workflow job : String) (args : List Pair) (context : Json) (blocking : Bool)
  | deliver (index : Nat)
  | receive (body : String)
  | drop (index : Nat)

/-- A submission's context reads back from its stored text; the other events ask nothing. -/
def Activity.Readable : Activity → Prop
  | .submit _ _ _ context _ => Json.Readable 127 context
  | _ => True

/-- The world with its waiting message at a position taken from the broker. -/
def World.take (w : World) (i : Nat) : World :=
  { w with broker := { w.broker with waiting := w.broker.waiting.eraseIdx i } }

namespace Engine

/-- The world after an event. -/
def perform (e : Engine) : Activity → World → World
  | .submit wf job args context blocking, w => ((e.submit wf job args context blocking).run w).2
  | .deliver i, w =>
    match w.broker.waiting[i]? with
    | some dl => ((e.handleRaw dl.body).run (w.take i)).2
    | none => w
  | .receive body, w => ((e.handleRaw body).run w).2
  | .drop i, w => w.take i

/-- The world after events, one after another. -/
def performAll (e : Engine) : List Activity → World → World
  | [], w => w
  | a :: acts, w => e.performAll acts (e.perform a w)

end Engine

/-- A later world a worker may reach: the store moved forward, and when the store has room left
the world is sound if the earlier one was, and every message that resolved still resolves. -/
def World.Advances (w w' : World) : Prop :=
  w.store.Forward w'.store ∧ (w'.store.Room → w.Sound →
    w'.Sound ∧ ∀ d msg, w.store.Resolves d msg → w'.store.Resolves d msg)

namespace World

theorem Advances.refl {w : World} (hw : w.store.Bounded) : w.Advances w :=
  ⟨(Store.Aside.refl hw).forward, fun _ h => ⟨h, fun _ _ hr => hr⟩⟩

/-- Advancing composes: room at the end is room in the middle, since the revision only grows. -/
theorem Advances.trans {w₁ w₂ w₃ : World} (h₁ : w₁.Advances w₂) (h₂ : w₂.Advances w₃) :
    w₁.Advances w₃ := by
  refine ⟨h₁.1.trans h₂.1, fun hroom hs => ?_⟩
  obtain ⟨hs₂, hr₂⟩ := h₁.2 (h₂.1.room hroom) hs
  obtain ⟨hs₃, hr₃⟩ := h₂.2 hroom hs₂
  exact ⟨hs₃, fun d msg hr => hr₃ d msg (hr₂ d msg hr)⟩

theorem Sound.take {w : World} (hw : w.Sound) (i : Nat) : (w.take i).Sound :=
  hw.of_waiting rfl fun _ hdl => Or.inl (List.mem_of_mem_eraseIdx hdl)

/-- Taking a message leaves the store as it is, so what resolved still resolves, the taken message
included. -/
theorem Advances.take {w : World} (hw : w.store.Bounded) (i : Nat) : w.Advances (w.take i) :=
  ⟨(Store.Aside.refl hw).forward, fun _ hs => ⟨hs.take i, fun _ _ hr => hr⟩⟩

end World

/-- A program that keeps every world sound advances every world within the ceiling. -/
theorem Keeps.advances {α : Type} {prog : EngineM α} {Q : α → World → Prop}
    (h : Keeps (fun _ => True) prog Q) {w : World} (hw : w.store.Bounded) : w.Advances (prog.run w).2 := by
  refine ⟨(h w hw).1, fun hroom hs => ?_⟩
  obtain ⟨hs', hgrows, -⟩ := (h w hw).2 hroom hs trivial
  exact ⟨hs', fun _ _ hr => hgrows.resolves hr⟩

namespace Engine

variable {e : Engine}

/-- Each event advances the world. -/
theorem perform_advances (hnow : Text.normalTimestamp e.now = .ok e.now) {a : Activity}
    (ha : a.Readable) {w : World} (hw : w.store.Bounded) : w.Advances (e.perform a w) := by
  cases a with
  | submit wf job args context blocking => exact (Keeps.submit hnow wf job args ha blocking).advances hw
  | deliver i =>
    dsimp only [perform]
    split
    · exact (World.Advances.take hw i).trans ((Keeps.handleRaw hnow _).advances hw)
    · exact .refl hw
  | receive body => exact (Keeps.handleRaw hnow body).advances hw
  | drop i => exact .take hw i

/-- A run advances the world: by induction on the events, each advancing the world the ones
before it reached. -/
theorem performAll_advances (hnow : Text.normalTimestamp e.now = .ok e.now) {acts : List Activity}
    (hacts : ∀ a ∈ acts, a.Readable) {w : World} (hw : w.store.Bounded) :
    w.Advances (e.performAll acts w) := by
  induction acts generalizing w with
  | nil => exact .refl hw
  | cons a acts ih =>
    have hstep := perform_advances hnow (hacts a List.mem_cons_self) hw
    exact hstep.trans (ih (fun b hb => hacts b (List.mem_cons_of_mem a hb)) hstep.1.bounded)

/-- A run of events is the run of the first ones, then of the rest from where they left it. -/
theorem performAll_append (acts later : List Activity) (w : World) :
    e.performAll (acts ++ later) w = e.performAll later (e.performAll acts w) := by
  induction acts generalizing w with
  | nil => rfl
  | cons a acts ih => exact ih _

/-- Deliveries from a broker with nothing waiting change nothing. -/
theorem performAll_deliver_idle {w : World} (hw : w.broker.waiting = []) (n : Nat) :
    e.performAll (List.replicate n (.deliver 0)) w = w := by
  induction n with
  | zero => rfl
  | succ n ih =>
    have hidle : e.perform (.deliver 0) w = w := by simp [perform, hw]
    rw [List.replicate_succ, performAll, hidle, ih]

/-- A dispatcher that takes its messages from the broker performs one delivery of the first
waiting message per message it may process. -/
theorem processMessages_world (e : Engine) (limit : Nat) (w : World) :
    ((e.processMessages limit []).run w).2 = e.performAll (List.replicate limit (.deliver 0)) w := by
  induction limit generalizing w with
  | zero => rfl
  | succ n ih =>
    rw [List.replicate_succ, performAll]
    cases hw : w.broker.waiting with
    | nil =>
      have hidle : e.perform (.deliver 0) w = w := by simp [perform, hw]
      rw [hidle, performAll_deliver_idle hw]
      simp [processMessages, nextDelivery, hw, bind, StateT.bind, pure, StateT.pure, StateT.run]
    | cons dl rest =>
      have hdeliver : e.perform (.deliver 0) w =
          ((e.handleRaw dl.body).run { w with broker := { w.broker with waiting := rest } }).2 := by
        simp [perform, World.take, hw]
      rw [hdeliver, ← ih]
      simp [processMessages, nextDelivery, hw, bind, StateT.bind, pure, StateT.pure, StateT.run]
      split
      rename_i hrun
      rw [hrun]
      rfl

/-- A dispatcher run, from the broker alone, is a run of deliveries of the first waiting message. -/
theorem dispatch_world (e : Engine) (limit : Nat) (w : World) :
    ((e.dispatch limit []).run w).2 = e.performAll (List.replicate limit (.deliver 0)) w := by
  rw [← processMessages_world]
  simp [dispatch, bind, StateT.bind, pure, StateT.pure, StateT.run]
  split
  rename_i hrun
  rw [hrun]

end Engine

/-! ## Messages resolve along every run -/

theorem MemoryStore.get_empty (key : Identity) (n : Node) : ({} : MemoryStore).get key ≠ .ok n := by
  unfold MemoryStore.get
  cases key.encode <;> simp [bind, Except.bind, MemoryStore.find?]

theorem Store.not_stores_empty {α : Type} [Entity α] {identity : List String} {x : α} :
    ¬ (⟨.memory {}, []⟩ : Store).Stores identity x := by
  rintro ⟨n, hget, -⟩
  exact MemoryStore.get_empty _ n hget

/-- A world over an empty memory store, with no message waiting, is sound. -/
theorem World.sound_empty : ({ store := ⟨.memory {}, []⟩ } : World).Sound where
  room := ⟨{}, rfl, by decide⟩
  invocations _ _ h := absurd h (MemoryStore.get_empty _ _)
  requests _ _ h := absurd h (MemoryStore.get_empty _ _)
  workflows _ _ h := absurd h Store.not_stores_empty
  steps _ _ _ h := absurd h Store.not_stores_empty
  handlers _ _ _ h := absurd h Store.not_stores_empty
  waiting _ h := by cases h

/-! ## Worlds of definitions

A worker starts from a world where workflows, jobs, steps and handlers have been defined and no
request has been made. Such a world is sound when its definitions sit at the keys of their names
and every step's workflow is stored; over a store written out node by node that is a matter of
evaluation (`Store.definitionsOnly`). -/

/-- Whether the workflow of a name is stored and reads. -/
def MemoryStore.storesWorkflow (m : MemoryStore) (wf : String) : Bool :=
  match m.get (EntityStore.entityKey Workflow [wf]) with
  | .ok n =>
    match Kv.decodeAs (Entity.decode (α := Workflow)) n.value with
    | .ok _ => true
    | .error _ => false
  | .error _ => false

/-- Whether a store holds definitions only, each at the key of its name: no invocation and no
request, and the workflow of every step stored. -/
def MemoryStore.holdsDefinitions (m : MemoryStore) : Bool :=
  m.placesAll Invocation (fun _ => false) && m.placesAll Request (fun _ => false) &&
    m.placesAll Workflow (fun _ => true) && m.placesAll MapReduce.Step (fun x => m.storesWorkflow x.workflow) &&
    m.placesAll Handler (fun _ => true)

/-- Whether a store is on memory that nobody races, with room left below the revision ceiling. -/
def Store.roomLeft : Store → Bool
  | ⟨.memory m, []⟩ => decide (m.revision < MemoryStore.revisionBound)
  | _ => false

/-- Whether a store has room left and holds definitions only. -/
def Store.definitionsOnly (s : Store) : Bool :=
  s.roomLeft &&
    match s.backend with
    | .memory m => m.holdsDefinitions
    | .relational _ => false

theorem MemoryStore.stores_of_storesWorkflow {m : MemoryStore} {wf : String}
    (h : m.storesWorkflow wf = true) (rivals : List Rival) :
    ∃ y : Workflow, Store.Stores ⟨.memory m, rivals⟩ [wf] y := by
  unfold storesWorkflow at h
  split at h
  · rename_i n hn
    split at h
    · rename_i y hy
      exact ⟨y, n, hn, hy⟩
    · cases h
  · cases h

theorem Store.room_of_roomLeft {s : Store} (h : s.roomLeft = true) : s.Room := by
  rcases s with ⟨_ | _, _ | _⟩ <;> simp [Store.roomLeft] at h
  exact ⟨_, rfl, h⟩

/-- A world with no message waiting, over a store with room that holds definitions only, is
sound. -/
theorem World.sound_of_definitionsOnly {w : World} (h : w.store.definitionsOnly = true)
    (hw : w.broker.waiting = []) : w.Sound := by
  obtain ⟨hroom, hdefs⟩ := Bool.and_eq_true_iff.mp h
  obtain ⟨m, hs, hrev⟩ := Store.room_of_roomLeft hroom
  rw [hs] at hdefs
  simp only [MemoryStore.holdsDefinitions, Bool.and_eq_true] at hdefs
  obtain ⟨⟨⟨⟨hinv, hreq⟩, hwf⟩, hstep⟩, hhandler⟩ := hdefs
  refine ⟨⟨m, hs, hrev⟩, ?invocations, ?requests, ?workflows, ?steps, ?handlers, ?waiting⟩
  case invocations =>
    intro identity n hn
    rw [hs] at hn
    obtain ⟨x, -, -, -, hx⟩ := MemoryStore.placesAll_get hinv hn
    cases hx
  case requests =>
    intro identity n hn
    rw [hs] at hn
    obtain ⟨x, -, -, -, hx⟩ := MemoryStore.placesAll_get hreq hn
    cases hx
  case workflows =>
    intro wf x hx
    rw [hs] at hx
    have hid : [x.name] = [wf] := (MemoryStore.stores_of_placesAll hwf hx).1
    exact List.head_eq_of_cons_eq hid
  case steps =>
    intro wf st x hx
    rw [hs] at hx ⊢
    obtain ⟨hid, hstored⟩ := MemoryStore.stores_of_placesAll hstep hx
    have hid' : [x.workflow, x.name] = [wf, st] := hid
    simp only [List.cons.injEq, and_true] at hid'
    rw [← hid'.1]
    exact ⟨hid'.2, MemoryStore.stores_of_storesWorkflow hstored []⟩
  case handlers =>
    intro wf st x hx
    rw [hs] at hx
    have hid : [x.workflow, x.name] = [wf, st] := (MemoryStore.stores_of_placesAll hhandler hx).1
    simp only [List.cons.injEq, and_true] at hid
    exact hid.2
  case waiting =>
    intro dl hdl
    rw [hw] at hdl
    cases hdl

/-- A delivered message reads back in a world as an envelope whose message is read, without a
change to the world, into a context resolved from it, which writes back as the message. -/
def World.Reads (w : World) (dl : Delivery) : Prop :=
  ∃ (d : Direction) (m : WireMessage) (c : InvocationContext),
    classify dl.body = .ok (d, m) ∧ (Engine.inflate m).run w = (.ok c, w) ∧ c.Resolved d m ∧ c.deflate = m

/-- A message pushed as an envelope of the current format reads back in every sound world whose
store resolves it. -/
theorem World.Reads.of_resolves {w : World} (hw : w.Sound) {dl : Delivery} {d : Direction}
    {m : WireMessage} (hbody : dl.body = encodeEnvelope d m) (hv : m.formatVersion = wireFormatVersion)
    (hres : w.store.Resolves d m) : w.Reads dl := by
  obtain ⟨c, hrun, hc⟩ := Engine.inflate_of_resolves hw hres
  refine ⟨d, m, c, ?_, hrun, hc, hc.deflate hv⟩
  rw [hbody, classify_encodeEnvelope d (by rw [hv]; decide), if_neg (by simp [hv, wireFormatVersion])]

/-- A world where workflow `wf` has job `j` starting at step `s`, which handler `h` maps, and
no request has been made. -/
def jobWorld : World where
  store := ⟨.memory ⟨[
    ("entities/handler/wf/h",
      ⟨1, Entity.toText (⟨"wf", "h", "", [], "src", "script", "v", .mapper, "none"⟩ : Handler)⟩),
    ("entities/job/wf/j", ⟨2, Entity.toText (⟨"wf", "j", "", "s"⟩ : Job)⟩),
    ("entities/step/wf/s", ⟨3, Entity.toText (⟨"wf", "s", "", "h", none, none⟩ : Step)⟩),
    ("entities/workflow/wf", ⟨4, Entity.toText (⟨"wf", "", none⟩ : Workflow)⟩)], 4, false, by decide⟩, []⟩

end MapReduce
