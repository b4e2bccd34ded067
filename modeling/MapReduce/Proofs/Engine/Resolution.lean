import MapReduce.Proofs.Engine.Placement
import MapReduce.Proofs.Engine.Wire
import Mathlib

/-! # Worlds whose messages resolve

A message names a workflow, a request, an invocation and a step; it resolves in a store when the
store holds all of them, the request's job, and the handlers the step needs for the message's
direction (`Store.Resolves`). A sound world (`World.Sound`) is one over the in-memory store with
room left below the revision ceiling, whose invocations and requests are placed at their keys as
texts that read back, whose definitions are placed and coherent, and whose every waiting message
resolves.

Programs are specified by `Keeps P prog Q`: from a sound world where `P` holds, a run that ends
with room below the ceiling ends in a sound world that has kept what messages need
(`World.Grows`), and answers a value satisfying `Q`. Whatever the store, the run moves its revision
only forward, which is what lets the room at the end of a run stand for the room at every step of
it. The rules here compose such specifications. -/

namespace MapReduce

/-- What a message's resolution reads of an invocation: its workflow, identifier, step and
direction. -/
def Invocation.routing (x : Invocation) : String × String × String × Direction :=
  (x.workflow, x.id, x.step, x.direction)

/-- What a message's resolution reads of a request: its workflow, identifier and job. -/
def Request.routing (x : Request) : String × String × String := (x.workflow, x.id, x.job)

/-! ## What the store holds -/

namespace Store

/-- A request of a workflow is ready to be worked on: the workflow, the request and its job are
stored. -/
def Requested (s : Store) (wf id : String) : Prop :=
  (∃ x : Workflow, s.Stores [wf] x) ∧
    ∃ r : Request, s.Holds r ∧ r.workflow = wf ∧ r.id = id ∧ ∃ j : Job, s.Stores [wf, r.job] j

/-- The handlers a step needs in a direction are stored: the map handler for a map, the reduce
handler, if the step has one, for a reduction. -/
def Served (s : Store) (wf : String) : Direction → Step → Prop
  | .map, st => ∃ h : Handler, s.Stores [wf, st.mapHandler] h
  | .reduce, st => ∀ name, st.reduceHandler = some name → ∃ h : Handler, s.Stores [wf, name] h

/-- The store holds an invocation with the routing of `x`. -/
def Tracks (s : Store) (x : Invocation) : Prop := ∃ x' : Invocation, s.Holds x' ∧ x'.routing = x.routing

/-- A message of a direction resolves: its request is ready, an invocation is held with the
message's workflow, invocation, step and direction, and its step is stored with the handlers it
needs. -/
def Resolves (s : Store) (d : Direction) (msg : WireMessage) : Prop :=
  s.Requested msg.workflow msg.request ∧
    (∃ i : Invocation, s.Holds i ∧ i.routing = (msg.workflow, msg.invocation, msg.step, d)) ∧
    ∃ st : Step, s.Stores [msg.workflow, msg.step] st ∧ s.Served msg.workflow d st

/-- A store on memory that nobody races, with room left below the revision ceiling. -/
def Room (s : Store) : Prop := ∃ m : MemoryStore, s = ⟨.memory m, []⟩ ∧ m.revision < MemoryStore.revisionBound

/-- A later store on memory that nobody races, its revision moved only forward within its
ceiling. -/
def Forward (s s' : Store) : Prop :=
  ∃ m m' : MemoryStore, s = ⟨.memory m, []⟩ ∧ s' = ⟨.memory m', []⟩ ∧ m.revision ≤ m'.revision ∧
    m'.revision ≤ MemoryStore.revisionBound

end Store

/-- An invocation that reads back from its stored text. -/
structure Invocation.Readable (x : Invocation) : Prop where
  createdAt : Text.normalTimestamp x.createdAt = .ok x.createdAt
  fanOut : x.fanOut.Bounded

theorem Invocation.readback : Readback Invocation.Readable :=
  fun _ hx => Invocation.decodeAs_toText hx.createdAt hx.fanOut

theorem Request.readback : Readback Request.Readable := fun _ hx => Request.decodeAs_toText hx

/-- The classes of the definitions of workflows. -/
def definitionClasses : List String := ["workflow", "job", "step", "handler"]

/-! ## Sound worlds -/

/-- A world whose waiting messages all resolve, over a store that keeps invocations and requests
placed at their keys as texts that read back, and definitions at their names, every step's
workflow stored. -/
structure World.Sound (w : World) : Prop where
  room : w.store.Room
  invocations : w.store.Placed Invocation Invocation.Readable
  requests : w.store.Placed Request Request.Readable
  workflows : ∀ (wf : String) (x : Workflow), w.store.Stores [wf] x → x.name = wf
  steps : ∀ (wf s : String) (x : Step), w.store.Stores [wf, s] x → x.name = s ∧ ∃ y : Workflow, w.store.Stores [wf] y
  handlers : ∀ (wf s : String) (x : Handler), w.store.Stores [wf, s] x → x.name = s
  waiting : ∀ dl ∈ w.broker.waiting, ∃ (d : Direction) (msg : WireMessage),
    dl.body = encodeEnvelope d msg ∧ msg.formatVersion = wireFormatVersion ∧ w.store.Resolves d msg

/-- What a later world keeps of an earlier one: every definition's node, the routing of every
held invocation and request, the waiting messages, and the revision. -/
structure World.Grows (w w' : World) : Prop where
  definitions : ∀ cls ∈ definitionClasses, ∀ rest : List String,
    w'.store.backend.get ⟨Identity.entityRoot :: cls :: rest⟩ = w.store.backend.get ⟨Identity.entityRoot :: cls :: rest⟩
  invocations : w.store.Retains Invocation.routing w'.store
  requests : w.store.Retains Request.routing w'.store
  waiting : w.broker.waiting <+: w'.broker.waiting
  revision : w.store.revision ≤ w'.store.revision

/-- A property of worlds that every later world keeps. -/
def Stable (P : World → Prop) : Prop := ∀ w w', w.Grows w' → P w → P w'

/-! ## Stores that move forward -/

namespace Store

theorem Aside.forward {s s' : Store} (h : s.Aside s') : s.Forward s' := by
  obtain ⟨m, m', rfl, rfl, hle, hb, -⟩ := h
  exact ⟨m, m', rfl, rfl, hle, hb⟩

theorem Forward.bounded {s s' : Store} (h : s.Forward s') : s'.Bounded := by
  obtain ⟨_, m', _, rfl, _, hb⟩ := h
  exact ⟨m', rfl, hb⟩

theorem Forward.trans {s₁ s₂ s₃ : Store} (h₁ : s₁.Forward s₂) (h₂ : s₂.Forward s₃) : s₁.Forward s₃ := by
  obtain ⟨m₁, m₂, rfl, rfl, hle₁, -⟩ := h₁
  obtain ⟨m₂', m₃, hm, rfl, hle₂, hb₃⟩ := h₂
  cases hm
  exact ⟨m₁, m₃, rfl, rfl, hle₁.trans hle₂, hb₃⟩

/-- Room left at the end of a forward run was left all along. -/
theorem Forward.room {s s' : Store} (h : s.Forward s') (h' : s'.Room) : s.Room := by
  obtain ⟨m, m', rfl, rfl, hle, -⟩ := h
  obtain ⟨m'', hm, hlt⟩ := h'
  cases hm
  exact ⟨m, rfl, lt_of_le_of_lt hle hlt⟩

theorem Forward.revision_le {s s' : Store} (h : s.Forward s') : s.revision ≤ s'.revision := by
  obtain ⟨m, m', rfl, rfl, hle, -⟩ := h
  exact hle

theorem Room.bounded {s : Store} (h : s.Room) : s.Bounded := by
  obtain ⟨m, rfl, hlt⟩ := h
  exact ⟨m, rfl, hlt.le⟩

/-- A write of an entity moves a bounded store forward. -/
theorem Wrote.forward {α : Type} [Entity α] {x : α} {s s' : Store} (hw : s.Wrote x s') (hs : s.Bounded) :
    s.Forward s' := by
  obtain ⟨m, p, rfl, -, rfl⟩ := hw
  obtain ⟨m', hm, hb⟩ := hs
  cases hm
  exact ⟨m, _, rfl, rfl, (MemoryStore.revision_le_write m hb _ _).1, (MemoryStore.revision_le_write m hb _ _).2⟩

/-- A write that leaves room moves the revision up by one. -/
theorem Wrote.revision_succ {α : Type} [Entity α] {x : α} {s s' : Store} (hw : s.Wrote x s')
    (hroom : s'.Room) : s'.revision = s.revision + 1 := by
  have heq := hw.revision_eq
  obtain ⟨m', rfl, hlt⟩ := hroom
  simp only [revision_memory] at heq ⊢
  omega

/-- Two stores aside read the same at every entity's key. -/
theorem Aside.get_entity {s s' : Store} (h : s.Aside s') (rest : List String) :
    s'.backend.get ⟨Identity.entityRoot :: rest⟩ = s.backend.get ⟨Identity.entityRoot :: rest⟩ := by
  obtain ⟨m, m', rfl, rfl, -, -, hsame⟩ := h
  show m'.get _ = m.get _
  unfold MemoryStore.get
  rcases hk : (Identity.mk (Identity.entityRoot :: rest)).encode with err | p
  · rfl
  · simp only [bind, Except.bind, hsame rest p hk]

theorem Aside.stores {s s' : Store} (h : s.Aside s') {α : Type} [Entity α] {identity : List String}
    {x : α} (hx : s.Stores identity x) : s'.Stores identity x := by
  obtain ⟨n, hn, hd⟩ := hx
  exact ⟨n, (h.get_entity _).trans hn, hd⟩

theorem Aside.stores_iff {s s' : Store} (h : s.Aside s') {α : Type} [Entity α] {identity : List String}
    {x : α} : s'.Stores identity x ↔ s.Stores identity x := by
  constructor
  · rintro ⟨n, hn, hd⟩
    exact ⟨n, (h.get_entity _).symm.trans hn, hd⟩
  · exact h.stores

theorem Aside.placed {s s' : Store} (h : s.Aside s') {α : Type} [Entity α] {R : α → Prop}
    (hP : s.Placed α R) : s'.Placed α R :=
  fun identity n hn => hP identity n ((h.get_entity _).symm.trans hn)

theorem Aside.retains {s s' : Store} (h : s.Aside s') {α κ : Type} [Entity α] (key : α → κ) :
    s.Retains key s' :=
  fun x hx => ⟨x, h.stores hx, rfl⟩

end Store

namespace World

theorem Grows.refl (w : World) : w.Grows w :=
  ⟨fun _ _ _ => rfl, .refl _ _, .refl _ _, List.prefix_refl _, le_rfl⟩

theorem Grows.trans {w₁ w₂ w₃ : World} (h₁ : w₁.Grows w₂) (h₂ : w₂.Grows w₃) : w₁.Grows w₃ where
  definitions cls hcls rest := (h₂.definitions cls hcls rest).trans (h₁.definitions cls hcls rest)
  invocations := h₁.invocations.trans h₂.invocations
  requests := h₁.requests.trans h₂.requests
  waiting := h₁.waiting.trans h₂.waiting
  revision := h₁.revision.trans h₂.revision

/-- A world whose store keeps every entity's node and whose broker is the same keeps everything
messages need. -/
theorem Grows.of_aside {w w' : World} (hs : w.store.Aside w'.store) (hb : w'.broker = w.broker) :
    w.Grows w' where
  definitions cls _ rest := hs.get_entity (cls :: rest)
  invocations := hs.retains _
  requests := hs.retains _
  waiting := by rw [hb]
  revision := hs.forward.revision_le

/-- A definition stored stays stored. -/
theorem Grows.stores {w w' : World} (h : w.Grows w') {α : Type} [Entity α]
    (hcls : Entity.className α ∈ definitionClasses) {identity : List String} {x : α}
    (hx : w.store.Stores identity x) : w'.store.Stores identity x := by
  obtain ⟨n, hn, hdec⟩ := hx
  refine ⟨n, ?_, hdec⟩
  rw [EntityStore.entityKey_eq] at hn ⊢
  rw [h.definitions _ hcls identity, hn]

theorem Grows.tracks {w w' : World} (h : w.Grows w') {x : Invocation} (hx : w.store.Tracks x) :
    w'.store.Tracks x := by
  obtain ⟨x₁, hx₁, hr₁⟩ := hx
  obtain ⟨x₂, hx₂, hr₂⟩ := h.invocations x₁ hx₁
  exact ⟨x₂, hx₂, hr₂.trans hr₁⟩

theorem Grows.requested {w w' : World} (h : w.Grows w') {wf id : String}
    (hr : w.store.Requested wf id) : w'.store.Requested wf id := by
  obtain ⟨⟨x, hx⟩, r, hr, rfl, rfl, j, hj⟩ := hr
  obtain ⟨r', hr', hroute⟩ := h.requests r hr
  simp only [Request.routing, Prod.mk.injEq] at hroute
  obtain ⟨hwf, hid, hjob⟩ := hroute
  exact ⟨⟨x, h.stores (by decide) hx⟩, r', hr', hwf, hid, j, hjob ▸ h.stores (by decide) hj⟩

theorem Grows.served {w w' : World} (h : w.Grows w') {wf : String} {d : Direction} {st : Step}
    (hs : w.store.Served wf d st) : w'.store.Served wf d st := by
  cases d with
  | map =>
    obtain ⟨x, hx⟩ := hs
    exact ⟨x, h.stores (by decide) hx⟩
  | reduce =>
    intro name hname
    obtain ⟨x, hx⟩ := hs name hname
    exact ⟨x, h.stores (by decide) hx⟩

theorem Grows.resolves {w w' : World} (h : w.Grows w') {d : Direction} {msg : WireMessage}
    (hr : w.store.Resolves d msg) : w'.store.Resolves d msg := by
  obtain ⟨hreq, ⟨i, hi, hroute⟩, st, hst, hserved⟩ := hr
  obtain ⟨i', hi', hroute'⟩ := h.invocations i hi
  exact ⟨h.requested hreq, ⟨i', hi', hroute'.trans hroute⟩, st, h.stores (by decide) hst, h.served hserved⟩

/-- A sound world stays sound when its store keeps every entity's node, its broker is the same and
room is left. -/
theorem Sound.of_aside {w w' : World} (hw : w.Sound) (hs : w.store.Aside w'.store)
    (hb : w'.broker = w.broker) (hroom : w'.store.Room) : w'.Sound where
  room := hroom
  invocations := hs.placed hw.invocations
  requests := hs.placed hw.requests
  workflows wf x hx := hw.workflows wf x (hs.stores_iff.mp hx)
  steps wf s x hx := by
    obtain ⟨hname, y, hy⟩ := hw.steps wf s x (hs.stores_iff.mp hx)
    exact ⟨hname, y, hs.stores hy⟩
  handlers wf s x hx := hw.handlers wf s x (hs.stores_iff.mp hx)
  waiting dl hdl := by
    rw [hb] at hdl
    obtain ⟨d, msg, hbody, hv, hres⟩ := hw.waiting dl hdl
    exact ⟨d, msg, hbody, hv, (Grows.of_aside hs hb).resolves hres⟩

end World

/-! ## Specifications of programs -/

/-- Run from a world over a bounded memory store, the program moves the revision only forward;
when the run ends with room left, from a sound world where `P` holds it ends in a sound world that
keeps what messages need, answering a value that satisfies `Q`. -/
def Keeps {α : Type} (P : World → Prop) (prog : EngineM α) (Q : α → World → Prop) : Prop :=
  ∀ w : World, w.store.Bounded → w.store.Forward (prog.run w).2.store ∧
    ((prog.run w).2.store.Room → w.Sound → P w →
      (prog.run w).2.Sound ∧ w.Grows (prog.run w).2 ∧ ∀ a, (prog.run w).1 = .ok a → Q a (prog.run w).2)

namespace Keeps

variable {α β : Type} {P P' : World → Prop} {Q Q' : α → World → Prop}

/-- An inert program keeps every stable property. -/
theorem of_inert {prog : EngineM α} (h : Inert prog) (hP : Stable P) : Keeps P prog fun _ => P := by
  intro w hw
  obtain ⟨hs, hb⟩ := h w hw
  have hg := World.Grows.of_aside hs hb
  exact ⟨hs.forward, fun hroom hsound hp =>
    ⟨hsound.of_aside hs hb hroom, hg, fun _ _ => hP _ _ hg hp⟩⟩

/-- A program that leaves the world as it is, answering only values that satisfy `Q` where `P`
holds. -/
theorem of_quiet {prog : EngineM α} (h : Quiet prog)
    (hQ : ∀ w a, w.Sound → P w → (prog.run w).1 = .ok a → Q a w) : Keeps P prog Q := by
  intro w hw
  rw [h w]
  obtain ⟨m, hm, hb⟩ := hw
  exact ⟨⟨m, m, hm, hm, le_rfl, hb⟩, fun _ hsound hp => ⟨hsound, .refl w, fun a ha => hQ w a hsound hp ha⟩⟩

theorem pure {a : α} (h : ∀ w, w.Sound → P w → Q a w) : Keeps P (Pure.pure a : EngineM α) Q :=
  of_quiet (Quiet.pure a) fun w b hs hp hb => by cases hb; exact h w hs hp

theorem fail (e : EngineError) : Keeps P (EngineM.fail e : EngineM α) Q :=
  of_quiet (EngineM.fail_quiet e) fun _ _ _ _ h => by cases h

theorem throw_abort : Keeps P (throw .abort : EngineM α) Q :=
  of_quiet (fun _ => rfl) fun _ _ _ _ h => by cases h

theorem ofExcept (r : Except EngineError α) : Keeps P (EngineM.ofExcept r) fun a w => P w ∧ r = .ok a := by
  cases r with
  | ok a => exact pure fun _ _ hp => ⟨hp, rfl⟩
  | error e => exact fail e

/-- A specification holds under a stronger precondition and a weaker postcondition, each read in
sound worlds only. -/
theorem mono {prog : EngineM α} (h : Keeps P prog Q) (hP : ∀ w, w.Sound → P' w → P w)
    (hQ : ∀ a w, w.Sound → Q a w → Q' a w) : Keeps P' prog Q' := by
  intro w hw
  obtain ⟨hf, hc⟩ := h w hw
  exact ⟨hf, fun hroom hs hp =>
    let ⟨h1, h2, h3⟩ := hc hroom hs (hP w hs hp); ⟨h1, h2, fun a ha => hQ a _ h1 (h3 a ha)⟩⟩

theorem bind {R : β → World → Prop} {m : EngineM α} {f : α → EngineM β} (hm : Keeps P m Q)
    (hf : ∀ a, Keeps (Q a) (f a) R) : Keeps P (m >>= f) R := by
  intro w hw
  obtain ⟨hfw, hcond⟩ := hm w hw
  rcases h : m.run w with ⟨r, w₁⟩
  rw [h] at hfw hcond
  cases r with
  | ok a =>
    rw [run_bind_ok h]
    obtain ⟨hfw', hcond'⟩ := hf a w₁ hfw.bounded
    refine ⟨hfw.trans hfw', fun hroom hs hp => ?_⟩
    obtain ⟨hs₁, hg₁, hq₁⟩ := hcond (hfw'.room hroom) hs hp
    obtain ⟨hs₂, hg₂, hr₂⟩ := hcond' hroom hs₁ (hq₁ a rfl)
    exact ⟨hs₂, hg₁.trans hg₂, hr₂⟩
  | error e =>
    rw [run_bind_error h]
    refine ⟨hfw, fun hroom hs hp => ?_⟩
    obtain ⟨hs₁, hg₁, -⟩ := hcond hroom hs hp
    exact ⟨hs₁, hg₁, fun _ h => by cases h⟩

theorem catchFailure {m : EngineM α} {h : EngineError → EngineM α} (hm : Keeps P m Q)
    (hh : ∀ err, Keeps P (h err) Q) (hP : Stable P) : Keeps P (EngineM.catchFailure m h) Q := by
  intro w hw
  obtain ⟨hfw, hcond⟩ := hm w hw
  rcases hrun : m.run w with ⟨r, w₁⟩
  rw [hrun] at hfw hcond
  cases r with
  | error f =>
    cases f with
    | error err =>
      rw [EngineM.catchFailure_run_error hrun]
      obtain ⟨hfw', hcond'⟩ := hh err w₁ hfw.bounded
      refine ⟨hfw.trans hfw', fun hroom hs hp => ?_⟩
      obtain ⟨hs₁, hg₁, -⟩ := hcond (hfw'.room hroom) hs hp
      obtain ⟨hs₂, hg₂, hq₂⟩ := hcond' hroom hs₁ (hP _ _ hg₁ hp)
      exact ⟨hs₂, hg₁.trans hg₂, hq₂⟩
    | abort =>
      rw [EngineM.catchFailure_run_abort hrun]
      refine ⟨hfw, fun hroom hs hp => ?_⟩
      obtain ⟨hs₁, hg₁, -⟩ := hcond hroom hs hp
      exact ⟨hs₁, hg₁, fun _ h => by cases h⟩
  | ok a =>
    rw [EngineM.catchFailure_run_ok hrun]
    exact ⟨hfw, hcond⟩

theorem attempt {m : EngineM Unit} (hm : Keeps P m fun _ => P) (hP : Stable P) :
    Keeps P (EngineM.attempt m) fun _ => P :=
  catchFailure hm (fun _ => pure fun _ _ hp => hp) hP

theorem result {m : EngineM α} (hm : Keeps P m fun _ => P) (hP : Stable P) :
    Keeps P (EngineM.result m) fun _ => P := by
  refine catchFailure ?_ (fun _ => pure fun _ _ hp => hp) hP
  intro w hw
  obtain ⟨hf, hc⟩ := hm w hw
  simp only [ExceptT.map, ExceptT.run, ExceptT.mk, Bind.bind, StateT.bind] at hf hc ⊢
  rcases h : m w with ⟨r, w₁⟩
  rw [h] at hf hc
  cases r with
  | ok a =>
    exact ⟨hf, fun hroom hs hp => let ⟨h1, h2, h3⟩ := hc hroom hs hp; ⟨h1, h2, fun _ _ => h3 a rfl⟩⟩
  | error e =>
    exact ⟨hf, fun hroom hs hp => let ⟨h1, h2, _⟩ := hc hroom hs hp; ⟨h1, h2, fun _ h => by cases h⟩⟩

/-- A loop keeps an invariant that each pass keeps. -/
theorem forIn {I : β → World → Prop} {xs : List α} {init : β} {f : α → β → EngineM (ForInStep β)}
    (hf : ∀ a ∈ xs, ∀ b, Keeps (I b) (f a b) fun r => I r.value) : Keeps (I init) (forIn xs init f) I := by
  induction xs generalizing init with
  | nil => exact pure fun _ _ h => h
  | cons a as ih =>
    rw [List.forIn_cons]
    refine bind (hf a List.mem_cons_self init) fun r => ?_
    cases r with
    | done b => exact pure fun _ _ h => h
    | yield b => exact ih fun a' ha' => hf a' (List.mem_cons_of_mem _ ha')

end Keeps

/-! ## Writes of entities -/

theorem EngineM.domain_run_error {α : Type} {d : DomainM α} {w : World} {err : DomainError} {s : Store}
    (h : d.run w.store = (.error err, s)) :
    (EngineM.domain d).run w = (.error (.error (.domain err)), { w with store := s }) := by
  show EngineM.domain d w = _
  unfold EngineM.domain
  rw [h]

namespace World

/-- A write of an entity of a class that holds no definition keeps a sound world sound and grows
it, when the invocations and requests stay placed and what messages need of them is kept. -/
theorem Sound.of_wrote {α : Type} [Entity α] {x : α} {w w' : World} (hw : w.Sound)
    (hwr : w.store.Wrote x w'.store) (hb : w'.broker = w.broker)
    (hcls : Entity.className α ∉ definitionClasses) (hroom : w'.store.Room)
    (hinv : w'.store.Placed Invocation Invocation.Readable)
    (hreq : w'.store.Placed Request Request.Readable)
    (hri : w.store.Retains Invocation.routing w'.store) (hrr : w.store.Retains Request.routing w'.store) :
    w'.Sound ∧ w.Grows w' := by
  have hne : ∀ cls ∈ definitionClasses, cls ≠ Entity.className α := fun cls h he => hcls (he ▸ h)
  have hg : w.Grows w' :=
    ⟨fun cls hc rest => hwr.get_other_class (hne cls hc) rest, hri, hrr, by rw [hb],
      (hwr.forward hw.room.bounded).revision_le⟩
  have hwf : ∀ {ids : List String} {y : Workflow}, w'.store.Stores ids y ↔ w.store.Stores ids y :=
    hwr.stores_other (hne "workflow" (by decide))
  have hst : ∀ {ids : List String} {y : Step}, w'.store.Stores ids y ↔ w.store.Stores ids y :=
    hwr.stores_other (hne "step" (by decide))
  have hha : ∀ {ids : List String} {y : Handler}, w'.store.Stores ids y ↔ w.store.Stores ids y :=
    hwr.stores_other (hne "handler" (by decide))
  refine ⟨⟨hroom, hinv, hreq, fun wf y hy => hw.workflows wf y (hwf.mp hy), fun wf s y hy => ?_,
    fun wf s y hy => hw.handlers wf s y (hha.mp hy), fun dl hdl => ?_⟩, hg⟩
  · obtain ⟨hname, z, hz⟩ := hw.steps wf s y (hst.mp hy)
    exact ⟨hname, z, hwf.mpr hz⟩
  · rw [hb] at hdl
    obtain ⟨d, msg, hbody, hv, hres⟩ := hw.waiting dl hdl
    exact ⟨d, msg, hbody, hv, hg.resolves hres⟩

/-- Writing a readable invocation that keeps the routing of the one held at its identity keeps a
sound world sound and grows it. -/
theorem Sound.wrote_invocation {x : Invocation} {w w' : World} (hw : w.Sound)
    (hwr : w.store.Wrote x w'.store) (hb : w'.broker = w.broker) (hx : x.Readable)
    (hsame : ∀ y : Invocation, w.store.Holds y → Entity.identity y = Entity.identity x → y.routing = x.routing)
    (hroom : w'.store.Room) : w'.Sound ∧ w.Grows w' :=
  hw.of_wrote hwr hb (by decide) hroom (hwr.placed hx hw.invocations) (hwr.placed_other (by decide) hw.requests)
    (hwr.retains (Invocation.readback x hx) hsame) (hwr.retains_other _ (by decide))

/-- Writing a readable request that keeps the routing of the one held at its identity keeps a
sound world sound and grows it. -/
theorem Sound.wrote_request {x : Request} {w w' : World} (hw : w.Sound)
    (hwr : w.store.Wrote x w'.store) (hb : w'.broker = w.broker) (hx : x.Readable)
    (hsame : ∀ y : Request, w.store.Holds y → Entity.identity y = Entity.identity x → y.routing = x.routing)
    (hroom : w'.store.Room) : w'.Sound ∧ w.Grows w' :=
  hw.of_wrote hwr hb (by decide) hroom (hwr.placed_other (by decide) hw.invocations) (hwr.placed hx hw.requests)
    (hwr.retains_other _ (by decide)) (hwr.retains (Request.readback x hx) hsame)

end World

namespace Keeps

variable {α β : Type} {P : World → Prop}

/-- An entity-layer program that on the memory store either fails with nothing changed or writes
one entity is kept when each of its writes is. -/
theorem domain_write {γ : Type} [Entity γ] {d : DomainM β} {Q : β → World → Prop}
    (hfail : ∀ m err s', d.run ⟨.memory m, []⟩ = (.error err, s') → s' = ⟨.memory m, []⟩)
    (hok : ∀ (w : World) b s', w.store.Bounded → d.run w.store = (.ok b, s') →
      ∃ x : γ, w.store.Wrote x s' ∧ (w.Sound → P w → s'.Room →
        ({ w with store := s' } : World).Sound ∧ w.Grows { w with store := s' } ∧ Q b { w with store := s' })) :
    Keeps P (EngineM.domain d) Q := by
  intro w hw
  rcases hrun : d.run w.store with ⟨_ | b, s'⟩
  · rw [EngineM.domain_run_error hrun]
    obtain ⟨m, hm, hb⟩ := hw
    have hs' : s' = w.store := (hfail m _ s' (hm ▸ hrun)).trans hm.symm
    subst hs'
    exact ⟨⟨m, m, hm, hm, le_rfl, hb⟩, fun _ hs _ => ⟨hs, .refl w, fun _ h => by cases h⟩⟩
  · obtain ⟨x, hwr, hkeep⟩ := hok w b s' hw hrun
    rw [EngineM.domain_run_ok hrun]
    refine ⟨hwr.forward hw, fun hroom hs hp => ?_⟩
    obtain ⟨h1, h2, h3⟩ := hkeep hs hp hroom
    exact ⟨h1, h2, fun a ha => by cases ha; exact h3⟩

end Keeps

/-! ## The classes the engine writes -/

/-- What sound worlds ask of a class of entities the engine writes: the texts of its readable
entities read back, the routing of an entity fixes its identity, saving checks nothing, every
sound world keeps the class placed, and writing a readable entity that keeps the routing of the
one it replaces keeps a world sound. -/
structure Tracked (γ κ : Type) [Entity γ] where
  Readable : γ → Prop
  readback : Readback Readable
  routing : γ → κ
  identity_eq : ∀ x y : γ, routing x = routing y → Entity.identity x = Entity.identity y
  presave : ∀ x : γ, Entity.presave x = .ok x
  placed : ∀ w : World, w.Sound → w.store.Placed γ Readable
  wrote : ∀ {x : γ} {w w' : World}, w.Sound → w.store.Wrote x w'.store → w'.broker = w.broker →
    Readable x → (∀ y : γ, w.store.Holds y → Entity.identity y = Entity.identity x → routing y = routing x) →
    w'.store.Room → w'.Sound ∧ w.Grows w'

/-- Invocations, routed by workflow, identifier, step and direction. -/
def Tracked.invocations : Tracked Invocation (String × String × String × Direction) where
  Readable := Invocation.Readable
  readback := Invocation.readback
  routing := Invocation.routing
  identity_eq x y h := by
    simp only [Invocation.routing, Prod.mk.injEq] at h
    show [x.workflow, x.id] = [y.workflow, y.id]
    rw [h.1, h.2.1]
  presave _ := rfl
  placed _ hw := hw.invocations
  wrote hw hwr hb hx hsame hroom := hw.wrote_invocation hwr hb hx hsame hroom

/-- Requests, routed by workflow, identifier and job. -/
def Tracked.requests : Tracked Request (String × String × String) where
  Readable := Request.Readable
  readback := Request.readback
  routing := Request.routing
  identity_eq x y h := by
    simp only [Request.routing, Prod.mk.injEq] at h
    show [x.workflow, x.id] = [y.workflow, y.id]
    rw [h.1, h.2.1]
  presave _ := rfl
  placed _ hw := hw.requests
  wrote hw hwr hb hx hsame hroom := hw.wrote_request hwr hb hx hsame hroom

namespace Keeps

variable {γ κ β : Type} [Entity γ] {P : World → Prop}

/-- An atomic update of a tracked class keeps a stable property when every change it may make of
the stored entity is readable and keeps its routing. -/
theorem update (T : Tracked γ κ) (hP : Stable P) (e : Engine) (identity : List String)
    (mutate : γ → Except DomainError (γ × β))
    (hmut : ∀ (w : World) (y x' : γ) (b : β), w.Sound → P w → w.store.Stores identity y →
      mutate y = .ok (x', b) → T.Readable x' ∧ T.routing x' = T.routing y) :
    Keeps P (e.update identity mutate) fun _ => P := by
  unfold Engine.update
  refine domain_write (γ := γ) (fun m _ _ h => EntityStore.atomicUpdate_memory_error T.presave h) ?_
  rintro w ⟨r, b⟩ s' ⟨m, hm, -⟩ hrun
  rw [hm] at hrun
  obtain ⟨y, hy, hmy, hwr⟩ := EntityStore.atomicUpdate_memory_ok T.presave hrun
  rw [← hm] at hy hwr
  refine ⟨r.data, hwr, fun hs hp hroom => ?_⟩
  obtain ⟨hread, hroute⟩ := hmut w y r.data b hs hp hy hmy
  have hsame : ∀ z : γ, w.store.Holds z → Entity.identity z = Entity.identity r.data →
      T.routing z = T.routing r.data := by
    intro z hz hid
    obtain ⟨hidy, -, -⟩ := (T.placed w hs).stores T.readback hy
    have hzy : w.store.Stores identity z := by
      rw [← hidy, ← T.identity_eq _ _ hroute, ← hid]
      exact hz
    rw [hzy.unique hy, hroute]
  obtain ⟨hs', hg⟩ := @Tracked.wrote _ _ _ T _ w { w with store := s' } hs hwr rfl hread hsame hroom
  exact ⟨hs', hg, hP _ _ hg hp⟩

/-- Creating a readable entity of a tracked class keeps a stable property, holds the entity and
moves the revision up. -/
theorem create (T : Tracked γ κ) (hP : Stable P) {x : γ} (hx : T.Readable x) (k : Nat) :
    Keeps (fun w => P w ∧ k ≤ w.store.revision) (EngineM.domain (EntityStore.create x))
      fun r w => (P w ∧ k < w.store.revision) ∧ r.data = x ∧ w.store.Holds x := by
  have hsave : ∀ m, _ := fun m => EntityStore.save_memory (m := m) (r := ⟨x, none⟩) (T.presave x)
  refine domain_write (γ := γ) (fun m err s' h => ?_) ?_
  · rcases hsave m with ⟨err', h'⟩ | ⟨v, s'', h', -, -⟩
    · exact (Prod.mk.inj (h.symm.trans h')).2
    · exact absurd (Prod.mk.inj (h.symm.trans h')).1 (by simp)
  · rintro w r s' ⟨m, hm, -⟩ hrun
    rw [hm] at hrun
    rcases hsave m with ⟨err', h'⟩ | ⟨v, s'', h', hwr, habsent⟩
    · exact absurd (Prod.mk.inj (hrun.symm.trans h')).1 (by simp)
    obtain ⟨hr, hs''⟩ := Prod.mk.inj (hrun.symm.trans h')
    have hr' := Except.ok.inj hr
    subst hs'' hr'
    dsimp only at hwr habsent
    rw [← hm] at hwr habsent
    refine ⟨x, hwr, fun hs hp hroom => ?_⟩
    have hsame : ∀ y : γ, w.store.Holds y → Entity.identity y = Entity.identity x →
        T.routing y = T.routing x := fun y hy hid => absurd (hid ▸ hy) (habsent rfl y)
    obtain ⟨hs', hg⟩ := @Tracked.wrote _ _ _ T _ w { w with store := s' } hs hwr rfl hx hsame hroom
    refine ⟨hs', hg, ⟨hP _ _ hg hp.1, ?_⟩, rfl, hwr.holds_self (T.readback x hx)⟩
    rw [hwr.revision_succ hroom]
    exact Nat.lt_succ_of_le hp.2

end Keeps

end MapReduce
