import MapReduce.Proofs.Engine.Closing
import MapReduce.Proofs.Engine.Fence
import Mathlib

/-! # What a failure leaves behind

On the in-memory store, which no write of the engine's own can make fail, `recordFailure` of an
open request writes the failure's text on its invocation, closes the request as failed at that
invocation and sends one "request failed" notification. From then on every message of the request
is abandoned with nothing written or sent, and completing the request sends nothing either.

The proofs follow the program: an atomic update that nobody races goes through at its first
attempt (`update_memory`), the queueing for cleanup writes below `queues` and so leaves every
entity where it was (`attempt_scheduleCleanup_memory`), and a message is read through `inflate`
before anything is written (`inflate_request`). -/

namespace MapReduce

/-! ## Paths of entities and of queues -/

/-- The segments after the first of an identity, joined as its path joins them, start with the
second segment. -/
theorem Identity.display_cons (a : String) (rest : List String) :
    ∃ t, Identity.display ⟨a :: rest⟩ = a ++ t := by
  cases rest with
  | nil => exact ⟨"", by simp [Identity.display, String.intercalate_singleton]⟩
  | cons b bs =>
    exact ⟨"/" ++ "/".intercalate (b :: bs), by
      simp [Identity.display, String.intercalate_cons_of_ne_nil, String.append_assoc]⟩

/-- The path of an identity starts with its first two segments. -/
theorem Identity.encode_cons_cons {a b : String} {rest : List String} {p : String}
    (h : (Identity.mk (a :: b :: rest)).encode = .ok p) : ∃ t, p = a ++ "/" ++ (b ++ t) := by
  unfold Identity.encode at h
  split at h
  · cases h
  · cases h
    obtain ⟨t, ht⟩ := Identity.display_cons b rest
    refine ⟨t, ?_⟩
    simp only [Identity.display] at ht ⊢
    rw [String.intercalate_cons_of_ne_nil (by simp), ht]

/-- The path of an identity starts with its first segment. -/
theorem Identity.encode_cons {a : String} {rest : List String} {p : String}
    (h : (Identity.mk (a :: rest)).encode = .ok p) : ∃ t, p = a ++ t := by
  unfold Identity.encode at h
  split at h
  · cases h
  · cases h
    exact Identity.display_cons a rest

/-- The path of an entity is never below a queue. -/
theorem entityKey_ne_queue {α : Type} [Entity α] {identity : List String} {p : String}
    (hp : (EntityStore.entityKey α identity).encode = .ok p) {rest : List String} {root : String}
    (hroot : (Identity.mk (Identity.queueRoot :: rest)).encode = .ok root) (name : String) :
    p ≠ root ++ "/" ++ name := by
  obtain ⟨t, rfl⟩ := Identity.encode_cons hp
  obtain ⟨t', rfl⟩ := Identity.encode_cons hroot
  intro h
  have := congrArg (fun s => s.toList.head?) h
  simp [Identity.entityRoot, Identity.queueRoot, String.toList_append] at this

/-- A request and an invocation have two paths. -/
theorem request_path_ne_invocation_path {i j : List String} {p q : String}
    (hp : (EntityStore.entityKey Request i).encode = .ok p)
    (hq : (EntityStore.entityKey Invocation j).encode = .ok q) : p ≠ q := by
  obtain ⟨t, rfl⟩ := Identity.encode_cons_cons hp
  obtain ⟨t', rfl⟩ := Identity.encode_cons_cons hq
  intro h
  have := congrArg String.toList h
  simp [Entity.className, String.toList_append] at this

namespace MemoryStore

/-- An append to a queue leaves every entity's node as it was. -/
theorem find?_append_entity {s s' : MemoryStore} {rest : List String} {value : String} {r : String × Nat}
    (h : s.append ⟨Identity.queueRoot :: rest⟩ value = .ok (r, s')) {α : Type} [Entity α]
    {identity : List String} {p : String} (hp : (EntityStore.entityKey α identity).encode = .ok p) :
    s'.find? p = s.find? p := by
  obtain ⟨root, hroot, rfl⟩ := append_eq_write h
  rw [find?_write, if_neg (entityKey_ne_queue hp hroot _)]

end MemoryStore

/-! ## Engine programs on the in-memory store -/

/-- Every value a program answers, from any state, satisfies `P`. -/
def Yields {ε σ α : Type} (P : α → Prop) (m : ExceptT ε (StateM σ) α) : Prop :=
  ∀ s a s', m.run s = (.ok a, s') → P a

namespace Yields

variable {ε σ α β : Type} {P : β → Prop}

theorem pure {b : β} (h : P b) : Yields P (Pure.pure b : ExceptT ε (StateM σ) β) := by
  intro s a s' hrun
  cases hrun
  exact h

theorem bind {m : ExceptT ε (StateM σ) α} {f : α → ExceptT ε (StateM σ) β} (hf : ∀ a, Yields P (f a)) :
    Yields P (m >>= f) := by
  intro s b s' hrun
  rcases h : m.run s with ⟨r, s₁⟩
  cases r with
  | ok a => rw [run_bind_ok h] at hrun; exact hf a _ _ _ hrun
  | error e => rw [run_bind_error h] at hrun; cases hrun

theorem fail (e : EngineError) {P : β → Prop} : Yields P (EngineM.fail e : EngineM β) := by
  intro s b s' hrun
  cases hrun

end Yields

namespace EngineM

variable {α : Type} {m : EngineM α} {w w' : World}

theorem catchFailure_run_ok {a : α} {h : EngineError → EngineM α} (hm : m.run w = (.ok a, w')) :
    (catchFailure m h).run w = (.ok a, w') := by
  simp only [catchFailure, tryCatch, tryCatchThe, MonadExceptOf.tryCatch, ExceptT.tryCatch, ExceptT.run,
    ExceptT.mk, bind, StateT.bind] at hm ⊢
  rw [hm]
  rfl

theorem catchFailure_run_error {err : EngineError} {h : EngineError → EngineM α}
    (hm : m.run w = (.error (.error err), w')) : (catchFailure m h).run w = (h err).run w' := by
  simp only [catchFailure, tryCatch, tryCatchThe, MonadExceptOf.tryCatch, ExceptT.tryCatch, ExceptT.run,
    ExceptT.mk, bind, StateT.bind] at hm ⊢
  rw [hm]

/-- A program run for its effects only goes on where it stopped, whether it succeeded or failed. -/
theorem attempt_run {m : EngineM Unit} (hm : m.run w = (.ok (), w') ∨ ∃ err, m.run w = (.error (.error err), w')) :
    (attempt m).run w = (.ok (), w') := by
  rcases hm with hm | ⟨err, hm⟩
  · exact catchFailure_run_ok hm
  · rw [attempt, catchFailure_run_error hm]
    rfl

theorem result_run_ok {a : α} (hm : m.run w = (.ok a, w')) : (result m).run w = (.ok (.ok a), w') := by
  have hmap : (m.map (Except.ok (ε := EngineError))).run w = (.ok (.ok a), w') := by
    simp only [ExceptT.map, ExceptT.run, ExceptT.mk, bind, StateT.bind] at hm ⊢
    rw [hm]
    rfl
  exact catchFailure_run_ok hmap

end EngineM

/-- Queueing a request for cleanup on the in-memory store is an append of its entry below the
queue's identity. -/
theorem CleanupQueue.add_run_memory (wf request now : String) (m : MemoryStore) :
    ((CleanupQueue.mk wf).add request now).run ⟨.memory m, []⟩ =
      match m.append (Identity.mk [Identity.queueRoot, "request_cleanup", wf])
          (Json.write (CleanupEntry.toJson ⟨request, now⟩)) with
      | .error err => (.error (.kv err), ⟨.memory m, []⟩)
      | .ok (_, m') => (.ok (), ⟨.memory m', []⟩) := by
  rcases h : m.append (Identity.mk [Identity.queueRoot, "request_cleanup", wf])
      (Json.write (CleanupEntry.toJson ⟨request, now⟩)) with err | ⟨r, m'⟩ <;>
  simp [CleanupQueue.add, CleanupQueue.queue, Queue.ofIdentity, Queue.add, Queue.root,
    Kv.appendJson, Kv.append, Kv.write, Backend.append, Backend.onMemory, Identity.join,
    Identity.ofList, h, liftKv, ExceptT.adapt, ExceptT.run, ExceptT.mk, bind, ExceptT.bind,
    ExceptT.bindCont, StateT.bind, Functor.map, StateT.map, Except.mapError, pure, ExceptT.pure,
    StateT.pure]

/-- The notifications a notifier keeps of one it is sent: that one when it records them, none
when it only logs them. -/
def Notifier.kept : Notifier → String → String → List (String × String)
  | .recording, subject, message => [(subject, message)]
  | .logging, _, _ => []

namespace Engine

variable (e : Engine) {w : World} {m : MemoryStore}

theorem notify_run (subject message : String) (w : World) :
    (e.notify subject message).run w =
      (.ok (), { w with events := w.events ++ e.notifier.kept subject message }) := by
  cases h : e.notifier <;> simp [notify, h, Notifier.kept] <;> rfl

/-- An update of the engine, on the in-memory store that nobody races, of an entity it holds goes
through at its first attempt. -/
theorem update_memory {α β : Type} [Entity α] {identity : List String}
    {mutate : α → Except DomainError (α × β)} {path : String} {n : Node} {x x' : α} {b : β}
    (hstore : w.store = ⟨.memory m, []⟩) (hkey : (EntityStore.entityKey α identity).encode = .ok path)
    (hnode : m.find? path = some n) (hdec : Kv.decodeAs Entity.decode n.value = .ok x)
    (hmut : mutate x = .ok (x', b)) (hpre : Entity.presave x' = .ok x')
    (hkey' : (EntityStore.recordKey x').encode = .ok path) :
    (e.update identity mutate).run w = (.ok (⟨x', some (m.write path (Entity.toText x')).1⟩, b),
      { w with store := ⟨.memory (m.write path (Entity.toText x')).2, []⟩ }) := by
  have h := EntityStore.atomicUpdate_memory e.config.maxAttempts hkey hnode hdec hmut hpre hkey'
  rw [← hstore] at h
  exact EngineM.domain_run_ok h

/-- Reading a message gives the request the store holds under the message's workflow and request. -/
theorem inflate_request {msg : WireMessage} {w : World} {c : InvocationContext}
    (h : ((inflate msg).run w).1 = .ok c) :
    (load Request [msg.workflow, msg.request]).run w = (.ok c.request, w) := by
  have hrun : (inflate msg).run w = (.ok c, w) := Prod.ext h (inflate_quiet msg w)
  unfold inflate at hrun
  dsimp only at hrun
  rcases h₁ : (load Workflow [msg.workflow]).run w with ⟨r₁, w₁⟩
  have hw₁ : w₁ = w := by rw [← load_quiet Workflow [msg.workflow] w, h₁]
  subst hw₁
  cases r₁ with
  | error err => rw [run_bind_error h₁] at hrun; cases hrun
  | ok wfr =>
    rw [run_bind_ok h₁] at hrun
    rcases h₂ : (load Request [msg.workflow, msg.request]).run w₁ with ⟨r₂, w₂⟩
    have hw₂ : w₂ = w₁ := by rw [← load_quiet Request [msg.workflow, msg.request] w₁, h₂]
    subst hw₂
    cases r₂ with
    | error err => rw [run_bind_error h₂] at hrun; cases hrun
    | ok req =>
      rw [run_bind_ok h₂] at hrun
      have hreq : c.request = req := by
        refine (?_ : Yields (fun c : InvocationContext => c.request = req) _) _ _ _ hrun
        repeat
          first
          | exact Yields.pure rfl
          | exact Yields.fail _
          | refine Yields.bind fun _ => ?_
          | split
      rw [hreq]

/-- A message of a done request is abandoned, with nothing written or sent. -/
theorem handle_of_done (d : Direction) (msg : WireMessage) {c : InvocationContext}
    (hc : ((inflate msg).run w).1 = .ok c) (hdir : c.invocation.data.direction = d)
    (hdone : c.request.data.isDone = true) : (e.handle d msg).run w = (.ok .abandoned, w) := by
  have hrun : (inflate msg).run w = (.ok c, w) := Prod.ext hc (inflate_quiet msg w)
  unfold handle
  rw [run_bind_ok hrun]
  dsimp only
  rw [if_neg (not_not.mpr hdir), if_pos hdone]
  rfl

/-- Reading an entity the in-memory store holds under its path. -/
theorem load_memory {α : Type} [Entity α] {identity : List String} {path : String} {n : Node} {x : α}
    (hstore : w.store = ⟨.memory m, []⟩) (hkey : (EntityStore.entityKey α identity).encode = .ok path)
    (hnode : m.find? path = some n) (hdec : Kv.decodeAs Entity.decode n.value = .ok x) :
    (load α identity).run w = (.ok ⟨x, some n.version⟩, w) := by
  have h : (EntityStore.load α identity).run ⟨.memory m, []⟩ = _ := EntityStore.load_memory hkey hnode hdec
  rw [← hstore] at h
  exact EngineM.domain_run_ok h

/-- Completing a request the in-memory store holds as done sends nothing: the atomic update finds
it done and writes it again as it was. -/
theorem completeRequest_of_done {c : InvocationContext} {path : String} {v : Nat} {x : Request}
    (hstore : w.store = ⟨.memory m, []⟩)
    (hkey : (EntityStore.entityKey Request [c.workflowName, c.requestId]).encode = .ok path)
    (hnode : m.find? path = some ⟨v, Entity.toText x⟩) (hx : x.Readable) (hdone : x.isDone = true)
    (hid : x.workflow = c.workflowName ∧ x.id = c.requestId) (results : List Pair) :
    (e.completeRequest c results).run w =
      (.ok (), { w with store := ⟨.memory (m.write path (Entity.toText x)).2, []⟩ }) := by
  obtain ⟨k, hk, hquiet⟩ := Closing.completeRequest_closes e c results
  have hkey' : (EntityStore.recordKey x).encode = .ok path := by
    simpa [EntityStore.recordKey, Entity.identity, hid.1, hid.2] using hkey
  have hmut : Closing.Closer.done.close e.now x = .ok (x, false) := by
    simp [Closing.Closer.close, Closing.Closer.next, hdone]
  rw [hk, run_bind_ok (update_memory e hstore hkey hnode (Request.decodeAs_toText hx) hmut rfl hkey'),
    hquiet]
  rfl

/-- Queueing a request for cleanup, when the engine cleans up, is one append on the in-memory
store. -/
theorem scheduleCleanup_memory (hcl : e.config.cleanupRequests = true) (hstore : w.store = ⟨.memory m, []⟩)
    {wf request : String} {key : String × Nat} {m' : MemoryStore}
    (happ : m.append ⟨[Identity.queueRoot, "request_cleanup", wf]⟩
      (Json.write (CleanupEntry.toJson ⟨request, e.now⟩)) = .ok (key, m')) :
    (e.scheduleCleanup wf request).run w = (.ok true, { w with store := ⟨.memory m', []⟩ }) := by
  have hadd := CleanupQueue.add_run_memory wf request e.now m
  rw [happ, ← hstore] at hadd
  unfold scheduleCleanup
  simp only [hcl, Bool.not_true, Bool.false_eq_true, if_false]
  rw [run_bind_ok (EngineM.domain_run_ok hadd)]
  rfl

/-- Queueing a request for cleanup, run for its effects only, on the in-memory store leaves every
entity where it was, and the store as open to waits as it was. -/
theorem attempt_scheduleCleanup_memory (hstore : w.store = ⟨.memory m, []⟩) (wf request : String) :
    ∃ m', (EngineM.attempt (e.scheduleCleanup wf request >>= fun _ => pure ())).run w =
        (.ok (), { w with store := ⟨.memory m', []⟩ }) ∧ m'.closed = m.closed ∧
      ∀ {α : Type} [Entity α] {identity : List String} {p : String},
        (EntityStore.entityKey α identity).encode = .ok p → m'.find? p = m.find? p := by
  have hw : w = { w with store := ⟨.memory m, []⟩ } := by rw [← hstore]
  cases hcl : e.config.cleanupRequests
  · -- nothing is queued
    refine ⟨m, EngineM.attempt_run (.inl ?_), rfl, fun _ => rfl⟩
    unfold scheduleCleanup
    simp only [hcl, Bool.not_false, if_true]
    rw [← hw]
    rfl
  · rcases happ : m.append ⟨[Identity.queueRoot, "request_cleanup", wf]⟩
        (Json.write (CleanupEntry.toJson ⟨request, e.now⟩)) with err | ⟨key, m'⟩
    · -- the queue has no path, and nothing is written
      refine ⟨m, EngineM.attempt_run (.inr ⟨.domain (.kv err), ?_⟩), rfl, fun _ => rfl⟩
      have hadd := CleanupQueue.add_run_memory wf request e.now m
      rw [happ, ← hstore] at hadd
      have hdom : (EngineM.domain ((CleanupQueue.mk wf).add request e.now)).run w =
          (.error (.error (.domain (.kv err))), { w with store := ⟨.memory m, []⟩ }) := by
        show EngineM.domain _ w = _
        unfold EngineM.domain
        rw [hadd, hstore]
      unfold scheduleCleanup
      simp only [hcl, Bool.not_true, Bool.false_eq_true, if_false]
      rw [run_bind_error (run_bind_error hdom), ← hw]
    · -- the entry goes below the queue's root, which no entity's path is
      refine ⟨m', EngineM.attempt_run (.inl ?_), MemoryStore.closed_append happ,
        fun hp => MemoryStore.find?_append_entity happ hp⟩
      rw [run_bind_ok (scheduleCleanup_memory e hcl hstore happ)]
      rfl

/-- What a failure at the invocation of a context needs to be recorded on the in-memory store `m`:
the request and the invocation the context names stored, readable, at their paths, and a clock in
normal form. -/
structure Recordable (c : InvocationContext) (m : MemoryStore) (pathR pathI : String) (r : Request)
    (inv : Invocation) : Prop where
  requestKey : (EntityStore.entityKey Request [c.workflowName, c.requestId]).encode = .ok pathR
  invocationKey : (EntityStore.entityKey Invocation [c.workflowName, c.invocationId]).encode = .ok pathI
  request : ∃ v, m.find? pathR = some ⟨v, Entity.toText r⟩
  invocation : ∃ v, m.find? pathI = some ⟨v, Entity.toText inv⟩
  requestIdentity : r.workflow = c.workflowName ∧ r.id = c.requestId
  invocationIdentity : inv.workflow = c.workflowName ∧ inv.id = c.invocationId
  readable : r.Readable
  createdAt : Text.normalTimestamp inv.createdAt = .ok inv.createdAt
  fanOut : inv.fanOut.Bounded
  now : Text.normalTimestamp e.now = .ok e.now

section Record

variable {e} {c : InvocationContext} {pathR pathI : String} {r : Request} {inv : Invocation}
  (hR : Recordable e c m pathR pathI r inv)
include hR

theorem Recordable.requestKey_of {x : Request} (hx : x.workflow = r.workflow ∧ x.id = r.id) :
    (EntityStore.recordKey x).encode = .ok pathR := by
  simpa [EntityStore.recordKey, Entity.identity, hx.1, hx.2, hR.requestIdentity.1, hR.requestIdentity.2]
    using hR.requestKey

/-- Writing the failure's text on the invocation, run for its effects only, on a store that holds
the invocation as `m` does. -/
theorem Recordable.recordError {m₁ : MemoryStore} (hstore : w.store = ⟨.memory m₁, []⟩)
    (hframe : m₁.find? pathI = m.find? pathI) (text : String) :
    (EngineM.attempt (e.update [c.workflowName, c.invocationId]
        (fun i : Invocation => .ok ({ i with error := some text }, ())) >>= fun _ => pure ())).run w =
      (.ok (), { w with store := ⟨.memory (m₁.write pathI (Entity.toText { inv with error := some text })).2, []⟩ }) := by
  obtain ⟨v, hnode⟩ := hR.invocation
  rw [← hframe] at hnode
  have hkey : (EntityStore.recordKey { inv with error := some text }).encode = .ok pathI := by
    simpa [EntityStore.recordKey, Entity.identity, hR.invocationIdentity.1, hR.invocationIdentity.2]
      using hR.invocationKey
  refine EngineM.attempt_run (.inl ?_)
  rw [run_bind_ok (update_memory e hstore hR.invocationKey hnode
    (Invocation.decodeAs_toText hR.createdAt hR.fanOut) rfl rfl hkey)]
  rfl

/-- Closing the open request as failed at the invocation, on a store that holds the request as
`m` does. -/
theorem Recordable.closeFailed {m₁ : MemoryStore} (hstore : w.store = ⟨.memory m₁, []⟩)
    (hframe : m₁.find? pathR = m.find? pathR) (hopen : r.isDone = false) :
    (e.update [c.workflowName, c.requestId] fun x : Request =>
        .ok (if x.isDone then (x, false) else (x.markFailed c.invocationId e.now, true))).run w =
      (.ok (⟨r.markFailed c.invocationId e.now,
          some (m₁.write pathR (Entity.toText (r.markFailed c.invocationId e.now))).1⟩, true),
        { w with store :=
          ⟨.memory (m₁.write pathR (Entity.toText (r.markFailed c.invocationId e.now))).2, []⟩ }) := by
  obtain ⟨v, hnode⟩ := hR.request
  rw [← hframe] at hnode
  exact update_memory e hstore hR.requestKey hnode (Request.decodeAs_toText hR.readable)
    (by simp [hopen]) rfl (hR.requestKey_of ⟨rfl, rfl⟩)

/-- Recording a failure of an open request on the in-memory store writes the failure's text on
the invocation, closes the request as failed at that invocation with the revision after the next,
and sends one "request failed" notification; queueing the request for cleanup leaves both entities
as written, and the store as open to waits as it was. -/
theorem Recordable.recordFailure_open (hstore : w.store = ⟨.memory m, []⟩) (hopen : r.isDone = false)
    (err : EngineError) :
    ∃ m', (e.recordFailure c err).run w =
        (.ok (), { w with store := ⟨.memory m', []⟩, events := (w.events ++ e.notifier.kept
          "request failed" ("request [" ++ c.requestId ++ "] failed in invocation [" ++
            c.invocationId ++ "]: " ++ err.message)) }) ∧ m'.closed = m.closed ∧
      m'.find? pathR = some ⟨m.bump.bump.revision, Entity.toText (r.markFailed c.invocationId e.now)⟩ ∧
      (∃ v, m'.find? pathI = some ⟨v, Entity.toText { inv with error := some err.record }⟩) := by
  have hne : pathR ≠ pathI := request_path_ne_invocation_path hR.requestKey hR.invocationKey
  set m₁ := (m.write pathI (Entity.toText { inv with error := some err.record })).2
  have hstep₁ := hR.recordError hstore rfl err.record
  have hframe₁ : m₁.find? pathR = m.find? pathR := by rw [MemoryStore.find?_write, if_neg hne]
  set r' := r.markFailed c.invocationId e.now
  set m₂ := (m₁.write pathR (Entity.toText r')).2
  have h₂ := hR.closeFailed (w := { w with store := ⟨.memory m₁, []⟩ }) rfl hframe₁ hopen
  set notice := "request [" ++ c.requestId ++ "] failed in invocation [" ++ c.invocationId ++ "]: " ++
    err.message
  set w₂ : World := { w with store := ⟨.memory m₂, []⟩, events := w.events ++ e.notifier.kept "request failed" notice }
  obtain ⟨m₃, h₃, hclosed₃, hframe₃⟩ := attempt_scheduleCleanup_memory e (w := w₂) (m := m₂) rfl
    c.workflowName c.requestId
  refine ⟨m₃, ?_, hclosed₃, ?_, ?_⟩
  · unfold recordFailure
    dsimp only
    rw [run_bind_ok hstep₁, run_bind_ok (EngineM.result_run_ok h₂)]
    dsimp only
    rw [run_bind_ok (notify_run e _ _ _)]
    have hid : (r.markFailed c.invocationId e.now).id = c.requestId := hR.requestIdentity.2
    rw [hid]
    exact h₃
  · rw [hframe₃ hR.requestKey, MemoryStore.find?_write, if_pos rfl]
    rfl
  · rw [hframe₃ hR.invocationKey, MemoryStore.find?_write, if_neg hne.symm, MemoryStore.find?_write,
      if_pos rfl]
    exact ⟨_, rfl⟩

end Record

/-- What the first failure of an open request leaves behind, from world `w` to world `w'`. -/
structure FailureRecorded (c : InvocationContext) (err : EngineError) (r : Request) (inv : Invocation)
    (w w' : World) : Prop where
  /-- Recording the failure goes through, from `w` to `w'`. -/
  run : (e.recordFailure c err).run w = (.ok (), w')
  /-- One "request failed" notification is sent, and no other. -/
  notified : w'.events = w.events ++ e.notifier.kept "request failed"
    ("request [" ++ c.requestId ++ "] failed in invocation [" ++ c.invocationId ++ "]: " ++ err.message)
  /-- The request reads as done, failed at the invocation. -/
  failed : ∃ v, (load Request [c.workflowName, c.requestId]).run w' =
    (.ok ⟨r.markFailed c.invocationId e.now, some v⟩, w')
  /-- The invocation reads with the failure's text as its error. -/
  error : ∃ v, (load Invocation [c.workflowName, c.invocationId]).run w' =
    (.ok ⟨{ inv with error := some err.record }, some v⟩, w')
  /-- Every later message of the request is abandoned, with nothing written or sent. -/
  abandoned : ∀ d msg c', msg.workflow = c.workflowName → msg.request = c.requestId →
    ((inflate msg).run w').1 = .ok c' → c'.invocation.data.direction = d →
    (e.handle d msg).run w' = (.ok .abandoned, w')
  /-- Completing the request sends nothing. -/
  quiet_completion : ∀ c' results, c'.workflowName = c.workflowName → c'.requestId = c.requestId →
    ((e.completeRequest c' results).run w').2.events = w'.events

/-- The first failure of an open request, on the in-memory store, is recorded: the invocation
keeps the failure's text, the request is done and failed at that invocation, one "request failed"
notification goes out, every later message of the request is abandoned without a write, and its
completion sends no "request done". -/
theorem Recordable.first_failure_recorded {c : InvocationContext} {pathR pathI : String} {r : Request}
    {inv : Invocation} (hR : Recordable e c m pathR pathI r inv) (hstore : w.store = ⟨.memory m, []⟩)
    (hopen : r.isDone = false) (err : EngineError) : ∃ w', FailureRecorded e c err r inv w w' := by
  obtain ⟨m', hrun, -, hnodeR, ⟨vI, hnodeI⟩⟩ := hR.recordFailure_open hstore hopen err
  refine ⟨_, ⟨hrun, rfl, ⟨m.bump.bump.revision, ?_⟩, ⟨vI, ?_⟩, ?_, ?_⟩⟩
  · exact load_memory rfl hR.requestKey hnodeR
      (Request.decodeAs_toText (hR.readable.markFailed _ hR.now))
  · exact load_memory rfl hR.invocationKey hnodeI (Invocation.decodeAs_toText hR.createdAt hR.fanOut)
  · -- the message reads the request, which is done
    intro d msg c' hwf hreq hc hdir
    refine handle_of_done e d msg hc hdir ?_
    have hload := inflate_request hc
    rw [hwf, hreq, load_memory rfl hR.requestKey hnodeR
      (Request.decodeAs_toText (hR.readable.markFailed _ hR.now))] at hload
    rw [← Except.ok.inj (Prod.mk.inj hload).1]
    rfl
  · -- the completion finds the request done
    intro c' results hwf hreq
    have hkey := hR.requestKey
    rw [← hwf, ← hreq] at hkey
    rw [completeRequest_of_done e rfl hkey hnodeR (hR.readable.markFailed _ hR.now) rfl
      ⟨hR.requestIdentity.1.trans hwf.symm, hR.requestIdentity.2.trans hreq.symm⟩ results]

end Engine

end MapReduce
