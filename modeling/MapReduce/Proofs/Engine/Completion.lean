import MapReduce.Proofs.Engine.Failure
import Mathlib

/-! # What a completion leaves behind

On the in-memory store, completing an open request, with the inline writer or for a blocking
request whose result is not rendered, marks the request done, appends one entry for it to its
workflow's cleanup queue and sends one "request done" notification. A failure recorded afterwards
at the same invocation finds the request done: it writes its text on the invocation and the
request again as it was, and neither notifies nor queues.

The queueing is not guarded as the one of `recordFailure` is: it can only go through here because
the workflow's name, a segment of the request's own path, is a valid segment of the queue's path
too (`cleanupQueue_encode`). -/

namespace MapReduce

/-! ## The cleanup queue's path -/

namespace Identity

theorem validateSegment_of_mapM {segs : List String} {u : List Unit}
    (h : segs.mapM validateSegment = .ok u) {s : String} (hs : s ∈ segs) : validateSegment s = .ok () := by
  induction segs generalizing u with
  | nil => cases hs
  | cons a rest ih =>
    rw [List.mapM_cons] at h
    rcases ha : validateSegment a with err | ⟨⟩
    · simp [ha, bind, Except.bind] at h
    · rcases hrest : rest.mapM validateSegment with err | u'
      · simp [ha, hrest, bind, Except.bind] at h
      · rcases List.mem_cons.mp hs with rfl | hs
        · exact ha
        · exact ih hrest hs

/-- Every segment of an identity that has a path is valid. -/
theorem validateSegment_of_encode {segs : List String} {p : String} (h : (Identity.mk segs).encode = .ok p)
    {s : String} (hs : s ∈ segs) : validateSegment s = .ok () := by
  unfold encode at h
  split at h
  · cases h
  · rename_i hm
    exact validateSegment_of_mapM hm hs

end Identity

/-- The cleanup queue of a workflow whose requests have paths has a path. -/
theorem cleanupQueue_encode {wf id p : String} (h : (EntityStore.entityKey Request [wf, id]).encode = .ok p) :
    ∃ root, (Identity.mk [Identity.queueRoot, "request_cleanup", wf]).encode = .ok root := by
  have hwf : Identity.validateSegment wf = .ok () := Identity.validateSegment_of_encode h (by simp)
  have hq : Identity.validateSegment Identity.queueRoot = .ok () := rfl
  have hc : Identity.validateSegment "request_cleanup" = .ok () := rfl
  refine ⟨Identity.display ⟨[Identity.queueRoot, "request_cleanup", wf]⟩, ?_⟩
  simp [Identity.encode, List.mapM_cons, hwf, hq, hc, bind, Except.bind, pure, Except.pure]

namespace MemoryStore

/-- An append under an identity that has a path goes through. -/
theorem append_of_encode {s : MemoryStore} {key : Identity} {root : String} (h : key.encode = .ok root)
    (value : String) : ∃ r s', s.append key value = .ok (r, s') := by
  simp [append, h, bind, Except.bind]

end MemoryStore

namespace Engine

variable (e : Engine) {w : World} {m : MemoryStore}

/-- The inline writer keeps the rendered result in the world, and touches nothing else. -/
theorem render_inline (hwr : e.writer = .inline) (x : Request) (pairs : List Pair) (w : World) :
    (e.render x pairs).run w = (.ok (some (Json.mkObj [("pairs", pairsArgument pairs)])),
      { w with rendered := w.rendered ++ [⟨x.id, some (Json.mkObj [("pairs", pairsArgument pairs)])⟩] }) := by
  simp only [render, hwr]
  rfl

section Record

variable {e} {c : InvocationContext} {pathR pathI : String} {r : Request} {inv : Invocation}
  (hR : Recordable e c m pathR pathI r inv)
include hR

/-- A failure recorded over a request the store holds done, on a store that holds the invocation
as `m` does, writes its text on the invocation and the request again as it was, and neither
notifies nor queues. -/
theorem Recordable.recordFailure_of_done {m₁ : MemoryStore} (hstore : w.store = ⟨.memory m₁, []⟩)
    (hframe : m₁.find? pathI = m.find? pathI) {x : Request} {v : Nat}
    (hnode : m₁.find? pathR = some ⟨v, Entity.toText x⟩) (hx : x.Readable) (hdone : x.isDone = true)
    (hid : x.workflow = r.workflow ∧ x.id = r.id) (err : EngineError) :
    (e.recordFailure c err).run w = (.ok (), { w with store := ⟨.memory
      ((m₁.write pathI (Entity.toText { inv with error := some err.record })).2.write pathR
        (Entity.toText x)).2, []⟩ }) := by
  have hne : pathR ≠ pathI := request_path_ne_invocation_path hR.requestKey hR.invocationKey
  set m₂ := (m₁.write pathI (Entity.toText { inv with error := some err.record })).2
  have hstep₁ := hR.recordError hstore hframe err.record
  have hnode₂ : m₂.find? pathR = some ⟨v, Entity.toText x⟩ := by
    rw [MemoryStore.find?_write, if_neg hne, hnode]
  have h₂ : (e.update [c.workflowName, c.requestId] fun y : Request =>
      .ok (if y.isDone then (y, false) else (y.markFailed c.invocationId e.now, true))).run
      { w with store := ⟨.memory m₂, []⟩ } = _ :=
    update_memory e rfl hR.requestKey hnode₂ (Request.decodeAs_toText hx)
      (by simp [hdone] : _ = Except.ok (x, false)) rfl
      (hR.requestKey_of hid)
  unfold recordFailure
  dsimp only
  rw [run_bind_ok hstep₁, run_bind_ok (EngineM.result_run_ok h₂)]
  rfl

/-- Completing the open request, with the inline writer or when the request blocks, marks it done,
appends its entry to the cleanup queue and sends one "request done" notification. -/
theorem Recordable.completeRequest_open (hstore : w.store = ⟨.memory m, []⟩) (hopen : r.isDone = false)
    (hcl : e.config.cleanupRequests = true) (hwr : e.writer = .inline ∨ r.isBlocking = true)
    (results : List Pair) {key : String × Nat} {m' : MemoryStore}
    (happ : (m.write pathR (Entity.toText (r.markDone e.now))).2.append
      ⟨[Identity.queueRoot, "request_cleanup", c.workflowName]⟩
      (Json.write (CleanupEntry.toJson ⟨c.requestId, e.now⟩)) = .ok (key, m')) :
    ∃ rendered, (e.completeRequest c results).run w = (.ok (),
      { w with
        store := ⟨.memory m', []⟩
        rendered := rendered
        events := w.events ++ e.notifier.kept "request done"
          ("request [" ++ c.requestId ++ "] of job [" ++ r.job ++ "] finished") }) := by
  obtain ⟨v, hnode⟩ := hR.request
  have h₁ : (e.update [c.workflowName, c.requestId] fun y : Request =>
      .ok (if y.isDone then (y, false) else (y.markDone e.now, true))).run w = _ :=
    update_memory e hstore hR.requestKey hnode (Request.decodeAs_toText hR.readable)
      (by simp [hopen] : _ = Except.ok (r.markDone e.now, true)) rfl
      (hR.requestKey_of ⟨rfl, rfl⟩)
  have hid : (r.markDone e.now).id = c.requestId := hR.requestIdentity.2
  unfold completeRequest
  rw [run_bind_ok h₁]
  simp only [Bool.not_true, Bool.false_eq_true, if_false, hid]
  cases hb : r.isBlocking
  · -- the result is rendered first, which the inline writer keeps in the world
    have hinl : e.writer = .inline := hwr.resolve_right (by simp [hb])
    have hb' : (r.markDone e.now).isBlocking = false := hb
    simp only [hb', Bool.not_false, if_true]
    rw [run_bind_ok (render_inline e hinl _ _ _), run_bind_ok (scheduleCleanup_memory e hcl rfl happ),
      notify_run]
    exact ⟨_, rfl⟩
  · have hb' : (r.markDone e.now).isBlocking = true := hb
    simp only [hb', Bool.not_true, Bool.false_eq_true, if_false]
    rw [run_bind_ok (scheduleCleanup_memory e hcl rfl happ), notify_run]
    exact ⟨_, rfl⟩

end Record

/-- What completing an open request leaves behind, from world `w` on store `m` to world `w'`. -/
structure CompletionRecorded (c : InvocationContext) (results : List Pair) (m : MemoryStore)
    (pathR pathI : String) (r : Request) (inv : Invocation) (w w' : World) : Prop where
  /-- Completing the request goes through, from `w` to `w'`. -/
  run : (e.completeRequest c results).run w = (.ok (), w')
  /-- One "request done" notification is sent, and no other. -/
  notified : w'.events = w.events ++ e.notifier.kept "request done"
    ("request [" ++ c.requestId ++ "] of job [" ++ r.job ++ "] finished")
  /-- The request reads as done. -/
  done : ∃ v, (load Request [c.workflowName, c.requestId]).run w' =
    (.ok ⟨r.markDone e.now, some v⟩, w')
  /-- The store is the request's write followed by one append of its entry to the workflow's
  cleanup queue. -/
  queued : ∃ key m', (m.write pathR (Entity.toText (r.markDone e.now))).2.append
      ⟨[Identity.queueRoot, "request_cleanup", c.workflowName]⟩
      (Json.write (CleanupEntry.toJson ⟨c.requestId, e.now⟩)) = .ok (key, m') ∧
    w'.store = ⟨.memory m', []⟩
  /-- A failure recorded afterwards at the invocation writes its text there and the request again
  as it was, and neither notifies nor queues. -/
  quiet_failure : ∀ err m', w'.store = ⟨.memory m', []⟩ →
    (e.recordFailure c err).run w' = (.ok (), { w' with store := ⟨.memory
      ((m'.write pathI (Entity.toText { inv with error := some err.record })).2.write pathR
        (Entity.toText (r.markDone e.now))).2, []⟩ })

end Engine

end MapReduce
