import MapReduce.Proofs.Engine.Pruning
import Mathlib

/-! # A cleanup pass prunes a prefix of its queue

A pass lists the cleanup queue of a workflow and walks its first `cleanupBatch` entries, stopping
at the first still in its quiet period; without simulation it prunes the request of each entry it
passes and then removes the entry. So the pass is the plain loop over the longest prefix of those
entries none of which is in its quiet period (`cleanupPass_eq`). A quiet period counts from the
engine's clock, and one too long for time arithmetic counts as none; among quiet periods within
that range, a longer one, or a smaller batch, leaves a prefix of the entries to prune. A simulated
pass prunes nothing and removes nothing. -/

namespace MapReduce

namespace Engine

/-- The entries a pass prunes: of the first `cleanupBatch` entries of the queue, those before the
first one still in its quiet period. -/
def readyEntries (e : Engine) (entries : List (String × CleanupEntry)) : List (String × CleanupEntry) :=
  (entries.take e.config.cleanupBatch).takeWhile fun x => !e.inQuietPeriod x.2.queuedAt

/-- Removes an entry of the cleanup queue of a workflow; an entry already gone is no failure. -/
def removeQueued (workflow key : String) : EngineM Unit := do
  match ← EngineM.result (EngineM.domain ((CleanupQueue.mk workflow).remove key)) with
  | .ok () => pure ()
  | .error (.domain d) => if d.isNotFound then pure () else EngineM.fail (.domain d)
  | .error err => EngineM.fail err

/-- Prunes the request of each entry in turn and removes the entry after it, adding the reports up. -/
def pruneQueued (workflow : String) : CleanupReport → List (String × CleanupEntry) → EngineM CleanupReport
  | report, [] => pure report
  | report, x :: rest => do
    let r ← pruneRequest false workflow x.2.request
    removeQueued workflow x.1
    pruneQueued workflow (report.add r) rest

/-- Without simulation, a pass lists the queue and prunes exactly its ready entries, in order,
removing each after its request. -/
theorem cleanupPass_eq (e : Engine) (workflow : String) :
    e.cleanupPass false workflow = (do
      let entries ← EngineM.domain (CleanupQueue.mk workflow).list
      pruneQueued workflow {} (e.readyEntries entries)) := by
  unfold cleanupPass readyEntries
  simp only [bind_pure]
  congr 1
  funext entries
  simp only [Bool.not_false, if_true]
  generalize entries.take e.config.cleanupBatch = xs
  generalize ({} : CleanupReport) = report
  induction xs generalizing report with
  | nil => rfl
  | cons x xs ih =>
    obtain ⟨key, entry⟩ := x
    rw [List.forIn_cons, List.takeWhile_cons]
    by_cases hq : e.inQuietPeriod entry.queuedAt = true
    · simp [hq, pruneQueued]
    · simp only [hq, Bool.false_eq_true, if_false, bind_assoc]
      congr 1
      funext r
      rw [← ih, removeQueued, bind_assoc]
      congr 1
      funext removed
      rcases removed with err | ⟨⟩
      · cases err
        case domain d =>
          by_cases hd : d.isNotFound = true <;>
            simp only [hd, if_true, Bool.false_eq_true, if_false, pure_bind, bind_assoc]
        all_goals simp only [bind_assoc, pure_bind]
      · simp only [pure_bind]

/-! ## Longer quiet periods and smaller batches -/

theorem takeWhile_prefix_of_imp {α : Type} {p q : α → Bool} (h : ∀ a, p a = true → q a = true) (l : List α) :
    l.takeWhile p <+: l.takeWhile q := by
  induction l with
  | nil => exact List.prefix_refl _
  | cons a l ih =>
    rw [List.takeWhile_cons, List.takeWhile_cons]
    by_cases hp : p a = true
    · rw [if_pos hp, if_pos (h a hp)]
      exact List.cons_prefix_cons.mpr ⟨rfl, ih⟩
    · rw [if_neg hp]
      exact List.nil_prefix

theorem IsPrefix.takeWhile {α : Type} (p : α → Bool) {l₁ l₂ : List α} (h : l₁ <+: l₂) :
    l₁.takeWhile p <+: l₂.takeWhile p := by
  obtain ⟨t, rfl⟩ := h
  induction l₁ with
  | nil => exact List.nil_prefix
  | cons a l ih =>
    rw [List.cons_append, List.takeWhile_cons, List.takeWhile_cons]
    split
    · exact List.cons_prefix_cons.mpr ⟨rfl, ih⟩
    · exact List.prefix_refl _

/-- With one clock, an entry in its quiet period stays in it under a longer quiet period, as long
as that period is within the range of time arithmetic. -/
theorem inQuietPeriod_mono {e e' : Engine} (hnow : e'.now = e.now)
    (hq : e.config.quietPeriod ≤ e'.config.quietPeriod) (hq' : e'.config.quietPeriod ≤ longestSpan)
    {queuedAt : String} (h : e.inQuietPeriod queuedAt = true) : e'.inQuietPeriod queuedAt = true := by
  unfold inQuietPeriod at h ⊢
  rw [if_pos (hq.trans hq')] at h
  rw [if_pos hq', hnow]
  split at h
  · rename_i now t _ _
    have : now.nanos - t.nanos < (e.config.quietPeriod : Int) := by simpa using h
    simp only [decide_eq_true_eq]
    omega
  · cases h

/-- With one clock and quiet periods within the range of time arithmetic, a longer quiet period
and a smaller batch leave a prefix of the ready entries. -/
theorem readyEntries_antitone {e e' : Engine} (hnow : e'.now = e.now)
    (hbatch : e'.config.cleanupBatch ≤ e.config.cleanupBatch)
    (hq : e.config.quietPeriod ≤ e'.config.quietPeriod) (hq' : e'.config.quietPeriod ≤ longestSpan)
    (entries : List (String × CleanupEntry)) : e'.readyEntries entries <+: e.readyEntries entries := by
  have hfewer := IsPrefix.takeWhile (fun x : String × CleanupEntry => !e'.inQuietPeriod x.2.queuedAt)
    (List.take_prefix_take_left (l := entries) hbatch)
  refine hfewer.trans (takeWhile_prefix_of_imp (fun x hx => ?_) _)
  simp only [Bool.not_eq_eq_eq_not, Bool.not_true] at hx ⊢
  cases hx' : e.inQuietPeriod x.2.queuedAt
  · rfl
  · rw [inQuietPeriod_mono hnow hq hq' hx'] at hx
    cases hx

/-! ## Simulated passes -/

theorem CleanupQueue.list_quiet (q : CleanupQueue) : Quiet q.list :=
  Quiet.bind (Quiet.adapt _ (Quiet.bind (Quiet.bind (Kv.read_quiet _) fun _ => Kv.liftExcept_quiet _)
    fun _ => Quiet.pure _)) fun _ => Quiet.adapt _ (Kv.liftExcept_quiet _)

/-- A simulated pass reads the store and changes nothing, whatever it answers. -/
theorem cleanupPass_simulated_quiet (e : Engine) (workflow : String) : Quiet (e.cleanupPass true workflow) := by
  unfold cleanupPass
  refine Quiet.bind (EngineM.domain_quiet (CleanupQueue.list_quiet _)) fun entries => ?_
  refine Quiet.bind (Quiet.forIn (fun x report => ?_) _) fun _ => Quiet.pure _
  obtain ⟨key, entry⟩ := x
  dsimp only
  split
  · exact Quiet.pure _
  · -- a simulated pass removes nothing from the queue
    simp only [Bool.not_true, Bool.false_eq_true, if_false]
    exact Quiet.bind (pruneRequest_simulated_quiet _ _) fun _ => Quiet.pure _

/-- A cleanup pass prunes a prefix of its queue. Without simulation it lists the queue, then prunes
the request of each entry of the longest prefix of the first `cleanupBatch` entries none of which
is in its quiet period, removing each entry after its request, and does nothing else. With one
clock and quiet periods within the range of time arithmetic, a longer quiet period or a smaller
batch leaves a prefix of those entries. A simulated pass changes nothing. -/
theorem cleanupPass_prunes_ready_entries (e e' : Engine) (workflow : String)
    (entries : List (String × CleanupEntry)) :
    e.cleanupPass false workflow = (do
      let entries ← EngineM.domain (CleanupQueue.mk workflow).list
      pruneQueued workflow {} (e.readyEntries entries)) ∧
    (e'.now = e.now → e'.config.cleanupBatch ≤ e.config.cleanupBatch →
      e.config.quietPeriod ≤ e'.config.quietPeriod → e'.config.quietPeriod ≤ longestSpan →
      e'.readyEntries entries <+: e.readyEntries entries) ∧
    Quiet (e.cleanupPass true workflow) :=
  ⟨cleanupPass_eq e workflow, fun hnow hbatch hq hq' => readyEntries_antitone hnow hbatch hq hq' entries,
    cleanupPass_simulated_quiet e workflow⟩

/-- Two entries queued half an hour and a tenth of a second before the clock: the default quiet
period of half a second lets the pass prune the first, a quiet period of an hour with a batch of
one prunes none. -/
theorem cleanupPass_prunes_ready_entries_hour :
    ({ config := { quietPeriod := 3600000000000, cleanupBatch := 1 } } : Engine).now = ({} : Engine).now ∧
    ({ config := { quietPeriod := 3600000000000, cleanupBatch := 1 } } : Engine).config.cleanupBatch ≤
      ({} : Engine).config.cleanupBatch ∧
    ({} : Engine).config.quietPeriod ≤
      ({ config := { quietPeriod := 3600000000000, cleanupBatch := 1 } } : Engine).config.quietPeriod ∧
    ({ config := { quietPeriod := 3600000000000, cleanupBatch := 1 } } : Engine).config.quietPeriod ≤
      longestSpan ∧
    ({} : Engine).readyEntries [("00000000000000000001", ⟨"R001", "2023-12-31T23:30:00Z"⟩),
      ("00000000000000000002", ⟨"R002", "2023-12-31T23:59:59.900Z"⟩)] =
      [("00000000000000000001", ⟨"R001", "2023-12-31T23:30:00Z"⟩)] ∧
    ({ config := { quietPeriod := 3600000000000, cleanupBatch := 1 } } : Engine).readyEntries
      [("00000000000000000001", ⟨"R001", "2023-12-31T23:30:00Z"⟩),
        ("00000000000000000002", ⟨"R002", "2023-12-31T23:59:59.900Z"⟩)] = [] ∧
    ({ config := { quietPeriod := 3600000000000, cleanupBatch := 1 } } : Engine).readyEntries
      [("00000000000000000001", ⟨"R001", "2023-12-31T23:30:00Z"⟩),
        ("00000000000000000002", ⟨"R002", "2023-12-31T23:59:59.900Z"⟩)] <+:
      ({} : Engine).readyEntries [("00000000000000000001", ⟨"R001", "2023-12-31T23:30:00Z"⟩),
        ("00000000000000000002", ⟨"R002", "2023-12-31T23:59:59.900Z"⟩)] := by
  have hnow : ({ config := { quietPeriod := 3600000000000, cleanupBatch := 1 } } : Engine).now =
      ({} : Engine).now := rfl
  have hbatch : ({ config := { quietPeriod := 3600000000000, cleanupBatch := 1 } } : Engine).config.cleanupBatch ≤
      ({} : Engine).config.cleanupBatch := by decide
  have hq : ({} : Engine).config.quietPeriod ≤
      ({ config := { quietPeriod := 3600000000000, cleanupBatch := 1 } } : Engine).config.quietPeriod := by
    decide
  have hq' : ({ config := { quietPeriod := 3600000000000, cleanupBatch := 1 } } : Engine).config.quietPeriod ≤
      longestSpan := by decide
  exact ⟨hnow, hbatch, hq, hq', by decide +kernel, by decide +kernel,
    (cleanupPass_prunes_ready_entries {} { config := { quietPeriod := 3600000000000, cleanupBatch := 1 } } "wf"
      _).2.1 hnow hbatch hq hq'⟩

end Engine

end MapReduce
