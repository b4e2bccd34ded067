import MapReduce.Domain.Store
import Mathlib

/-! # An atomic update, one store operation at a time

`EntityStore.atomicUpdate` reads an entity, changes it and saves it over the version it read,
starting again when the save meets a newer version, up to a ceiling of attempts. Other callers
may run between its read and its save. A `Phase` is where a caller stands between two operations
on the store and `Phase.step` performs the next one, so that callers sharing a store interleave
at the grain of the store's own operations. Run alone, the steps are the atomic update itself
(`stepN_eq_atomicUpdate`), and each step of an unfinished caller lowers its `rank`. -/

namespace MapReduce.EntityStore

/-- Where a caller of an atomic update stands between two operations on the store. -/
inductive Phase (α β : Type) where
  /-- About to read the entity, with `left` attempts left. -/
  | reading (left : Nat)
  /-- Has read the entity at `version` and changed it into `next`, answering `answer`; about to
  save it, with `left` attempts left after this one. -/
  | saving (left : Nat) (version : Option Nat) (next : α) (answer : β)
  /-- Finished, with the outcome of the update. -/
  | done (outcome : Except DomainError (Record α × β))

namespace Phase

variable {α β : Type} [Entity α]

/-- The failure of an update whose attempts all met a concurrent change. -/
def exhausted (α : Type) [Entity α] (identity : List String) (ceiling : Nat) : DomainError :=
  .atomicUpdateExhausted (Entity.className α ++ "/" ++ "/".intercalate identity) ceiling

/-- The next store operation of a caller: a read of the entity, or a save over the version it
read. A save that meets another version starts a new attempt. -/
def step (ceiling : Nat) (identity : List String) (mutate : α → Except DomainError (α × β)) :
    Phase α β → Store → Phase α β × Store
  | .reading 0, s => (.done (.error (exhausted α identity ceiling)), s)
  | .reading (left + 1), s =>
    match (load α identity).run s with
    | (.error e, s) => (.done (.error e), s)
    | (.ok r, s) =>
      match mutate r.data with
      | .error e => (.done (.error e), s)
      | .ok (x, b) => (.saving left r.version x b, s)
  | .saving left version x b, s =>
    match (save ⟨x, version⟩).run s with
    | (.ok r, s) => (.done (.ok (r, b)), s)
    | (.error e, s) => if e.isPreconditionFailed then (.reading left, s) else (.done (.error e), s)
  | .done o, s => (.done o, s)

/-- `k` steps of one caller that runs alone. -/
def stepN (ceiling : Nat) (identity : List String) (mutate : α → Except DomainError (α × β)) :
    Nat → Phase α β → Store → Phase α β × Store
  | 0, ph, s => (ph, s)
  | k + 1, ph, s =>
    let next := step ceiling identity mutate ph s
    stepN ceiling identity mutate k next.1 next.2

variable {ceiling : Nat} {identity : List String} {mutate : α → Except DomainError (α × β)}

@[simp] theorem step_done (o : Except DomainError (Record α × β)) (s : Store) :
    step ceiling identity mutate (.done o) s = (.done o, s) := rfl

@[simp] theorem stepN_done (k : Nat) (o : Except DomainError (Record α × β)) (s : Store) :
    stepN ceiling identity mutate k (.done o) s = (.done o, s) := by
  induction k with
  | zero => rfl
  | succ k ih => exact ih

theorem stepN_succ (k : Nat) (ph : Phase α β) (s : Store) :
    stepN ceiling identity mutate (k + 1) ph s =
      stepN ceiling identity mutate k (step ceiling identity mutate ph s).1
        (step ceiling identity mutate ph s).2 := rfl

/-- Run alone from `fuel` attempts, a caller finishes within `2 * fuel + 1` steps with the outcome
and the store of the attempts of the atomic update. -/
theorem stepN_attempts (fuel k calls : Nat) (s : Store) :
    stepN ceiling identity mutate (2 * fuel + 1) (.reading fuel) s =
      match attempts identity (fun _ x => liftDomain (mutate x)) fuel k calls s with
      | ((some r, _), s') => (.done r, s')
      | ((none, _), s') => (.done (.error (exhausted α identity ceiling)), s') := by
  induction fuel generalizing k calls s with
  | zero => rfl
  | succ fuel ih =>
    rw [show 2 * (fuel + 1) + 1 = (2 * fuel + 1) + 1 + 1 by omega, stepN_succ]
    simp only [step, attempts]
    rcases hload : (load α identity).run s with ⟨_ | r, s₁⟩
    · simp
    · rcases hmut : mutate r.data with _ | ⟨x, b⟩
      · simp [ExceptT.run, liftDomain, hmut]
      · simp only [ExceptT.run, liftDomain, hmut]
        rw [stepN_succ]
        simp only [step]
        rcases hsave : save ⟨x, r.version⟩ s₁ with ⟨e | r', s₂⟩
        · by_cases hpre : e.isPreconditionFailed
          · -- a concurrent change: the next attempt, as in `attempts`
            simp only [ExceptT.run, hsave, hpre, if_true]
            exact ih (k + 1) (calls + 1) s₂
          · simp [ExceptT.run, hsave, hpre]
        · simp [ExceptT.run, hsave]

/-- Run alone, a caller's steps are the atomic update: within `2 * ceiling + 1` steps it finishes
with the update's outcome, on the store the update leaves. -/
theorem stepN_eq_atomicUpdate (maxAttempts : Nat) (s : Store) :
    stepN (max maxAttempts 1) identity mutate (2 * max maxAttempts 1 + 1)
        (.reading (max maxAttempts 1)) s =
      (.done ((atomicUpdate maxAttempts identity mutate).run s).1,
        ((atomicUpdate maxAttempts identity mutate).run s).2) := by
  rw [stepN_attempts (max maxAttempts 1) 1 0 s]
  rcases h : attempts identity (fun _ x => liftDomain (mutate x)) (max maxAttempts 1) 1 0 s with
    ⟨⟨_ | r, calls⟩, s'⟩ <;>
  simp [atomicUpdate, atomicUpdateCounting, ExceptT.run, exhausted, bind, StateT.bind, h, pure,
    StateT.pure]

/-- Whether a caller has finished. -/
def isDone : Phase α β → Bool
  | .done _ => true
  | _ => false

/-- Whether a caller has finished with a saved entity. -/
def succeeded : Phase α β → Bool
  | .done (.ok _) => true
  | _ => false

/-- How far a caller is from finishing: each step of a caller that has not finished lowers it. -/
def rank : Phase α β → Nat
  | .reading left => 2 * left + 1
  | .saving left _ _ _ => 2 * left + 2
  | .done _ => 0

theorem rank_step_lt (ph : Phase α β) (s : Store) (h : ph.isDone = false) :
    (step ceiling identity mutate ph s).1.rank < ph.rank := by
  cases ph with
  | reading left =>
    cases left with
    | zero => simp [step, rank]
    | succ left =>
      simp only [step]
      rcases (load α identity).run s with ⟨_ | r, s'⟩
      · simp [rank]
      · rcases hmut : mutate r.data with _ | ⟨x, b⟩
        · simp [hmut, rank]
        · simp only [hmut, rank]
          omega
  | saving left version x b =>
    simp only [step]
    rcases hsave : (save ⟨x, version⟩).run s with ⟨e | r, s'⟩
    · by_cases hpre : e.isPreconditionFailed <;> simp [hpre, rank]
    · simp [rank]
  | done o => simp [isDone] at h

end Phase

end MapReduce.EntityStore
