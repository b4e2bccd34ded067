import MapReduce.Domain.Entity
import Mathlib

/-! # The fan-out counter

An invocation that maps to children publishes once how many it waits for, and each child that
reduces counts one down. Here the counter's two calls run in any order and any number of times on
an invocation, a failed call leaving the invocation as it was. From an invocation that has not
fanned out, the counter stays a leaf until the first publication of at least one child; that
publication fixes `count` for good and sets `waiting` to it, and from then on each count-down takes
one off `waiting` until it is zero, every other call failing.

The proofs say once what any call does in each state of the counter (`next_leaf`,
`next_fannedOut`), and the runs follow by induction on the calls. -/

namespace MapReduce.Invocation

/-! ## The two calls -/

/-- Publishing succeeds exactly on an invocation that has not fanned out and with at least one
child, and then waits for every child. -/
theorem setFanOut_eq_ok_iff {inv inv' : Invocation} {n : Nat} :
    inv.setFanOut n = .ok inv' ↔
      0 < n ∧ inv.fanOut = .leaf ∧ inv' = { inv with fanOut := .fannedOut n n } := by
  unfold setFanOut
  by_cases hn : n = 0
  · simp [hn]
  · rw [if_neg hn]
    split
    · rename_i c w hf
      simp [hf]
    · rename_i hf
      simp only [Except.ok.injEq, hf, true_and]
      exact ⟨fun h => ⟨Nat.pos_of_ne_zero hn, h.symm⟩, fun h => h.2.symm⟩

/-- Counting down succeeds exactly on a fanned-out invocation with a child still waiting, and
answers how many wait after it. -/
theorem decrementWaiting_eq_ok_iff {inv inv' : Invocation} {w : Nat} :
    inv.decrementWaiting = .ok (w, inv') ↔
      ∃ c, inv.fanOut = .fannedOut c (w + 1) ∧ inv' = { inv with fanOut := .fannedOut c w } := by
  rcases hf : inv.fanOut with _ | ⟨c, _ | w'⟩
  · simp [decrementWaiting, hf]
  · simp [decrementWaiting, hf]
  · simp only [decrementWaiting, hf, Except.ok.injEq, Prod.mk.injEq, FanOut.fannedOut.injEq,
      Nat.add_right_cancel_iff]
    constructor
    · rintro ⟨rfl, rfl⟩
      exact ⟨c, ⟨rfl, rfl⟩, rfl⟩
    · rintro ⟨c', ⟨rfl, rfl⟩, rfl⟩
      exact ⟨rfl, rfl⟩

/-- An invocation whose counter is set to the one it has is the invocation itself. -/
@[simp] theorem fanOut_update_eq_self_iff {inv : Invocation} {f : FanOut} :
    { inv with fanOut := f } = inv ↔ inv.fanOut = f := by
  cases inv
  simp only [Invocation.mk.injEq, true_and, and_true]
  exact eq_comm

@[simp] theorem self_eq_fanOut_update_iff {inv : Invocation} {f : FanOut} :
    inv = { inv with fanOut := f } ↔ inv.fanOut = f :=
  eq_comm.trans fanOut_update_eq_self_iff

/-! ## Sequences of calls -/

/-- A call on the fan-out counter of an invocation. -/
inductive CounterCall where
  /-- Publishes the number of children, as `setFanOut` does. -/
  | publish (count : Nat)
  /-- Counts one child as reduced, as `decrementWaiting` does. -/
  | countDown
  deriving DecidableEq, Repr

namespace CounterCall

/-- The invocation a call leaves, or its failure. -/
def apply : CounterCall → Invocation → Except DomainError Invocation
  | .publish n, inv => inv.setFanOut n
  | .countDown, inv => (inv.decrementWaiting).map (·.2)

/-- Whether a call succeeds. -/
def succeeds (c : CounterCall) (inv : Invocation) : Bool :=
  match c.apply inv with
  | .ok _ => true
  | .error _ => false

/-- The invocation after a call: a failed call leaves it as it was. -/
def next (c : CounterCall) (inv : Invocation) : Invocation :=
  match c.apply inv with
  | .ok inv' => inv'
  | .error _ => inv

end CounterCall

/-- The invocation after a sequence of calls. -/
def runCalls (inv : Invocation) : List CounterCall → Invocation
  | [] => inv
  | c :: cs => runCalls (c.next inv) cs

/-- How many count-downs of a sequence of calls succeed. -/
def countedDown (inv : Invocation) : List CounterCall → Nat
  | [] => 0
  | c :: cs => (if c = .countDown ∧ c.succeeds inv = true then 1 else 0) + countedDown (c.next inv) cs

@[simp] theorem runCalls_nil (inv : Invocation) : runCalls inv [] = inv := rfl

@[simp] theorem runCalls_cons (inv : Invocation) (c : CounterCall) (cs : List CounterCall) :
    runCalls inv (c :: cs) = runCalls (c.next inv) cs := rfl

@[simp] theorem countedDown_nil (inv : Invocation) : countedDown inv [] = 0 := rfl

@[simp] theorem countedDown_cons (inv : Invocation) (c : CounterCall) (cs : List CounterCall) :
    countedDown inv (c :: cs) =
      (if c = .countDown ∧ c.succeeds inv = true then 1 else 0) + countedDown (c.next inv) cs := rfl

theorem runCalls_append (inv : Invocation) (xs ys : List CounterCall) :
    runCalls inv (xs ++ ys) = runCalls (runCalls inv xs) ys := by
  induction xs generalizing inv with
  | nil => rfl
  | cons c cs ih => exact ih _

theorem countedDown_append (inv : Invocation) (xs ys : List CounterCall) :
    countedDown inv (xs ++ ys) = countedDown inv xs + countedDown (runCalls inv xs) ys := by
  induction xs generalizing inv with
  | nil => simp
  | cons c cs ih => simp only [List.cons_append, countedDown_cons, ih, runCalls_cons]; omega

/-! ## One call in each state -/

namespace CounterCall

/-- On an invocation that has not fanned out, every call fails but a publication of at least one
child, which fans it out to that many children all waiting. -/
theorem next_leaf {inv : Invocation} (h : inv.fanOut = .leaf) (c : CounterCall) :
    (∃ n, 0 < n ∧ c = .publish n ∧ c.succeeds inv = true ∧
        c.next inv = { inv with fanOut := .fannedOut n n }) ∨
      ((∀ n, c = .publish n → n = 0) ∧ c.succeeds inv = false ∧ c.next inv = inv) := by
  cases c with
  | publish n =>
    by_cases hn : n = 0
    · subst hn
      right
      simp [succeeds, next, apply, setFanOut]
    · left
      have hok : inv.setFanOut n = .ok { inv with fanOut := .fannedOut n n } :=
        setFanOut_eq_ok_iff.mpr ⟨Nat.pos_of_ne_zero hn, h, rfl⟩
      exact ⟨n, Nat.pos_of_ne_zero hn, rfl, by simp [succeeds, apply, hok],
        by simp [next, apply, hok]⟩
  | countDown =>
    right
    simp [succeeds, next, apply, decrementWaiting, h, Except.map]

/-- On a fanned-out invocation every publication fails; a count-down succeeds exactly while a child
waits, and takes one off the children waiting. `count` stays as it is. -/
theorem next_fannedOut {inv : Invocation} {c w : Nat} (h : inv.fanOut = .fannedOut c w)
    (call : CounterCall) :
    call.next inv = { inv with fanOut := .fannedOut c (w - if call = .countDown then 1 else 0) } ∧
      (call.succeeds inv = true ↔ call = .countDown ∧ 0 < w) := by
  cases call with
  | publish n =>
    by_cases hn : n = 0 <;> simp [next, succeeds, apply, setFanOut, h, hn]
  | countDown =>
    cases w with
    | zero => simp [next, succeeds, apply, decrementWaiting, h, Except.map]
    | succ k =>
      simp [next, succeeds, apply, decrementWaiting, h, Except.map]

end CounterCall

/-! ## Runs -/

/-- From an invocation that has not fanned out, calls that publish no child at all change
nothing, and no count-down among them succeeds. -/
theorem runCalls_unpublished {inv : Invocation} (h : inv.fanOut = .leaf) {calls : List CounterCall}
    (hcalls : ∀ n, .publish n ∈ calls → n = 0) : runCalls inv calls = inv ∧ countedDown inv calls = 0 := by
  induction calls with
  | nil => simp
  | cons c cs ih =>
    have hcs : ∀ n, .publish n ∈ cs → n = 0 := fun n hn => hcalls n (List.mem_cons_of_mem c hn)
    rcases CounterCall.next_leaf h c with ⟨n, hn, rfl, -, -⟩ | ⟨-, hfail, hnext⟩
    · exact absurd (hcalls n List.mem_cons_self) hn.ne'
    · simp [hfail, hnext, ih hcs]

/-- From a fanned-out invocation, `count` never changes and `waiting` loses one for each of the
count-downs, down to zero: as many count-downs succeed as there were children waiting, at most. -/
theorem runCalls_fannedOut {inv : Invocation} {c w : Nat} (h : inv.fanOut = .fannedOut c w)
    (calls : List CounterCall) :
    runCalls inv calls = { inv with fanOut := .fannedOut c (w - calls.count .countDown) } ∧
      countedDown inv calls = min w (calls.count .countDown) := by
  induction calls generalizing inv w with
  | nil => simp [h]
  | cons call cs ih =>
    obtain ⟨hnext, hok⟩ := CounterCall.next_fannedOut h call
    obtain ⟨hrun, hcount⟩ := @ih (call.next inv) (w - if call = .countDown then 1 else 0)
      (by rw [hnext])
    rw [runCalls_cons, countedDown_cons, hrun, hcount, hnext]
    by_cases hc : call = .countDown
    · subst hc
      simp only [if_true, List.count_cons_self, true_and, hok]
      constructor
      · congr 2; omega
      · split <;> omega
    · have hcount' : (call :: cs).count .countDown = cs.count .countDown :=
        List.count_cons_of_ne hc
      simp [hc, hcount']

/-- The fan-out counter is a one-shot counter that drains. Publishing succeeds exactly on an
invocation that has not fanned out and with at least one child, and waits for every child;
counting down succeeds exactly on a fanned-out invocation with a child waiting, and answers the
children still waiting. Over any sequence of calls from an invocation that has not fanned out, a
failed call leaving the invocation as it was: without a publication of at least one child nothing
changes; with one, its first such publication of `n` children fans the invocation out for good
with `count = n`, and after it `waiting` is `n` less the count-downs that succeed, which are as
many as were asked for up to `n`. Nothing but the counter changes. -/
theorem fanOut_counter_publishes_once_and_drains :
    (∀ (inv inv' : Invocation) (n : Nat), inv.setFanOut n = .ok inv' ↔
        0 < n ∧ inv.fanOut = .leaf ∧ inv' = { inv with fanOut := .fannedOut n n }) ∧
    (∀ (inv inv' : Invocation) (w : Nat), inv.decrementWaiting = .ok (w, inv') ↔
        ∃ c, inv.fanOut = .fannedOut c (w + 1) ∧ inv' = { inv with fanOut := .fannedOut c w }) ∧
    (∀ (inv : Invocation) (calls : List CounterCall), inv.fanOut = .leaf →
        (∀ m, .publish m ∈ calls → m = 0) → runCalls inv calls = inv) ∧
    (∀ (inv : Invocation) (before after : List CounterCall) (n : Nat), inv.fanOut = .leaf →
        (∀ m, .publish m ∈ before → m = 0) → 0 < n →
        countedDown inv (before ++ .publish n :: after) = min n (after.count .countDown) ∧
        runCalls inv (before ++ .publish n :: after) =
          { inv with fanOut := .fannedOut n (n - countedDown inv (before ++ .publish n :: after)) }) := by
  refine ⟨fun _ _ _ => setFanOut_eq_ok_iff, fun _ _ _ => decrementWaiting_eq_ok_iff,
    fun _ _ h hcalls => (runCalls_unpublished h hcalls).1, ?_⟩
  intro inv before after n h hbefore hn
  obtain ⟨hrun, hnone⟩ := runCalls_unpublished h hbefore
  have hpub : (CounterCall.publish n).next inv = { inv with fanOut := .fannedOut n n } := by
    rcases CounterCall.next_leaf h (.publish n) with ⟨m, -, hm, -, hnext⟩ | ⟨hzero, -, -⟩
    · cases hm; exact hnext
    · exact absurd (hzero n rfl) hn.ne'
  obtain ⟨hafter, hcount⟩ := @runCalls_fannedOut { inv with fanOut := .fannedOut n n } n n rfl after
  have hcounted : countedDown inv (before ++ .publish n :: after) = min n (after.count .countDown) := by
    rw [countedDown_append, hnone, hrun, countedDown_cons, hpub, hcount]
    simp
  refine ⟨hcounted, ?_⟩
  rw [runCalls_append, hrun, runCalls_cons, hpub, hafter, hcounted]
  simp only
  congr 2
  omega

/-- A count-down on the leaf and a publication of no child both fail; the publication of two
children that follows fans out, and the count-down after it leaves one child waiting. -/
theorem fanOut_counter_two_children :
    (∀ m, CounterCall.publish m ∈ [.countDown, .publish 0] → m = 0) ∧
      runCalls ⟨"wf", "I1", none, "s", .map, .leaf, none, "t"⟩
          [.countDown, .publish 0, .publish 2, .countDown] =
        ⟨"wf", "I1", none, "s", .map, .fannedOut 2 1, none, "t"⟩ := by
  have hbefore : ∀ m, CounterCall.publish m ∈ [.countDown, .publish 0] → m = 0 := by simp
  obtain ⟨hcount, hrun⟩ := fanOut_counter_publishes_once_and_drains.2.2.2
    ⟨"wf", "I1", none, "s", .map, .leaf, none, "t"⟩ [.countDown, .publish 0] [.countDown] 2 rfl
    hbefore (by decide)
  refine ⟨hbefore, hrun.trans ?_⟩
  rw [hcount]
  rfl

end MapReduce.Invocation
