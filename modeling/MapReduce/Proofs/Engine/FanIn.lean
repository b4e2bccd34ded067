import MapReduce.Proofs.Domain.AtomicUpdate
import MapReduce.Proofs.Domain.Codec
import MapReduce.Proofs.Kv.Memory
import MapReduce.Proofs.Domain.Linearizability
import MapReduce.Engine.Processor
import Mathlib

/-! # Fan-in fires exactly once

A parent invocation fanned out to `n` children waits for them: each child, once reduced, calls
`decrementParent`, an atomic update that counts one child down. The `n` calls run concurrently on
one store, and their reads and compare-and-swap saves interleave in any order. Here the calls are
`n` callers of the atomic update (`EntityStore.Phase`), a schedule names whose store operation
comes next, and `Inv` says what holds between any two operations: the parent waits for `n` less
the saves so far, each caller's read names how many saves it saw, and each failed attempt was lost
to another caller's save. From it: the caller whose save is the `n`-th, and only that one,
answers `true`; and every call succeeds in every interleaving exactly when the ceiling of attempts
is at least `n`, since below that a schedule that makes one caller lose every read to another's
save leaves it out of attempts. All this needs room in the revision counter for the `n` saves: at
its ceiling every write takes the version already there, a save over a stale read goes through, and
two callers can both count the same child down, so that no call answers `true`. -/

namespace MapReduce.FanIn

open EntityStore (Phase)

/-- The change `decrementParent` makes to the parent: one more child counted as reduced. -/
def countDown (inv : Invocation) : Except DomainError (Invocation × Unit) :=
  (inv.decrementWaiting).map fun (_, inv) => (inv, ())

/-- What `decrementParent` answers for the outcome of its update: whether no child is left
waiting. -/
def answerOf : Except DomainError (Record Invocation × Unit) → Except DomainError Bool
  | .ok (r, _) => .ok (match r.data.fanOut with
    | .fannedOut _ 0 => true
    | _ => false)
  | .error e => .error e

/-- The ceiling of attempts of the engine's atomic updates. -/
def ceiling (e : Engine) : Nat := max e.config.maxAttempts 1

/-- Run alone, `decrementParent` is one caller of the atomic update of the parent by `countDown`:
within `2 * ceiling + 1` store operations it finishes, and the engine answers what the caller
answers, on the store the caller leaves. -/
theorem decrementParent_solo (e : Engine) (wf id : String) (w : World) :
    ∃ o s, Phase.stepN (ceiling e) [wf, id] countDown (2 * ceiling e + 1) (.reading (ceiling e))
        w.store = (.done o, s) ∧
      (e.decrementParent wf id).run w =
        ((answerOf o).mapError fun err => .error (.domain err), { w with store := s }) := by
  refine ⟨_, _, Phase.stepN_eq_atomicUpdate _ _, ?_⟩
  show (EngineM.domain (EntityStore.atomicUpdate e.config.maxAttempts [wf, id] countDown) >>=
    fun r => pure (match r.1.data.fanOut with
      | .fannedOut _ 0 => true
      | _ => false)) w = _
  rcases h : EntityStore.atomicUpdate e.config.maxAttempts [wf, id] countDown w.store with
    ⟨_ | ⟨r, _⟩, s⟩ <;>
  simp [EngineM.domain, ExceptT.run, h, bind, ExceptT.bind, ExceptT.mk, ExceptT.bindCont,
    StateT.bind, pure, ExceptT.pure, StateT.pure, answerOf, Except.mapError]

/-- `n` callers of `decrementParent` on one parent, each between two operations on the shared
store, with the callers whose save went through, in the order they did. -/
structure Config (n : Nat) where
  callers : Fin n → Phase Invocation Unit
  store : Store
  saves : List (Fin n)

variable {n : Nat} (e : Engine) (wf id : String)

/-- One store operation of caller `i`; a save that goes through is recorded. -/
def step (c : Config n) (i : Fin n) : Config n :=
  let next := (c.callers i).step (ceiling e) [wf, id] countDown c.store
  { callers := Function.update c.callers i next.1
    store := next.2
    saves := if !(c.callers i).succeeded && next.1.succeeded then c.saves ++ [i] else c.saves }

/-- The callers' operations in the order a schedule gives. -/
def run (sched : List (Fin n)) (c : Config n) : Config n := sched.foldl (step e wf id) c

/-- Every caller about to read, on a store. -/
def start (s : Store) : Config n := ⟨fun _ => .reading (ceiling e), s, []⟩

/-- The answer of caller `i`, once it has finished. -/
def answer (c : Config n) (i : Fin n) : Option (Except DomainError Bool) :=
  match c.callers i with
  | .done o => some (answerOf o)
  | _ => none

/-- Every caller has finished. -/
def Complete (c : Config n) : Prop := ∀ i, (c.callers i).isDone

/-! ## Schedules -/

@[simp] theorem run_nil (c : Config n) : run e wf id [] c = c := rfl

@[simp] theorem run_cons (i : Fin n) (sched : List (Fin n)) (c : Config n) :
    run e wf id (i :: sched) c = run e wf id sched (step e wf id c i) := rfl

theorem run_append (s t : List (Fin n)) (c : Config n) :
    run e wf id (s ++ t) c = run e wf id t (run e wf id s c) := List.foldl_append ..

theorem step_callers_of_ne {c : Config n} {i j : Fin n} (h : j ≠ i) :
    (step e wf id c i).callers j = c.callers j := by
  simp [step, Function.update_of_ne h]

/-- A caller that the schedule never names stands where it stood. -/
theorem run_callers_of_not_mem {j : Fin n} (sched : List (Fin n)) (c : Config n) (h : j ∉ sched) :
    (run e wf id sched c).callers j = c.callers j := by
  induction sched generalizing c with
  | nil => rfl
  | cons i sched ih =>
    obtain ⟨hji, hj⟩ := List.ne_and_not_mem_of_not_mem_cons h
    rw [run_cons, ih _ hj, step_callers_of_ne e wf id hji]

theorem step_of_done {c : Config n} {i : Fin n} {o : Except DomainError (Record Invocation × Unit)}
    (h : c.callers i = .done o) : step e wf id c i = c := by
  have hs : (c.callers i).succeeded = o.isOk := by rw [h]; cases o <;> rfl
  simp only [step, h, Phase.step_done]
  cases c
  simp only [Config.mk.injEq]
  refine ⟨?_, trivial, ?_⟩
  · rw [← h]; exact Function.update_eq_self _ _
  · rw [h] at hs; simp [hs]

/-- A finished caller stays finished with the same outcome. -/
theorem run_callers_of_done {i : Fin n} {o : Except DomainError (Record Invocation × Unit)}
    (sched : List (Fin n)) (c : Config n) (h : c.callers i = .done o) :
    (run e wf id sched c).callers i = .done o := by
  induction sched generalizing c with
  | nil => exact h
  | cons j sched ih =>
    rw [run_cons]
    apply ih
    by_cases hij : i = j
    · subst hij
      rw [step_of_done e wf id h]
      exact h
    · rw [step_callers_of_ne e wf id hij]
      exact h

/-! ## The stored parent -/

/-- The parent `p` as the program stores it: at `path` of the memory store `m`, at version `v`,
fanned out to `n ≥ 1` children all waiting, and with room in the revision counter for `n` more
writes, so that every write takes a version no node has had. -/
structure StoredParent (n : Nat) (wf id : String) (m : MemoryStore) (path : String)
    (p : Invocation) (v : Nat) : Prop where
  key : (EntityStore.entityKey Invocation [wf, id]).encode = .ok path
  node : m.find? path = some ⟨v, Entity.toText p⟩
  workflow : p.workflow = wf
  identity : p.id = id
  fannedOut : p.fanOut = .fannedOut n n
  pos : 0 < n
  bounded : n < 2 ^ 64
  createdAt : Text.normalTimestamp p.createdAt = .ok p.createdAt
  version_le : v ≤ m.revision
  room : m.revision + n < MemoryStore.revisionBound

/-- The parent with `w` of its `n` children still waiting. -/
def waiting (p : Invocation) (n w : Nat) : Invocation := { p with fanOut := .fannedOut n w }

/-- The version of the parent's node after `k` saves: each save takes the next revision. -/
def versionAfter (m : MemoryStore) (v k : Nat) : Nat := if k = 0 then v else m.revision + k

section Parent

variable {wf id} {m : MemoryStore} {path : String} {p : Invocation} {v : Nat}

theorem StoredParent.waiting_self (hP : StoredParent n wf id m path p v) : waiting p n n = p := by
  cases p
  simp [waiting, ← hP.fannedOut]

theorem StoredParent.decodeAs_waiting (hP : StoredParent n wf id m path p v) {w : Nat} (hw : w ≤ n) :
    Kv.decodeAs Entity.decode (Entity.toText (waiting p n w)) = .ok (waiting p n w) :=
  Invocation.decodeAs_toText hP.createdAt ⟨hP.bounded, by have := hP.bounded; omega⟩

theorem StoredParent.recordKey_waiting (hP : StoredParent n wf id m path p v) (w : Nat) :
    EntityStore.recordKey (waiting p n w) = EntityStore.entityKey Invocation [wf, id] := by
  simp [EntityStore.recordKey, Entity.identity, waiting, hP.workflow, hP.identity]

theorem countDown_waiting {k : Nat} (hk : k < n) :
    countDown (waiting p n (n - k)) = .ok (waiting p n (n - k - 1), ()) := by
  obtain ⟨w, hw⟩ : ∃ w, n - k = w + 1 := ⟨n - k - 1, by omega⟩
  simp [countDown, Invocation.decrementWaiting, waiting, hw, Except.map]

theorem StoredParent.versionAfter_lt (hP : StoredParent n wf id m path p v) {k l : Nat}
    (h : k < l) : versionAfter m v k < versionAfter m v l := by
  have := hP.version_le
  unfold versionAfter
  split_ifs <;> omega

end Parent

/-! ## The invariant -/

/-- The shared store after `k` saves: nobody races it, the revision counter has moved by `k`, and
the parent's node holds the parent with `n - k` children waiting, at the version after `k`
saves. -/
def StoreAfter (n : Nat) (m : MemoryStore) (path : String) (p : Invocation) (v k : Nat)
    (s : Store) : Prop :=
  ∃ m', s = ⟨.memory m', []⟩ ∧ m'.revision = m.revision + k ∧
    m'.find? path = some ⟨versionAfter m v k, Entity.toText (waiting p n (n - k))⟩

/-- Where caller `i` may stand after the saves `saves`. One that reads again has failed no more
often than others have saved; one about to save has read the parent after `k` saves and counted
it down from there; one that saved is the `j`-th save and left `n - j - 1` waiting; one that
failed ran out of its `C` attempts, each lost to another caller's save. -/
def PhaseOk (n C : Nat) (wf id : String) (m : MemoryStore) (p : Invocation) (v : Nat)
    (saves : List (Fin n)) (i : Fin n) : Phase Invocation Unit → Prop
  | .reading left => left ≤ C ∧ C - left ≤ saves.length ∧ i ∉ saves
  | .saving left version x _ => i ∉ saves ∧ left < C ∧
    ∃ k, k ≤ saves.length ∧ k < n ∧ C - left - 1 ≤ k ∧ version = some (versionAfter m v k) ∧
      x = waiting p n (n - k - 1)
  | .done (.ok (r, _)) => ∃ j, saves[j]? = some i ∧ r.data = waiting p n (n - j - 1)
  | .done (.error err) => err = Phase.exhausted Invocation [wf, id] C ∧ C ≤ saves.length ∧ i ∉ saves

/-- What holds between any two store operations of the callers. -/
structure Inv (m : MemoryStore) (path : String) (p : Invocation) (v : Nat) (c : Config n) :
    Prop where
  store : StoreAfter n m path p v c.saves.length c.store
  nodup : c.saves.Nodup
  callers : ∀ i, PhaseOk n (ceiling e) wf id m p v c.saves i (c.callers i)

/-- Callers that have not saved leave fewer than `n` saves. -/
theorem length_lt_of_not_mem {saves : List (Fin n)} {i : Fin n} (hnd : saves.Nodup)
    (hi : i ∉ saves) : saves.length < n := by
  have hsub : saves.toFinset ⊂ Finset.univ :=
    Finset.ssubset_univ_iff.mpr fun h => hi (List.mem_toFinset.mp (h ▸ Finset.mem_univ i))
  calc saves.length = saves.toFinset.card := (List.toFinset_card_of_nodup hnd).symm
    _ < Finset.univ.card := Finset.card_lt_card hsub
    _ = n := Finset.card_fin n

theorem PhaseOk.append {C : Nat} {m : MemoryStore} {p : Invocation} {v : Nat}
    {saves : List (Fin n)} {i j : Fin n} {ph : Phase Invocation Unit}
    (h : PhaseOk n C wf id m p v saves j ph) (hji : j ≠ i) :
    PhaseOk n C wf id m p v (saves ++ [i]) j ph := by
  match ph, h with
  | .reading _, ⟨hl, hfail, hnot⟩ => exact ⟨hl, by simp; omega, by simp [hnot, hji]⟩
  | .saving _ _ _ _, ⟨hnot, hl, k, hk, hkn, hfail, hver, hx⟩ =>
    exact ⟨by simp [hnot, hji], hl, k, by simp; omega, hkn, hfail, hver, hx⟩
  | .done (.ok _), ⟨j', hj', hx⟩ =>
    have hlt : j' < saves.length := (List.getElem?_eq_some_iff.mp hj').1
    exact ⟨j', by rw [List.getElem?_append_left hlt, hj'], hx⟩
  | .done (.error _), ⟨herr, hC, hnot⟩ => exact ⟨herr, by simp; omega, by simp [hnot, hji]⟩

/-! ## One store operation -/

section Steps

variable {m : MemoryStore} {path : String} {p : Invocation} {v : Nat} {c : Config n} {i : Fin n}

theorem step_of_reading_zero (h : c.callers i = .reading 0) :
    step e wf id c i = { c with
      callers := Function.update c.callers i
        (.done (.error (Phase.exhausted Invocation [wf, id] (ceiling e)))) } := by
  simp [step, h, Phase.step, Phase.succeeded]

/-- A read finds the parent after all saves so far, and counts it down from there. -/
theorem step_of_reading_succ (hP : StoredParent n wf id m path p v) (hI : Inv e wf id m path p v c)
    {l : Nat} (h : c.callers i = .reading (l + 1)) :
    step e wf id c i = { c with
      callers := Function.update c.callers i
        (.saving l (some (versionAfter m v c.saves.length))
          (waiting p n (n - c.saves.length - 1)) ()) } := by
  obtain ⟨m', hs, -, hnode⟩ := hI.store
  have hnot : i ∉ c.saves := by
    have hi := hI.callers i
    rw [h] at hi
    exact hi.2.2
  have hload : (EntityStore.load Invocation [wf, id]).run ⟨.memory m', []⟩ = _ :=
    EntityStore.load_memory hP.key hnode (hP.decodeAs_waiting (Nat.sub_le n c.saves.length))
  simp [step, h, Phase.step, hs, hload, countDown_waiting (length_lt_of_not_mem hI.nodup hnot),
    Phase.succeeded]

/-- A caller about to save read the parent after `k` saves and counted it down from there. -/
theorem Inv.saving (hI : Inv e wf id m path p v c) {l : Nat} {version : Option Nat}
    {x : Invocation} {u : Unit} (h : c.callers i = .saving l version x u) :
    i ∉ c.saves ∧ l < ceiling e ∧ ∃ k, k ≤ c.saves.length ∧ k < n ∧ ceiling e - l - 1 ≤ k ∧
      version = some (versionAfter m v k) ∧ x = waiting p n (n - k - 1) := by
  have hi := hI.callers i
  rw [h] at hi
  exact hi

/-- A save over the version after all saves so far goes through: it is the next save, and the
parent's node now holds one child fewer waiting, at the next revision. -/
theorem step_of_saving_current (hP : StoredParent n wf id m path p v)
    (hI : Inv e wf id m path p v c) {l : Nat} {x : Invocation} {u : Unit}
    (h : c.callers i = .saving l (some (versionAfter m v c.saves.length)) x u) :
    (step e wf id c i).callers = Function.update c.callers i
        (.done (.ok (⟨x, some (m.revision + c.saves.length + 1)⟩, ()))) ∧
      (step e wf id c i).saves = c.saves ++ [i] ∧
      StoreAfter n m path p v (c.saves.length + 1) (step e wf id c i).store := by
  obtain ⟨-, -, k, hk, hkn, -, hver, rfl⟩ := hI.saving e wf id h
  have hkS : k = c.saves.length := by
    rcases Nat.lt_or_eq_of_le hk with hlt | heq
    · have := hP.versionAfter_lt hlt
      simp only [Option.some.injEq] at hver
      omega
    · exact heq
  subst hkS
  obtain ⟨m', hs, hrev, hnode⟩ := hI.store
  have hkey : (EntityStore.recordKey (waiting p n (n - c.saves.length - 1))).encode = .ok path := by
    rw [hP.recordKey_waiting]
    exact hP.key
  have hsave := EntityStore.save_current (x := waiting p n (n - c.saves.length - 1)) rfl hkey hnode rfl
  have hroom := hP.room
  have hnext : min (m'.revision + 1) MemoryStore.revisionBound = m.revision + c.saves.length + 1 := by
    omega
  refine ⟨?_, ?_, ?_⟩
  · simp [step, h, Phase.step, hs, hsave, hnext]
  · simp [step, h, Phase.step, hs, hsave, Phase.succeeded]
  · refine ⟨(m'.write path (Entity.toText (waiting p n (n - c.saves.length - 1)))).2,
      by simp [step, h, Phase.step, hs, hsave], by rw [MemoryStore.revision_write, hnext, Nat.add_assoc], ?_⟩
    rw [MemoryStore.find?_write, if_pos rfl, hnext]
    simp [versionAfter, Nat.sub_sub]
    omega

/-- A save over an older version fails, and the caller reads again. -/
theorem step_of_saving_stale (hP : StoredParent n wf id m path p v)
    (hI : Inv e wf id m path p v c) {l k : Nat} {x : Invocation} {u : Unit}
    (h : c.callers i = .saving l (some (versionAfter m v k)) x u) (hk : k < c.saves.length) :
    step e wf id c i = { c with callers := Function.update c.callers i (.reading l) } := by
  obtain ⟨-, -, k', -, -, -, hver, rfl⟩ := hI.saving e wf id h
  obtain ⟨m', hs, -, hnode⟩ := hI.store
  have hkey : (EntityStore.recordKey (waiting p n (n - k' - 1))).encode = .ok path := by
    rw [hP.recordKey_waiting]
    exact hP.key
  have hne : versionAfter m v c.saves.length ≠ versionAfter m v k :=
    Nat.ne_of_gt (hP.versionAfter_lt hk)
  have hsave := EntityStore.save_stale (x := waiting p n (n - k' - 1)) rfl hkey hnode hne
  simp [step, h, Phase.step, hs, hsave, Phase.succeeded, DomainError.isPreconditionFailed,
    KvError.isPreconditionFailed]

/-- Moving one caller to a place allowed after the same saves keeps the invariant. -/
theorem Inv.update (hI : Inv e wf id m path p v c) {ph : Phase Invocation Unit}
    (hph : PhaseOk n (ceiling e) wf id m p v c.saves i ph) :
    Inv e wf id m path p v { c with callers := Function.update c.callers i ph } := by
  refine ⟨hI.store, hI.nodup, fun j => ?_⟩
  by_cases hji : j = i
  · subst hji
    simpa using hph
  · simpa [Function.update_of_ne hji] using hI.callers j

/-- Every store operation of every caller keeps the invariant. -/
theorem Inv.step (hP : StoredParent n wf id m path p v) (hI : Inv e wf id m path p v c)
    (i : Fin n) : Inv e wf id m path p v (step e wf id c i) := by
  have hi := hI.callers i
  cases hph : c.callers i with
  | reading left =>
    rw [hph] at hi
    obtain ⟨hl, hfail, hnot⟩ := hi
    cases left with
    | zero =>
      rw [step_of_reading_zero e wf id hph]
      exact hI.update e wf id ⟨rfl, by omega, hnot⟩
    | succ l =>
      rw [step_of_reading_succ e wf id hP hI hph]
      exact hI.update e wf id ⟨hnot, by omega, c.saves.length, le_rfl,
        length_lt_of_not_mem hI.nodup hnot, by omega, rfl, rfl⟩
  | saving l version x u =>
    obtain ⟨hnot, hl, k, hk, hkn, hfail, rfl, hx⟩ := hI.saving e wf id hph
    rcases Nat.lt_or_eq_of_le hk with hlt | rfl
    · -- someone saved since the read: the save fails and the caller reads again
      rw [step_of_saving_stale e wf id hP hI hph hlt]
      exact hI.update e wf id ⟨by omega, by omega, hnot⟩
    · -- nobody saved since the read: the save goes through and is recorded
      obtain ⟨hcallers, hsaves, hstore⟩ := step_of_saving_current e wf id hP hI hph
      refine ⟨by simpa [hsaves] using hstore, ?_, ?_⟩
      · rw [hsaves, ← List.concat_eq_append]
        exact List.Nodup.concat hnot hI.nodup
      intro j
      rw [hcallers, hsaves]
      by_cases hji : j = i
      · subst hji
        rw [Function.update_self]
        exact ⟨c.saves.length, by simp, by simpa using hx⟩
      · rw [Function.update_of_ne hji]
        exact (hI.callers j).append wf id hji
  | done o =>
    rw [step_of_done e wf id hph]
    exact hI

/-- The invariant holds after every schedule. -/
theorem Inv.run (hP : StoredParent n wf id m path p v) (sched : List (Fin n))
    (hI : Inv e wf id m path p v c) : Inv e wf id m path p v (run e wf id sched c) := by
  induction sched generalizing c with
  | nil => exact hI
  | cons i sched ih => exact ih (hI.step e wf id hP i)

/-- The invariant holds when every caller is about to read the parent as stored. -/
theorem Inv.start (hP : StoredParent n wf id m path p v) :
    Inv e wf id m path p v (start e ⟨.memory m, []⟩ : Config n) := by
  refine ⟨⟨m, rfl, rfl, ?_⟩, List.nodup_nil, fun i => ⟨le_rfl, by simp, List.not_mem_nil⟩⟩
  simp [FanIn.start, versionAfter, hP.waiting_self, hP.node]

end Steps

/-! ## What the invariant says of the answers -/

section Answers

variable {m : MemoryStore} {path : String} {p : Invocation} {v : Nat} {c : Config n}

theorem Inv.length_le (hI : Inv e wf id m path p v c) : c.saves.length ≤ n := by
  simpa using hI.nodup.length_le_card

/-- A read of the parent finds it with `n - k` children waiting after `k` saves. -/
theorem Inv.load (hP : StoredParent n wf id m path p v) (hI : Inv e wf id m path p v c) :
    (EntityStore.load Invocation [wf, id]).run c.store =
      (.ok ⟨waiting p n (n - c.saves.length), some (versionAfter m v c.saves.length)⟩, c.store) := by
  obtain ⟨m', hs, -, hnode⟩ := hI.store
  rw [hs]
  exact EntityStore.load_memory hP.key hnode (hP.decodeAs_waiting (Nat.sub_le n _))

/-- A caller that has not finished has not saved. -/
theorem Inv.not_mem_of_running (hI : Inv e wf id m path p v c) {i : Fin n}
    (hph : ∀ o, c.callers i = .done o → False) : i ∉ c.saves := by
  have hi := hI.callers i
  cases hc : c.callers i with
  | reading left => rw [hc] at hi; exact hi.2.2
  | saving left version x u => rw [hc] at hi; exact hi.1
  | done o => exact absurd hc (hph o)

/-- The callers that answered are those whose save went through. -/
theorem Inv.answered_iff (hI : Inv e wf id m path p v c) (i : Fin n) :
    (∃ b, answer c i = some (.ok b)) ↔ i ∈ c.saves := by
  have hi := hI.callers i
  unfold answer
  split
  · next o hph =>
    rw [hph] at hi
    rcases o with err | ⟨r, u⟩
    · simpa [answerOf] using hi.2.2
    · obtain ⟨j, hj, -⟩ := hi
      simpa [answerOf] using List.mem_of_getElem? hj
  · next hph => simpa using hI.not_mem_of_running e wf id hph

/-- A caller answers that no child is left waiting exactly when its save is the `n`-th. -/
theorem Inv.answer_true_iff (hI : Inv e wf id m path p v c) (i : Fin n) :
    answer c i = some (.ok true) ↔ c.saves[n - 1]? = some i := by
  have hi := hI.callers i
  have hmem : c.saves[n - 1]? = some i → i ∈ c.saves := List.mem_of_getElem?
  unfold answer
  split
  · next o hph =>
    rw [hph] at hi
    rcases o with err | ⟨r, u⟩
    · simpa [answerOf] using fun h => hi.2.2 (hmem h)
    · obtain ⟨j, hj, hr⟩ := hi
      have hjS : j < c.saves.length := (List.getElem?_eq_some_iff.mp hj).1
      have hS := hI.length_le
      have hidx : c.saves[n - 1]? = some i ↔ j = n - 1 := by
        rw [← hj, eq_comm]
        exact List.getElem?_inj hjS hI.nodup
      rw [hidx]
      simp only [answerOf, hr, waiting, Option.some.injEq, Except.ok.injEq]
      constructor
      · intro htrue
        split at htrue
        · next heq => simp at heq; omega
        · exact absurd htrue Bool.false_ne_true
      · intro hjn
        have : n - j - 1 = 0 := by omega
        simp [this]
  · next hph => simpa using fun h => hI.not_mem_of_running e wf id hph (hmem h)

/-- At most one caller answers that no child is left waiting. -/
theorem Inv.true_unique (hI : Inv e wf id m path p v c) {i j : Fin n}
    (hi : answer c i = some (.ok true)) (hj : answer c j = some (.ok true)) : i = j := by
  rw [hI.answer_true_iff] at hi hj
  rw [hi] at hj
  exact Option.some.inj hj

/-- A caller fails only by running out of attempts, which needs more children than attempts. -/
theorem Inv.failed (hI : Inv e wf id m path p v c) {i : Fin n} {err : DomainError}
    (h : answer c i = some (.error err)) :
    err = Phase.exhausted Invocation [wf, id] (ceiling e) ∧ i ∉ c.saves ∧ ceiling e < n := by
  have hi := hI.callers i
  unfold answer at h
  split at h
  · next o hph =>
    rw [hph] at hi
    rcases o with err' | ⟨r, u⟩
    · simp only [answerOf, Option.some.injEq, Except.error.injEq] at h
      subst h
      obtain ⟨herr, hC, hnot⟩ := hi
      exact ⟨herr, hnot, by have := length_lt_of_not_mem hI.nodup hnot; omega⟩
    · simp [answerOf] at h
  · exact absurd h (by simp)

/-- Once a caller has failed, no caller answers that no child is left waiting. -/
theorem Inv.not_true_of_failed (hI : Inv e wf id m path p v c) {i : Fin n} {err : DomainError}
    (h : answer c i = some (.error err)) (j : Fin n) : answer c j ≠ some (.ok true) := by
  obtain ⟨-, hnot, -⟩ := hI.failed e wf id h
  have hlt := length_lt_of_not_mem hI.nodup hnot
  rw [Ne, hI.answer_true_iff, List.getElem?_eq_none (by omega)]
  simp

end Answers

/-! ## Every schedule can be completed -/

theorem step_callers_self (c : Config n) (i : Fin n) :
    (step e wf id c i).callers i = ((c.callers i).step (ceiling e) [wf, id] countDown c.store).1 := by
  simp [step]

theorem isDone_iff {ph : Phase Invocation Unit} : ph.isDone ↔ ∃ o, ph = .done o := by
  cases ph <;> simp [Phase.isDone]

theorem rank_eq_zero {ph : Phase Invocation Unit} (h : ph.rank = 0) : ph.isDone := by
  cases ph <;> simp_all [Phase.rank, Phase.isDone]

theorem run_isDone {i : Fin n} (sched : List (Fin n)) {c : Config n} (h : (c.callers i).isDone) :
    ((run e wf id sched c).callers i).isDone := by
  obtain ⟨o, ho⟩ := isDone_iff.mp h
  rw [run_callers_of_done e wf id sched c ho]
  rfl

/-- Scheduling a caller as often as its rank finishes it. -/
theorem run_replicate_isDone (i : Fin n) (k : Nat) (c : Config n) (hk : (c.callers i).rank ≤ k) :
    ((run e wf id (List.replicate k i) c).callers i).isDone := by
  induction k generalizing c with
  | zero =>
    rw [List.replicate_zero, run_nil]
    exact rank_eq_zero (by omega)
  | succ k ih =>
    rw [List.replicate_succ, run_cons]
    by_cases hd : (c.callers i).isDone
    · obtain ⟨o, ho⟩ := isDone_iff.mp hd
      rw [step_of_done e wf id ho]
      exact run_isDone e wf id _ hd
    · apply ih
      rw [step_callers_self]
      have hlt : ((c.callers i).step (ceiling e) [wf, id] countDown c.store).1.rank <
          (c.callers i).rank :=
        Phase.rank_step_lt _ _ (by simpa using hd)
      omega

/-- From every configuration some schedule lets every caller finish. -/
theorem exists_complete (c : Config n) : ∃ more, Complete (run e wf id more c) := by
  suffices h : ∀ (l : List (Fin n)) (c : Config n), ∃ more, ∀ i ∈ l, ((run e wf id more c).callers i).isDone by
    obtain ⟨more, hmore⟩ := h (List.finRange n) c
    exact ⟨more, fun i => hmore i (List.mem_finRange i)⟩
  intro l
  induction l with
  | nil => exact fun c => ⟨[], by simp⟩
  | cons i l ih =>
    intro c
    let first := List.replicate (c.callers i).rank i
    obtain ⟨rest, hrest⟩ := ih (run e wf id first c)
    refine ⟨first ++ rest, fun j hj => ?_⟩
    rw [run_append]
    rcases List.mem_cons.mp hj with rfl | hj
    · exact run_isDone e wf id rest (run_replicate_isDone e wf id j _ c le_rfl)
    · exact hrest j hj

/-! ## Enough attempts: every caller answers, exactly one with `true` -/

/-- A list of distinct callers that names every caller has `n` entries. -/
theorem length_eq_of_forall_mem {saves : List (Fin n)} (hnd : saves.Nodup)
    (hall : ∀ i, i ∈ saves) : saves.length = n := by
  have huniv : saves.toFinset = Finset.univ := Finset.eq_univ_iff_forall.mpr fun i =>
    List.mem_toFinset.mpr (hall i)
  rw [← List.toFinset_card_of_nodup hnd, huniv, Finset.card_univ, Fintype.card_fin]

section Answers

variable {m : MemoryStore} {path : String} {p : Invocation} {v : Nat} {c : Config n}

/-- With at least as many attempts as children, a complete run has every caller answer, and
exactly one of them answers that no child is left waiting. -/
theorem Inv.all_answer (hP : StoredParent n wf id m path p v) (hI : Inv e wf id m path p v c)
    (hc : Complete c) (hn : n ≤ ceiling e) :
    (∀ i, ∃ b, answer c i = some (.ok b)) ∧ ∃! i, answer c i = some (.ok true) := by
  have hall : ∀ i, ∃ b, answer c i = some (.ok b) := by
    intro i
    obtain ⟨o, ho⟩ := isDone_iff.mp (hc i)
    rcases o with err | ⟨r, u⟩
    · -- a failure would need fewer attempts than children
      have hfail : answer c i = some (.error err) := by simp [answer, ho, answerOf]
      have := (hI.failed e wf id hfail).2.2
      omega
    · exact ⟨_, by rw [answer, ho]; rfl⟩
  refine ⟨hall, ?_⟩
  have hlen : c.saves.length = n :=
    length_eq_of_forall_mem hI.nodup fun i => (hI.answered_iff e wf id i).mp (hall i)
  have hlast : n - 1 < c.saves.length := by have := hP.pos; omega
  refine ⟨c.saves[n - 1], (hI.answer_true_iff e wf id _).mpr (List.getElem?_eq_getElem hlast),
    fun j hj => hI.true_unique e wf id hj ((hI.answer_true_iff e wf id _).mpr
      (List.getElem?_eq_getElem hlast))⟩

end Answers

/-! ## Too few attempts: a schedule that starves one caller -/

section Starving

variable {m : MemoryStore} {path : String} {p : Invocation} {v : Nat} {c : Config n}

theorem ceiling_pos : 0 < ceiling e := by
  simp [ceiling]

/-- A caller that reads and saves with nobody in between finishes. -/
theorem run_pair_isDone (hP : StoredParent n wf id m path p v) (hI : Inv e wf id m path p v c)
    {j : Fin n} (hj : c.callers j = .reading (ceiling e)) :
    ((run e wf id [j, j] c).callers j).isDone := by
  have hC : ceiling e = (ceiling e - 1) + 1 := by have := ceiling_pos e; omega
  rw [hC] at hj
  have h1 := step_of_reading_succ e wf id hP hI hj
  have hI1 := hI.step e wf id hP j
  have hj1 : (step e wf id c j).callers j = .saving (ceiling e - 1)
      (some (versionAfter m v (step e wf id c j).saves.length))
      (waiting p n (n - c.saves.length - 1)) () := by
    rw [h1]
    simp
  obtain ⟨hcallers, -, -⟩ := step_of_saving_current e wf id hP hI1 hj1
  simp [run_cons, hcallers, Phase.isDone]

/-- One round against a victim: the victim reads, another caller reads and saves, and the
victim's save then meets the newer version, costing it an attempt. -/
theorem run_round (hP : StoredParent n wf id m path p v) (hI : Inv e wf id m path p v c)
    {victim j : Fin n} {l : Nat} (hv : c.callers victim = .reading (l + 1))
    (hj : c.callers j = .reading (ceiling e)) (hvj : victim ≠ j) :
    (run e wf id [victim, j, j, victim] c).callers victim = .reading l ∧
      ((run e wf id [victim, j, j, victim] c).callers j).isDone := by
  have hC : ceiling e = (ceiling e - 1) + 1 := by have := ceiling_pos e; omega
  have h1 := step_of_reading_succ e wf id hP hI hv
  set c1 := step e wf id c victim with hc1
  have hI1 : Inv e wf id m path p v c1 := hI.step e wf id hP victim
  have hS1 : c1.saves = c.saves := by rw [h1]
  have hj1 : c1.callers j = .reading ((ceiling e - 1) + 1) := by
    rw [step_callers_of_ne e wf id (Ne.symm hvj), hj, ← hC]
  have h2 := step_of_reading_succ e wf id hP hI1 hj1
  set c2 := step e wf id c1 j with hc2
  have hI2 : Inv e wf id m path p v c2 := hI1.step e wf id hP j
  have hS2 : c2.saves = c.saves := by rw [h2, hS1]
  have hj2 : c2.callers j = .saving (ceiling e - 1) (some (versionAfter m v c2.saves.length))
      (waiting p n (n - c1.saves.length - 1)) () := by
    rw [h2]
    simp [hS1]
  obtain ⟨hcallers3, hsaves3, -⟩ := step_of_saving_current e wf id hP hI2 hj2
  set c3 := step e wf id c2 j with hc3
  have hI3 : Inv e wf id m path p v c3 := hI2.step e wf id hP j
  have hv3 : c3.callers victim = .saving l (some (versionAfter m v c.saves.length))
      (waiting p n (n - c.saves.length - 1)) () := by
    rw [hcallers3, Function.update_of_ne hvj, h2]
    simp [Function.update_of_ne hvj, h1]
  have hlt : c.saves.length < c3.saves.length := by simp [hsaves3, hS2]
  have h4 := step_of_saving_stale e wf id hP hI3 hv3 hlt
  refine ⟨?_, ?_⟩
  · simp [run_cons, ← hc1, ← hc2, ← hc3, h4]
  · simp [run_cons, ← hc1, ← hc2, ← hc3, h4, Function.update_of_ne (Ne.symm hvj), hcallers3,
      Phase.isDone]

/-- Rounds against one victim, one per other caller in `rivals`: each costs the victim an
attempt, and each rival finishes. -/
theorem run_rounds (hP : StoredParent n wf id m path p v) {victim : Fin n} :
    ∀ (rivals : List (Fin n)) (c : Config n) (l : Nat), Inv e wf id m path p v c →
      rivals.Nodup → victim ∉ rivals → (∀ j ∈ rivals, c.callers j = .reading (ceiling e)) →
      c.callers victim = .reading (l + rivals.length) →
      let c' := run e wf id (rivals.flatMap fun j => [victim, j, j, victim]) c
      c'.callers victim = .reading l ∧ ∀ j ∈ rivals, (c'.callers j).isDone := by
  intro rivals
  induction rivals with
  | nil => exact fun c l _ _ _ _ hv => ⟨hv, by simp⟩
  | cons j rivals ih =>
    intro c l hI hnd hnot hread hv
    obtain ⟨hjr, hnd'⟩ := List.nodup_cons.mp hnd
    obtain ⟨hvj, hnot'⟩ := List.ne_and_not_mem_of_not_mem_cons hnot
    have hv' : c.callers victim = .reading (l + rivals.length + 1) := by
      rw [hv, List.length_cons, Nat.add_assoc]
    obtain ⟨hround_v, hround_j⟩ :=
      run_round e wf id hP hI hv' (hread j List.mem_cons_self) hvj
    set c1 := run e wf id [victim, j, j, victim] c
    have hread' : ∀ k ∈ rivals, c1.callers k = .reading (ceiling e) := by
      intro k hk
      have hkj : k ≠ j := fun h => hjr (h ▸ hk)
      have hkv : k ≠ victim := fun h => hnot' (h ▸ hk)
      rw [run_callers_of_not_mem e wf id _ c (by simp [hkj, hkv])]
      exact hread k (List.mem_cons_of_mem j hk)
    obtain ⟨hv_end, hdone⟩ := ih c1 l (hI.run e wf id hP _) hnd' hnot' hread' hround_v
    simp only [List.flatMap_cons, run_append]
    refine ⟨hv_end, fun k hk => ?_⟩
    rcases List.mem_cons.mp hk with rfl | hk
    · exact run_isDone e wf id _ hround_j
    · exact hdone k hk

/-- Callers that each read and save with nobody in between all finish. -/
theorem run_pairs (hP : StoredParent n wf id m path p v) :
    ∀ (later : List (Fin n)) (c : Config n), Inv e wf id m path p v c → later.Nodup →
      (∀ j ∈ later, c.callers j = .reading (ceiling e)) →
      ∀ j ∈ later, ((run e wf id (later.flatMap fun j => [j, j]) c).callers j).isDone := by
  intro later
  induction later with
  | nil => simp
  | cons j later ih =>
    intro c hI hnd hread
    obtain ⟨hjl, hnd'⟩ := List.nodup_cons.mp hnd
    have hpair := run_pair_isDone e wf id hP hI (hread j List.mem_cons_self)
    have hread' : ∀ k ∈ later, (run e wf id [j, j] c).callers k = .reading (ceiling e) := by
      intro k hk
      have hkj : k ≠ j := fun h => hjl (h ▸ hk)
      rw [run_callers_of_not_mem e wf id _ c (by simp [hkj])]
      exact hread k (List.mem_cons_of_mem j hk)
    have hdone := ih _ (hI.run e wf id hP _) hnd' hread'
    intro k hk
    simp only [List.flatMap_cons, run_append]
    rcases List.mem_cons.mp hk with rfl | hk
    · exact run_isDone e wf id _ hpair
    · exact hdone k hk

/-- With fewer attempts than children, some schedule lets every caller finish with one of them out
of attempts: it loses each of its reads to a save by another caller. -/
theorem exists_starving_schedule (hP : StoredParent n wf id m path p v) (hn : ceiling e < n) :
    ∃ sched : List (Fin n), Complete (run e wf id sched (start e ⟨.memory m, []⟩)) ∧
      ∃ i, answer (run e wf id sched (start e ⟨.memory m, []⟩)) i =
        some (.error (Phase.exhausted Invocation [wf, id] (ceiling e))) := by
  let victim : Fin n := ⟨0, hP.pos⟩
  let others := (List.finRange n).erase victim
  have hnd_others : others.Nodup := (List.nodup_finRange n).erase victim
  have hvo : victim ∉ others := (List.nodup_finRange n).not_mem_erase
  have hlen : others.length = n - 1 := by
    simp [others, List.length_erase_of_mem (List.mem_finRange victim)]
  have hother : ∀ i, i ≠ victim → i ∈ others := fun i h =>
    (List.mem_erase_of_ne h).mpr (List.mem_finRange i)
  let rivals := others.take (ceiling e)
  let later := others.drop (ceiling e)
  have hsplit : rivals ++ later = others := List.take_append_drop _ _
  have hnd : (rivals ++ later).Nodup := hsplit ▸ hnd_others
  obtain ⟨hnd_r, hnd_l, hdisj⟩ := List.nodup_append.mp hnd
  have hrlen : rivals.length = ceiling e := by
    simp only [rivals, List.length_take, hlen]
    omega
  have hv_r : victim ∉ rivals := fun h => hvo (hsplit ▸ List.mem_append_left later h)
  have hv_l : victim ∉ later := fun h => hvo (hsplit ▸ List.mem_append_right rivals h)
  set c0 : Config n := start e ⟨.memory m, []⟩
  have hI0 : Inv e wf id m path p v c0 := Inv.start e wf id hP
  obtain ⟨hv1, hr1⟩ := run_rounds e wf id hP rivals c0 0 hI0 hnd_r hv_r (fun _ _ => rfl)
    (by simp [c0, FanIn.start, hrlen])
  set c1 := run e wf id (rivals.flatMap fun j => [victim, j, j, victim]) c0
  have hI1 : Inv e wf id m path p v c1 := hI0.run e wf id hP _
  set c2 := step e wf id c1 victim
  have hv2 : c2.callers victim = .done (.error (Phase.exhausted Invocation [wf, id] (ceiling e))) := by
    simp [c2, step_of_reading_zero e wf id hv1]
  have hI2 : Inv e wf id m path p v c2 := hI1.step e wf id hP victim
  have hread : ∀ j ∈ later, c2.callers j = .reading (ceiling e) := by
    intro j hj
    have hjv : j ≠ victim := fun h => hv_l (h ▸ hj)
    have hjr : j ∉ rivals := fun h => hdisj j h j hj rfl
    rw [step_callers_of_ne e wf id hjv, run_callers_of_not_mem e wf id _ c0 (by simp [hjr, hjv])]
    rfl
  have hl3 := run_pairs e wf id hP later c2 hI2 hnd_l hread
  refine ⟨(rivals.flatMap fun j => [victim, j, j, victim]) ++ [victim] ++
    later.flatMap fun j => [j, j], ?_, victim, ?_⟩
  · intro i
    rw [run_append, run_append, run_cons, run_nil]
    by_cases hiv : i = victim
    · subst hiv
      exact run_isDone e wf id _ (by rw [hv2]; rfl)
    · rcases List.mem_append.mp (hsplit ▸ hother i hiv) with hi | hi
      · exact run_isDone e wf id _ (run_isDone e wf id [victim] (hr1 i hi))
      · exact hl3 i hi
  · rw [run_append, run_append, run_cons, run_nil, answer,
      run_callers_of_done e wf id _ c2 hv2]
    rfl

end Starving

/-! ## Fan-in fires exactly once -/

/-- The callers after a schedule, from every caller about to read the parent stored in `m`. -/
def afterSchedule (m : MemoryStore) (sched : List (Fin n)) : Config n :=
  run e wf id sched (start e ⟨.memory m, []⟩)

/-- What `n` concurrent calls of `decrementParent` on a parent fanned out to `n` children do. -/
structure FiresOnce (e : Engine) (wf id : String) (m : MemoryStore) (p : Invocation) (n : Nat) :
    Prop where
  /-- Each caller is `decrementParent`, one store operation at a time. -/
  solo : ∀ w : World, ∃ o s,
    Phase.stepN (ceiling e) [wf, id] countDown (2 * ceiling e + 1) (.reading (ceiling e)) w.store =
      (.done o, s) ∧
    (e.decrementParent wf id).run w =
      ((answerOf o).mapError fun err => .error (.domain err), { w with store := s })
  /-- The count never changes, and the parent waits for `n` less the saves so far, which are at
  most `n`. -/
  stored : ∀ sched : List (Fin n), (afterSchedule e wf id m sched).saves.length ≤ n ∧
    ∃ ver, (EntityStore.load Invocation [wf, id]).run (afterSchedule e wf id m sched).store =
      (.ok ⟨{ p with fanOut := .fannedOut n (n - (afterSchedule e wf id m sched).saves.length) },
        some ver⟩, (afterSchedule e wf id m sched).store)
  /-- The saves so far are one for each caller that answered. -/
  saves : ∀ sched : List (Fin n), (afterSchedule e wf id m sched).saves.Nodup ∧
    ∀ i, (∃ b, answer (afterSchedule e wf id m sched) i = some (.ok b)) ↔
      i ∈ (afterSchedule e wf id m sched).saves
  /-- A caller answers `true` exactly when its save is the `n`-th. -/
  true_iff_last : ∀ (sched : List (Fin n)) i,
    answer (afterSchedule e wf id m sched) i = some (.ok true) ↔
      (afterSchedule e wf id m sched).saves[n - 1]? = some i
  /-- At most one caller answers `true`. -/
  true_unique : ∀ (sched : List (Fin n)) i j,
    answer (afterSchedule e wf id m sched) i = some (.ok true) →
      answer (afterSchedule e wf id m sched) j = some (.ok true) → i = j
  /-- Once a caller has failed, no caller answers `true`. -/
  no_true_after_failure : ∀ (sched : List (Fin n)) i err,
    answer (afterSchedule e wf id m sched) i = some (.error err) →
      ∀ j, answer (afterSchedule e wf id m sched) j ≠ some (.ok true)
  /-- Every interleaving can go on until every caller has finished. -/
  completable : ∀ sched : List (Fin n), ∃ more, Complete (afterSchedule e wf id m (sched ++ more))
  /-- Every finished interleaving has every call succeed and exactly one answer `true` if and
  only if the ceiling of attempts is at least `n`. -/
  enough_iff : n ≤ ceiling e ↔ ∀ sched : List (Fin n), Complete (afterSchedule e wf id m sched) →
    (∀ i, ∃ b, answer (afterSchedule e wf id m sched) i = some (.ok b)) ∧
      ∃! i, answer (afterSchedule e wf id m sched) i = some (.ok true)
  /-- Below `n` attempts some finished interleaving has a call out of attempts and no call
  answering `true`. -/
  starved : ceiling e < n → ∃ sched : List (Fin n), Complete (afterSchedule e wf id m sched) ∧
    (∃ i, answer (afterSchedule e wf id m sched) i =
      some (.error (Phase.exhausted Invocation [wf, id] (ceiling e)))) ∧
    ∀ i, answer (afterSchedule e wf id m sched) i ≠ some (.ok true)

/-- Fan-in fires exactly once: of `n` callers of `decrementParent` on a parent stored fanned out
to `n` children, in every interleaving of their reads and compare-and-swap saves, `waiting` is
`n` less the saves so far and the one caller whose save is the `n`-th answers `true`; and every
call succeeds in every interleaving exactly when the ceiling of attempts is at least `n`. -/
theorem decrementParent_fires_once {m : MemoryStore} {path : String} {p : Invocation} {v : Nat}
    (hP : StoredParent n wf id m path p v) : FiresOnce e wf id m p n := by
  have hI : ∀ sched : List (Fin n), Inv e wf id m path p v (afterSchedule e wf id m sched) :=
    fun sched => (Inv.start e wf id hP).run e wf id hP sched
  refine ⟨decrementParent_solo e wf id, fun sched => ⟨(hI sched).length_le, _, (hI sched).load e wf id hP⟩,
    fun sched => ⟨(hI sched).nodup, (hI sched).answered_iff e wf id⟩,
    fun sched => (hI sched).answer_true_iff e wf id,
    fun sched i j => (hI sched).true_unique e wf id,
    fun sched i err h => (hI sched).not_true_of_failed e wf id h,
    fun sched => ?_, ⟨fun hn sched hc => (hI sched).all_answer e wf id hP hc hn, fun hall => ?_⟩,
    fun hn => ?_⟩
  · obtain ⟨more, hmore⟩ := exists_complete e wf id (afterSchedule e wf id m sched)
    refine ⟨more, ?_⟩
    rw [afterSchedule, run_append]
    exact hmore
  · -- below `n` attempts the starving schedule has a failure, so not every call succeeds
    by_contra hn
    obtain ⟨sched, hc, i, hi⟩ := exists_starving_schedule e wf id hP (Nat.lt_of_not_le hn)
    obtain ⟨b, hb⟩ := (hall sched hc).1 i
    rw [afterSchedule, hi] at hb
    simp at hb
  · obtain ⟨sched, hc, i, hi⟩ := exists_starving_schedule e wf id hP hn
    exact ⟨sched, hc, ⟨i, hi⟩, fun j => (hI sched).not_true_of_failed e wf id hi j⟩

/-- Two callers on a parent stored at version 1 and fanned out to two children. -/
theorem decrementParent_fires_once_two_callers :
    StoredParent 2 "wf" "p"
        ⟨[("entities/invocation/wf/p", ⟨1, Entity.toText (⟨"wf", "p", none, "s", .map,
          .fannedOut 2 2, none, "2024-01-01T00:00:00Z"⟩ : Invocation)⟩)], 1, false, by decide⟩
        "entities/invocation/wf/p"
        ⟨"wf", "p", none, "s", .map, .fannedOut 2 2, none, "2024-01-01T00:00:00Z"⟩ 1 ∧
      FiresOnce {} "wf" "p"
        ⟨[("entities/invocation/wf/p", ⟨1, Entity.toText (⟨"wf", "p", none, "s", .map,
          .fannedOut 2 2, none, "2024-01-01T00:00:00Z"⟩ : Invocation)⟩)], 1, false, by decide⟩
        ⟨"wf", "p", none, "s", .map, .fannedOut 2 2, none, "2024-01-01T00:00:00Z"⟩ 2 :=
  have hP : StoredParent 2 "wf" "p"
      ⟨[("entities/invocation/wf/p", ⟨1, Entity.toText (⟨"wf", "p", none, "s", .map,
        .fannedOut 2 2, none, "2024-01-01T00:00:00Z"⟩ : Invocation)⟩)], 1, false, by decide⟩
      "entities/invocation/wf/p"
      ⟨"wf", "p", none, "s", .map, .fannedOut 2 2, none, "2024-01-01T00:00:00Z"⟩ 1 :=
    ⟨rfl, rfl, rfl, rfl, rfl, by decide, by decide, rfl, by decide, by decide⟩
  ⟨hP, decrementParent_fires_once {} "wf" "p" hP⟩

/-- At the ceiling of the revision counter a write takes the version already there, so a save
over a stale read still goes through. Two callers on a parent stored there, fanned out to two
children: both read the parent with two children waiting, then both save one child fewer. Both
saves go through and both calls answer `false`, and the parent is left with one child waiting. -/
theorem decrementParent_fires_never_at_revision_ceiling :
    let p : Invocation := ⟨"wf", "p", none, "s", .map, .fannedOut 2 2, none, "2024-01-01T00:00:00Z"⟩
    let m : MemoryStore := ⟨[("entities/invocation/wf/p", ⟨MemoryStore.revisionBound, Entity.toText p⟩)],
      MemoryStore.revisionBound, false, by decide⟩
    let c := afterSchedule (n := 2) {} "wf" "p" m [0, 1, 1, 0]
    Complete c ∧ c.saves = [1, 0] ∧ answer c 0 = some (.ok false) ∧ answer c 1 = some (.ok false) ∧
      (EntityStore.load Invocation ["wf", "p"]).run c.store =
        (.ok ⟨waiting p 2 1, some MemoryStore.revisionBound⟩, c.store) := by
  intro p m c
  have hk : (EntityStore.entityKey Invocation ["wf", "p"]).encode = .ok "entities/invocation/wf/p" := rfl
  have hts : Text.normalTimestamp "2024-01-01T00:00:00Z" = .ok "2024-01-01T00:00:00Z" := by decide
  have hdec : ∀ w ≤ 2, Kv.decodeAs Entity.decode (Entity.toText (waiting p 2 w)) = .ok (waiting p 2 w) :=
    fun w hw => Invocation.decodeAs_toText hts ⟨by decide, by omega⟩
  have hself : waiting p 2 2 = p := rfl
  have hload : (EntityStore.load Invocation ["wf", "p"]).run ⟨.memory m, []⟩ = _ :=
    EntityStore.load_memory hk rfl (hself ▸ hdec 2 (by omega))
  have hrec : (EntityStore.recordKey (waiting p 2 1)).encode = .ok "entities/invocation/wf/p" := by decide
  have hpre : Entity.presave (waiting p 2 1) = .ok (waiting p 2 1) := by decide
  have hm : m.revision = MemoryStore.revisionBound := rfl
  obtain ⟨-, hrev₁, hn₁⟩ := MemoryStore.write_at_ceiling hm "entities/invocation/wf/p" (Entity.toText (waiting p 2 1))
  have hsave₁ := EntityStore.save_current (m := m) (e := MemoryStore.revisionBound) hpre hrec rfl rfl
  obtain ⟨-, -, hn₂⟩ := MemoryStore.write_at_ceiling hrev₁ "entities/invocation/wf/p" (Entity.toText (waiting p 2 1))
  have hsave₂ := EntityStore.save_current (m := (m.write "entities/invocation/wf/p" (Entity.toText (waiting p 2 1))).2)
    (e := MemoryStore.revisionBound) hpre hrec hn₁ rfl
  have hcount : countDown p = .ok (waiting p 2 1, ()) := rfl
  have h₂ : afterSchedule (n := 2) {} "wf" "p" m [0, 1] =
      ⟨fun _ => .saving 4 (some MemoryStore.revisionBound) (waiting p 2 1) (), ⟨.memory m, []⟩, []⟩ := by
    simp only [afterSchedule, run_cons, run_nil]
    simp [step, start, Phase.step, hload, hcount, ceiling, Phase.succeeded]
    funext i
    fin_cases i <;> rfl
  have h₄ : c = ⟨fun _ => .done (.ok (⟨waiting p 2 1, some MemoryStore.revisionBound⟩, ())),
      ⟨.memory ((m.write "entities/invocation/wf/p" (Entity.toText (waiting p 2 1))).2.write
        "entities/invocation/wf/p" (Entity.toText (waiting p 2 1))).2, []⟩, [1, 0]⟩ := by
    have hsplit : c = run {} "wf" "p" [1, 0] (afterSchedule (n := 2) {} "wf" "p" m [0, 1]) :=
      run_append {} "wf" "p" [0, 1] [1, 0] _
    rw [hsplit, h₂]
    simp [step, Phase.step, hsave₁, hsave₂, Phase.succeeded]
    funext i
    fin_cases i <;> rfl
  have hload₂ : (EntityStore.load Invocation ["wf", "p"]).run ⟨.memory ((m.write "entities/invocation/wf/p"
      (Entity.toText (waiting p 2 1))).2.write "entities/invocation/wf/p" (Entity.toText (waiting p 2 1))).2, []⟩ = _ :=
    EntityStore.load_memory hk hn₂ (hdec 1 (by omega))
  rw [h₄]
  refine ⟨fun i => ?_, rfl, rfl, rfl, hload₂⟩
  simp [Phase.isDone]

end MapReduce.FanIn
