import MapReduce.Proofs.Data.Rearrange
import Mathlib

/-! # The small sort

The small sort sorts each half of a short slice by insertion and merges the two halves from both
ends at once: at each step one element is written at the front and one at the back, for half the
length, and one more at the front when the length is odd. The merge fails unless the two ends
meet exactly where each stopped taking elements.

For a strict weak order they always meet. A merge from either end takes the halves apart along a
cut: every taken left element is not greater than the right elements left, and every taken right
element is less than the left elements left. Cuts that take as many elements in all are the same
cut, so the front and the back agree on where the halves part, and the merge answers with the
stable merge of the halves. -/

namespace MapReduce.Driftsort

variable {α : Type} {lt : α → α → Bool} {P : α → Prop}

theorem getElem_mem_take {L : List α} {i n : Nat} (hi : i < n) (hl : i < L.length) :
    L[i] ∈ L.take n :=
  List.mem_take_iff_getElem.mpr ⟨i, Nat.lt_min.mpr ⟨hi, hl⟩, rfl⟩

theorem getElem_mem_drop {L : List α} {i : Nat} (hl : i < L.length) : L[i] ∈ L.drop i := by
  rw [List.drop_eq_getElem_cons hl]
  exact List.mem_cons_self

theorem take_succ_of_getElem? {L : List α} {i : Nat} {x : α} (h : L[i]? = some x) :
    L.take (i + 1) = L.take i ++ [x] := by
  rw [List.take_add_one, h]
  rfl

theorem drop_of_getElem? {L : List α} {i : Nat} {x : α} (h : L[i]? = some x) :
    L.drop i = x :: L.drop (i + 1) := by
  obtain ⟨hi, rfl⟩ := List.getElem?_eq_some_iff.mp h
  exact List.drop_eq_getElem_cons hi

/-! ## Cuts -/

/-- `a` elements of the left half and `b` of the right taken as a stable merge takes them: each
taken left element is not greater than any right element left, and each taken right element is
less than any left element left. -/
structure Cut (lt : α → α → Bool) (L R : List α) (a b : Nat) : Prop where
  left_le : ∀ x ∈ L.take a, ∀ y ∈ R.drop b, lt y x = false
  right_lt : ∀ y ∈ R.take b, ∀ x ∈ L.drop a, lt y x = true

namespace Cut

variable {L R : List α} {a b c d : Nat}

/-- Cuts are ordered: a cut that takes no more elements in all takes no more of either half. -/
theorem le_of_le (h₁ : Cut lt L R a b) (h₂ : Cut lt L R c d) (ha : a ≤ L.length)
    (hb : b ≤ R.length) (hc : c ≤ L.length) (hd : d ≤ R.length) (hsum : a + b ≤ c + d) :
    a ≤ c ∧ b ≤ d := by
  constructor
  · -- otherwise the first cut takes `L[c]` and leaves `R[b]`, which the second takes first
    by_contra hlt
    have hc' : c < L.length := by omega
    have hb' : b < R.length := by omega
    have h₁' := h₁.left_le L[c] (getElem_mem_take (by omega) hc') R[b] (getElem_mem_drop hb')
    have h₂' := h₂.right_lt R[b] (getElem_mem_take (by omega) hb') L[c] (getElem_mem_drop hc')
    rw [h₁'] at h₂'
    cases h₂'
  · by_contra hlt
    have hd' : d < R.length := by omega
    have ha' : a < L.length := by omega
    have h₁' := h₁.right_lt R[d] (getElem_mem_take (by omega) hd') L[a] (getElem_mem_drop ha')
    have h₂' := h₂.left_le L[a] (getElem_mem_take (by omega) ha') R[d] (getElem_mem_drop hd')
    rw [h₂'] at h₁'
    cases h₁'

end Cut

section Steps

/-! Each merge moves its cut by one element, and keeps what it has written sorted stably. -/

variable (hw : WeakOrder lt P) {L R : List α} (hP : ∀ x ∈ L ++ R, P x)
  (hL : L.Pairwise (fun a b => lt b a = false)) (hR : R.Pairwise (fun a b => lt b a = false))
include hw hP hL hR

variable {a b c d : Nat} {l r : α}

namespace Cut

omit hL in
/-- Taking the left element from the front, when the right one is not less. -/
theorem takeLeft (hcut : Cut lt L R a b) (hl : L[a]? = some l) (hr : R[b]? = some r)
    (hrl : lt r l = false) : Cut lt L R (a + 1) b := by
  have hPl := hP l (List.mem_append_left _ (List.mem_of_getElem? hl))
  have hPr := hP r (List.mem_append_right _ (List.mem_of_getElem? hr))
  refine ⟨fun x hx y hy => ?_, fun y hy x hx =>
    hcut.right_lt y hy x (List.drop_subset_drop_left L (Nat.le_succ a) hx)⟩
  rw [take_succ_of_getElem? hl] at hx
  rcases List.mem_append.mp hx with hx | hx
  · exact hcut.left_le x hx y hy
  · -- the taken element is not greater than `r`, which is not greater than what is left
    rw [List.mem_singleton.mp hx]
    have hPy := hP y (List.mem_append_right _ (List.mem_of_mem_drop hy))
    have hry : lt y r = false := by
      rw [drop_of_getElem? hr] at hy
      rcases List.mem_cons.mp hy with rfl | hy
      · exact hw.irrefl hPr
      · exact hR.rel_of_mem_take_of_mem_drop (by simp [take_succ_of_getElem? hr]) hy
    exact hw.le_trans hPl hPr hPy hrl hry

omit hR in
/-- Taking the right element from the front, when it is less than the left one. -/
theorem takeRight (hcut : Cut lt L R a b) (hl : L[a]? = some l) (hr : R[b]? = some r)
    (hrl : lt r l = true) : Cut lt L R a (b + 1) := by
  have hPl := hP l (List.mem_append_left _ (List.mem_of_getElem? hl))
  have hPr := hP r (List.mem_append_right _ (List.mem_of_getElem? hr))
  refine ⟨fun x hx y hy => hcut.left_le x hx y (List.drop_subset_drop_left R (Nat.le_succ b) hy),
    fun y hy x hx => ?_⟩
  rw [take_succ_of_getElem? hr] at hy
  rcases List.mem_append.mp hy with hy | hy
  · exact hcut.right_lt y hy x hx
  · -- the taken element is less than `l`, which is not greater than what is left
    rw [List.mem_singleton.mp hy]
    have hPx := hP x (List.mem_append_left _ (List.mem_of_mem_drop hx))
    rw [drop_of_getElem? hl] at hx
    rcases List.mem_cons.mp hx with rfl | hx
    · exact hrl
    · exact hw.lt_of_lt_of_le hPr hPl hPx hrl
        (hL.rel_of_mem_take_of_mem_drop (by simp [take_succ_of_getElem? hl]) hx)

omit hL in
/-- Leaving the left element behind from the back, when the right one is less. -/
theorem leaveLeft (hcut : Cut lt L R (c + 1) (d + 1)) (hl : L[c]? = some l) (hr : R[d]? = some r)
    (hrl : lt r l = true) : Cut lt L R c (d + 1) := by
  have hPl := hP l (List.mem_append_left _ (List.mem_of_getElem? hl))
  have hPr := hP r (List.mem_append_right _ (List.mem_of_getElem? hr))
  refine ⟨fun x hx y hy => hcut.left_le x (List.take_subset_take_left L (Nat.le_succ c) hx) y hy,
    fun y hy x hx => ?_⟩
  rw [drop_of_getElem? hl] at hx
  rcases List.mem_cons.mp hx with rfl | hx
  · -- what is left of the right half is not greater than `r`, which is less than `l`
    have hPy := hP y (List.mem_append_right _ (List.mem_of_mem_take hy))
    rw [take_succ_of_getElem? hr] at hy
    rcases List.mem_append.mp hy with hy | hy
    · exact hw.lt_of_le_of_lt hPy hPr hPl
        (hR.rel_of_mem_take_of_mem_drop hy (by simp [drop_of_getElem? hr])) hrl
    · rw [List.mem_singleton.mp hy]
      exact hrl
  · exact hcut.right_lt y hy x hx

omit hR in
/-- Leaving the right element behind from the back, when it is not less than the left one. -/
theorem leaveRight (hcut : Cut lt L R (c + 1) (d + 1)) (hl : L[c]? = some l) (hr : R[d]? = some r)
    (hrl : lt r l = false) : Cut lt L R (c + 1) d := by
  have hPl := hP l (List.mem_append_left _ (List.mem_of_getElem? hl))
  have hPr := hP r (List.mem_append_right _ (List.mem_of_getElem? hr))
  refine ⟨fun x hx y hy => ?_, fun y hy x hx =>
    hcut.right_lt y (List.take_subset_take_left R (Nat.le_succ d) hy) x hx⟩
  rw [drop_of_getElem? hr] at hy
  rcases List.mem_cons.mp hy with rfl | hy
  · -- what is left of the left half is not greater than `l`, which is not greater than `r`
    have hPx := hP x (List.mem_append_left _ (List.mem_of_mem_take hx))
    rw [take_succ_of_getElem? hl] at hx
    rcases List.mem_append.mp hx with hx | hx
    · exact hw.le_trans hPx hPl hPr
        (hL.rel_of_mem_take_of_mem_drop hx (by simp [drop_of_getElem? hl])) hrl
    · rw [List.mem_singleton.mp hx]
      exact hrl
  · exact hcut.left_le x hx y hy

/-- The halves merged along a cut: the stable merge of what the front took, then the stable
merge of what the back took. Every right element taken at the front is less than every left
element taken at the back, so the two blocks between them change places stably. -/
theorem sortOf_append {F B : List α} (hcut : Cut lt L R a b)
    (hF : SortOf lt P (L.take a ++ R.take b) F) (hB : SortOf lt P (L.drop a ++ R.drop b) B) :
    SortOf lt P (L ++ R) (F ++ B) := by
  have hswap : StablePerm lt P (R.take b ++ L.drop a) (L.drop a ++ R.take b) :=
    StablePerm.append_comm_of_lt hw (fun x hx => by
      rcases List.mem_append.mp hx with hx | hx
      · exact hP x (List.mem_append_right _ (List.mem_of_mem_take hx))
      · exact hP x (List.mem_append_left _ (List.mem_of_mem_drop hx))) hcut.right_lt
  have hsplit : StablePerm lt P (L ++ R) ((L.take a ++ R.take b) ++ (L.drop a ++ R.drop b)) := by
    have h := ((StablePerm.refl (L.take a)).append (hswap.symm.append (StablePerm.refl (R.drop b))))
    have hLR : L ++ R = L.take a ++ ((L.drop a ++ R.take b) ++ R.drop b) := calc
      L ++ R = (L.take a ++ L.drop a) ++ (R.take b ++ R.drop b) := by
        rw [List.take_append_drop, List.take_append_drop]
      _ = L.take a ++ ((L.drop a ++ R.take b) ++ R.drop b) := by simp only [List.append_assoc]
    rw [hLR]
    simpa only [List.append_assoc] using h
  refine ⟨hsplit.trans (hF.toStablePerm.append hB.toStablePerm),
    List.pairwise_append.mpr ⟨hF.sorted, hB.sorted, fun x hx y hy => ?_⟩⟩
  have hPx := hP x (by
    rcases List.mem_append.mp (hF.perm.subset hx) with hx | hx
    · exact List.mem_append_left _ (List.mem_of_mem_take hx)
    · exact List.mem_append_right _ (List.mem_of_mem_take hx))
  have hPy := hP y (by
    rcases List.mem_append.mp (hB.perm.subset hy) with hy | hy
    · exact List.mem_append_left _ (List.mem_of_mem_drop hy)
    · exact List.mem_append_right _ (List.mem_of_mem_drop hy))
  rcases List.mem_append.mp (hF.perm.subset hx) with hx | hx <;>
    rcases List.mem_append.mp (hB.perm.subset hy) with hy | hy
  · exact hL.rel_of_mem_take_of_mem_drop hx hy
  · exact hcut.left_le x hx y hy
  · exact hw.asymm hPx hPy (hcut.right_lt x hx y hy)
  · exact hR.rel_of_mem_take_of_mem_drop hx hy

end Cut

/-- What the merge from the front has written after taking `a` left and `b` right elements: a
cut, and the stable merge of the elements it took. -/
structure Front (lt : α → α → Bool) (P : α → Prop) (L R : List α) (a b : Nat) (F : List α) :
    Prop where
  cut : Cut lt L R a b
  sortOf : SortOf lt P (L.take a ++ R.take b) F

/-- What the merge from the back has written when `c` left and `d` right elements are left: a
cut, and the stable merge of the elements it took. -/
structure Back (lt : α → α → Bool) (P : α → Prop) (L R : List α) (c d : Nat) (B : List α) :
    Prop where
  cut : Cut lt L R c d
  sortOf : SortOf lt P (L.drop c ++ R.drop d) B

variable {F B : List α}

omit hR in
/-- The front writes the left element after what it has written: it is not less than any of
it, and passes only right elements less than it. -/
theorem Front.pushLeft (h : Front lt P L R a b F) (hl : L[a]? = some l)
    (hcut : Cut lt L R (a + 1) b) : Front lt P L R (a + 1) b (F ++ [l]) := by
  have hPl := hP l (List.mem_append_left _ (List.mem_of_getElem? hl))
  have hla : l ∈ L.drop a := by simp [drop_of_getElem? hl]
  have hswap : StablePerm lt P (R.take b ++ [l]) ([l] ++ R.take b) :=
    StablePerm.append_comm_of_lt hw (fun x hx => by
      rcases List.mem_append.mp hx with hx | hx
      · exact hP x (List.mem_append_right _ (List.mem_of_mem_take hx))
      · rw [List.mem_singleton.mp hx]
        exact hPl) (fun y hy x hx => by
      rw [List.mem_singleton.mp hx]
      exact h.cut.right_lt y hy l hla)
  have hperm : StablePerm lt P (L.take (a + 1) ++ R.take b) (F ++ [l]) := by
    have h₁ : StablePerm lt P (L.take a ++ ([l] ++ R.take b)) (L.take a ++ (R.take b ++ [l])) :=
      (StablePerm.refl _).append hswap.symm
    have h₂ : StablePerm lt P ((L.take a ++ R.take b) ++ [l]) (F ++ [l]) :=
      h.sortOf.toStablePerm.append (StablePerm.refl _)
    rw [take_succ_of_getElem? hl, List.append_assoc]
    rw [List.append_assoc] at h₂
    exact h₁.trans h₂
  refine ⟨hcut, hperm, List.pairwise_append.mpr ⟨h.sortOf.sorted, List.pairwise_singleton _ _,
    fun x hx y hy => ?_⟩⟩
  rw [List.mem_singleton.mp hy]
  rcases List.mem_append.mp (h.sortOf.perm.subset hx) with hx | hx
  · exact hL.rel_of_mem_take_of_mem_drop hx hla
  · exact hw.asymm (hP x (List.mem_append_right _ (List.mem_of_mem_take hx))) hPl
      (h.cut.right_lt x hx l hla)

omit hw hP hL in
/-- The front writes the right element after what it has written, which it is not less than. -/
theorem Front.pushRight (h : Front lt P L R a b F) (hr : R[b]? = some r)
    (hcut : Cut lt L R a (b + 1)) : Front lt P L R a (b + 1) (F ++ [r]) := by
  have hrb : r ∈ R.drop b := by simp [drop_of_getElem? hr]
  have hperm : StablePerm lt P (L.take a ++ R.take (b + 1)) (F ++ [r]) := by
    rw [take_succ_of_getElem? hr, ← List.append_assoc]
    exact h.sortOf.toStablePerm.append (StablePerm.refl _)
  refine ⟨hcut, hperm, List.pairwise_append.mpr ⟨h.sortOf.sorted, List.pairwise_singleton _ _,
    fun x hx y hy => ?_⟩⟩
  rw [List.mem_singleton.mp hy]
  rcases List.mem_append.mp (h.sortOf.perm.subset hx) with hx | hx
  · exact h.cut.left_le x hx r hrb
  · exact hR.rel_of_mem_take_of_mem_drop hx hrb

omit hw hP hR in
/-- The back writes the left element before what it has written, which is not less than it. -/
theorem Back.pushLeft (h : Back lt P L R (c + 1) d B) (hl : L[c]? = some l)
    (hcut : Cut lt L R c d) : Back lt P L R c d (l :: B) := by
  have hlc : l ∈ L.take (c + 1) := by simp [take_succ_of_getElem? hl]
  have hperm : StablePerm lt P (L.drop c ++ R.drop d) (l :: B) := by
    rw [drop_of_getElem? hl, List.cons_append]
    exact (StablePerm.refl [l]).append h.sortOf.toStablePerm
  refine ⟨hcut, hperm, List.pairwise_cons.mpr ⟨fun x hx => ?_, h.sortOf.sorted⟩⟩
  rcases List.mem_append.mp (h.sortOf.perm.subset hx) with hx | hx
  · exact hL.rel_of_mem_take_of_mem_drop hlc hx
  · exact h.cut.left_le l hlc x hx

omit hL in
/-- The back writes the right element before what it has written: it is not greater than any
of it, and passes only left elements greater than it. -/
theorem Back.pushRight (h : Back lt P L R c (d + 1) B) (hr : R[d]? = some r)
    (hcut : Cut lt L R c d) : Back lt P L R c d (r :: B) := by
  have hPr := hP r (List.mem_append_right _ (List.mem_of_getElem? hr))
  have hrd : r ∈ R.take (d + 1) := by simp [take_succ_of_getElem? hr]
  have hswap : StablePerm lt P ([r] ++ L.drop c) (L.drop c ++ [r]) :=
    StablePerm.append_comm_of_lt hw (fun x hx => by
      rcases List.mem_append.mp hx with hx | hx
      · rw [List.mem_singleton.mp hx]
        exact hPr
      · exact hP x (List.mem_append_left _ (List.mem_of_mem_drop hx))) (fun y hy x hx => by
      rw [List.mem_singleton.mp hy]
      exact h.cut.right_lt r hrd x hx)
  have hperm : StablePerm lt P (L.drop c ++ R.drop d) (r :: B) := by
    have h₁ := hswap.symm.append (StablePerm.refl (R.drop (d + 1)))
    have h₂ : StablePerm lt P (r :: (L.drop c ++ R.drop (d + 1))) (r :: B) :=
      (StablePerm.refl [r]).append h.sortOf.toStablePerm
    rw [drop_of_getElem? hr, ← List.singleton_append, ← List.append_assoc]
    exact h₁.trans h₂
  refine ⟨hcut, hperm, List.pairwise_cons.mpr ⟨fun x hx => ?_, h.sortOf.sorted⟩⟩
  rcases List.mem_append.mp (h.sortOf.perm.subset hx) with hx | hx
  · exact hw.asymm hPr (hP x (List.mem_append_left _ (List.mem_of_mem_drop hx)))
      (h.cut.right_lt r hrd x hx)
  · exact hR.rel_of_mem_take_of_mem_drop hrd hx

end Steps

/-! ## Meeting in the middle -/

namespace Meeting

variable {l r : α} {m : Meeting α}

/-- The element a step writes at the front: the left one unless the right one is less. -/
def takeFront (lt : α → α → Bool) (l r : α) (m : Meeting α) : Meeting α :=
  if !lt r l then { m with left := m.left + 1, front := l :: m.front }
  else { m with right := m.right + 1, front := r :: m.front }

/-- The element a step writes at the back: the left one when the right one is less. -/
def takeBack (lt : α → α → Bool) (l r : α) (m : Meeting α) : Meeting α :=
  if lt r l then { m with leftRev := m.leftRev - 1, back := l :: m.back }
  else { m with rightRev := m.rightRev - 1, back := r :: m.back }

theorem takeFront_of_le (h : lt r l = false) :
    m.takeFront lt l r = { m with left := m.left + 1, front := l :: m.front } := by
  simp [takeFront, h]

theorem takeFront_of_lt (h : lt r l = true) :
    m.takeFront lt l r = { m with right := m.right + 1, front := r :: m.front } := by
  simp [takeFront, h]

theorem takeBack_of_lt (h : lt r l = true) :
    m.takeBack lt l r = { m with leftRev := m.leftRev - 1, back := l :: m.back } := by
  simp [takeBack, h]

theorem takeBack_of_le (h : lt r l = false) :
    m.takeBack lt l r = { m with rightRev := m.rightRev - 1, back := r :: m.back } := by
  simp [takeBack, h]

@[simp] theorem takeFront_leftRev : (m.takeFront lt l r).leftRev = m.leftRev := by
  unfold takeFront
  split <;> rfl

@[simp] theorem takeFront_rightRev : (m.takeFront lt l r).rightRev = m.rightRev := by
  unfold takeFront
  split <;> rfl

@[simp] theorem takeFront_back : (m.takeFront lt l r).back = m.back := by
  unfold takeFront
  split <;> rfl

@[simp] theorem takeBack_left : (m.takeBack lt l r).left = m.left := by
  unfold takeBack
  split <;> rfl

@[simp] theorem takeBack_right : (m.takeBack lt l r).right = m.right := by
  unfold takeBack
  split <;> rfl

@[simp] theorem takeBack_front : (m.takeBack lt l r).front = m.front := by
  unfold takeBack
  split <;> rfl

end Meeting

theorem at?_natCast (v : Array α) (i : Nat) : at? v (i : Int) = v[i]? := by
  simp [at?]

/-- A step reads the next element of each half from the front and from the back, and writes one
element at each end. -/
theorem meetStep_eq {s : Array α} {m : Meeting α} {l r l' r' : α}
    (hl : s[m.left]? = some l) (hr : s[m.right]? = some r)
    (hl' : at? s m.leftRev = some l') (hr' : at? s m.rightRev = some r') :
    meetStep lt s m = some ((m.takeFront lt l r).takeBack lt l' r') := by
  simp only [meetStep, hl, hr, Option.bind_eq_bind, Option.bind_some]
  cases hrl : lt r l <;> simp [Meeting.takeFront, Meeting.takeBack, hrl, hl', hr']

/-- The merge from both ends after `i` steps of each, on an array made of the halves `L` and
`R`: the front has taken `a` left and `b` right elements, the back has left `c` and `d`. -/
structure Meets (lt : α → α → Bool) (P : α → Prop) (L R : List α) (i : Nat) (m : Meeting α) :
    Prop where
  front : ∃ a b, a + b = i ∧ m.left = a ∧ m.right = L.length + b ∧
    Front lt P L R a b m.front.reverse
  back : ∃ c d, c + d + i = L.length + R.length ∧ c ≤ L.length ∧ d ≤ R.length ∧
    m.leftRev + 1 = c ∧ m.rightRev + 1 = ((L.length + d : Nat) : Int) ∧ Back lt P L R c d m.back

/-- Before any step nothing is written: the front stands at the start of both halves and the
back at their ends. -/
theorem Meets.start (L R : List α) :
    Meets lt P L R 0 (⟨0, L.length, (L.length : Int) - 1, ((L.length + R.length : Nat) : Int) - 1,
      [], []⟩ : Meeting α) where
  front := ⟨0, 0, rfl, rfl, by simp, ⟨⟨by simp, by simp⟩, ⟨StablePerm.refl [], by simp⟩⟩⟩
  back := ⟨L.length, R.length, by simp, le_rfl, le_rfl, by simp, by push_cast; omega,
    ⟨⟨by simp, by simp⟩, by simpa using (⟨StablePerm.refl [], List.Pairwise.nil⟩ : SortOf lt P [] [])⟩⟩

section Meeting

variable (hw : WeakOrder lt P) {L R : List α} (hP : ∀ x ∈ L ++ R, P x)
  (hL : L.Pairwise (fun a b => lt b a = false)) (hR : R.Pairwise (fun a b => lt b a = false))
  {s : Array α} (hs : s.toList = L ++ R) (hLR : L.length ≤ R.length)
include hw hP hL hR hs hLR

/-- Before half the length, neither merge has run out of either half: the step reads four
elements and moves both cuts. -/
theorem Meets.step {i : Nat} {m : Meeting α} (hm : Meets lt P L R i m) (hi : i < L.length) :
    ∃ m', meetStep lt s m = some m' ∧ Meets lt P L R (i + 1) m' := by
  obtain ⟨a, b, hab, hleft, hright, hF⟩ := hm.front
  obtain ⟨c, d, hcd, hc, hd, hlr, hrr, hB⟩ := hm.back
  obtain ⟨c, rfl⟩ : ∃ c', c = c' + 1 := ⟨c - 1, by omega⟩
  obtain ⟨d, rfl⟩ : ∃ d', d = d' + 1 := ⟨d - 1, by omega⟩
  obtain ⟨l, hl⟩ : ∃ l, L[a]? = some l := ⟨_, List.getElem?_eq_getElem (by omega)⟩
  obtain ⟨r, hr⟩ : ∃ r, R[b]? = some r := ⟨_, List.getElem?_eq_getElem (by omega)⟩
  obtain ⟨l', hl'⟩ : ∃ l', L[c]? = some l' := ⟨_, List.getElem?_eq_getElem (by omega)⟩
  obtain ⟨r', hr'⟩ : ∃ r', R[d]? = some r' := ⟨_, List.getElem?_eq_getElem (by omega)⟩
  have hsl : s[m.left]? = some l := by
    rw [hleft, ← Array.getElem?_toList, hs, List.getElem?_append_left (by omega), hl]
  have hsr : s[m.right]? = some r := by
    rw [hright, ← Array.getElem?_toList, hs, List.getElem?_append_right (by omega),
      Nat.add_sub_cancel_left, hr]
  have hsl' : at? s m.leftRev = some l' := by
    rw [show m.leftRev = (c : Int) by omega, at?_natCast, ← Array.getElem?_toList, hs,
      List.getElem?_append_left (by omega), hl']
  have hsr' : at? s m.rightRev = some r' := by
    rw [show m.rightRev = ((L.length + d : Nat) : Int) by push_cast at hrr ⊢; omega, at?_natCast,
      ← Array.getElem?_toList, hs, List.getElem?_append_right (by omega), Nat.add_sub_cancel_left,
      hr']
  refine ⟨_, meetStep_eq hsl hsr hsl' hsr', ⟨?_, ?_⟩⟩
  · -- the front writes the lesser of the next two, the left one on a tie
    cases hrl : lt r l
    · refine ⟨a + 1, b, by omega, ?_, ?_, ?_⟩ <;>
        simp only [Meeting.takeBack_left, Meeting.takeBack_right, Meeting.takeBack_front,
          Meeting.takeFront_of_le hrl, hleft, hright, List.reverse_cons]
      exact hF.pushLeft hw hP hL hl (hF.cut.takeLeft hw hP hR hl hr hrl)
    · refine ⟨a, b + 1, by omega, ?_, ?_, ?_⟩ <;>
        simp only [Meeting.takeBack_left, Meeting.takeBack_right, Meeting.takeBack_front,
          Meeting.takeFront_of_lt hrl, hleft, hright, List.reverse_cons]
      · omega
      · exact hF.pushRight hR hr (hF.cut.takeRight hw hP hL hl hr hrl)
  · -- the back writes the greater of the last two, the right one on a tie
    cases hrl : lt r' l'
    · refine ⟨c + 1, d, by omega, by omega, by omega, ?_, ?_, ?_⟩ <;>
        simp only [Meeting.takeFront_leftRev, Meeting.takeFront_rightRev, Meeting.takeFront_back,
          Meeting.takeBack_of_le hrl]
      · omega
      · push_cast at hrr ⊢
        omega
      · exact hB.pushRight hw hP hR hr' (hB.cut.leaveRight hw hP hL hl' hr' hrl)
    · refine ⟨c, d + 1, by omega, by omega, by omega, ?_, ?_, ?_⟩ <;>
        simp only [Meeting.takeFront_leftRev, Meeting.takeFront_rightRev, Meeting.takeFront_back,
          Meeting.takeBack_of_lt hrl]
      · omega
      · exact hrr
      · exact hB.pushLeft hL hl' (hB.cut.leaveLeft hw hP hR hl' hr' hrl)

/-- Half the length of steps from a start that has taken nothing. -/
theorem meets_fold (start : Meeting α) (hstart : Meets lt P L R 0 start) (k : Nat)
    (hk : k ≤ L.length) :
    ∃ m, (List.range k).foldlM (fun m _ => meetStep lt s m) start = some m ∧
      Meets lt P L R k m := by
  induction k with
  | zero => exact ⟨start, rfl, hstart⟩
  | succ k ih =>
    obtain ⟨m, hfold, hm⟩ := ih (by omega)
    obtain ⟨m', hstep, hm'⟩ := hm.step hw hP hL hR hs hLR (by omega)
    refine ⟨m', ?_, hm'⟩
    rw [List.range_succ, List.foldlM_append, hfold]
    simp [hstep]

end Meeting

/-! ## The merge and the small sort -/

/-- The merge from both ends of two sorted halves answers, with the halves merged stably. After
half the length of steps the front and the back have taken as many elements as there are, so
their cuts are one cut; for an odd length the front takes the one element the back left. -/
theorem bidirectionalMerge_sortOf (hw : WeakOrder lt P) {s : Array α} (hP : ∀ x ∈ s.toList, P x)
    (hL : (s.toList.take (s.size / 2)).Pairwise (fun a b => lt b a = false))
    (hR : (s.toList.drop (s.size / 2)).Pairwise (fun a b => lt b a = false)) :
    ∃ w, bidirectionalMerge lt s = some w ∧ SortOf lt P s.toList w.toList := by
  generalize hLdef : s.toList.take (s.size / 2) = L at hL
  generalize hRdef : s.toList.drop (s.size / 2) = R at hR
  have hs : s.toList = L ++ R := by rw [← hLdef, ← hRdef, List.take_append_drop]
  have hLlen : L.length = s.size / 2 := by
    rw [← hLdef, List.length_take, Array.length_toList]
    omega
  have hRlen : R.length = s.size - s.size / 2 := by
    rw [← hRdef, List.length_drop, Array.length_toList]
  have hP' : ∀ x ∈ L ++ R, P x := hs ▸ hP
  have hstart : Meets lt P L R 0
      (⟨0, s.size / 2, ((s.size / 2 : Nat) : Int) - 1, (s.size : Int) - 1, [], []⟩ : Meeting α) := by
    rw [← hLlen, show (s.size : Int) = ((L.length + R.length : Nat) : Int) by push_cast; omega]
    exact Meets.start L R
  obtain ⟨m, hfold, hm⟩ := meets_fold hw hP' hL hR hs (by omega) _ hstart (s.size / 2) (by omega)
  obtain ⟨a, b, hab, hleft, hright, hF⟩ := hm.front
  obtain ⟨c, d, hcd, hc, hd, hlr, hrr, hB⟩ := hm.back
  unfold bidirectionalMerge
  simp only [hfold, Option.bind_eq_bind, Option.bind_some]
  push_cast at hrr
  by_cases hodd : s.size % 2 = 0
  · -- an even length: both merges stop at one cut
    obtain ⟨hac, hbd⟩ := hF.cut.le_of_le hB.cut (by omega) (by omega) hc hd (by omega)
    obtain ⟨hca, hdb⟩ := hB.cut.le_of_le hF.cut hc hd (by omega) (by omega) (by omega)
    obtain rfl : c = a := by omega
    obtain rfl : d = b := by omega
    have heven : (s.size % 2 != 0) = false := by simp [hodd]
    have hcheck : (decide ((m.left : Int) = m.leftRev + 1) &&
        decide ((m.right : Int) = m.rightRev + 1)) = true := by
      simp only [Bool.and_eq_true, decide_eq_true_eq]
      omega
    refine ⟨_, by rw [if_neg (by simp [heven]), if_pos hcheck], ?_⟩
    simpa [hs] using Cut.sortOf_append hw hP' hL hR hF.cut hF.sortOf hB.sortOf
  · -- an odd length: the front takes the one element the back has left
    have hodd' : (s.size % 2 != 0) = true := by simpa using hodd
    obtain ⟨hac, hbd⟩ := hF.cut.le_of_le hB.cut (by omega) (by omega) hc hd (by omega)
    by_cases hlt : a < c
    · obtain rfl : c = a + 1 := by omega
      obtain rfl : d = b := by omega
      obtain ⟨l, hl⟩ : ∃ l, L[a]? = some l := ⟨_, List.getElem?_eq_getElem (by omega)⟩
      have hsl : s[m.left]? = some l := by
        rw [hleft, ← Array.getElem?_toList, hs, List.getElem?_append_left (by omega), hl]
      have hcheck : (decide (((m.left + 1 : Nat) : Int) = m.leftRev + 1) &&
          decide ((m.right : Int) = m.rightRev + 1)) = true := by
        simp only [Bool.and_eq_true, decide_eq_true_eq]
        push_cast
        omega
      refine ⟨_, by rw [if_pos hodd', if_pos (by omega), hsl, Option.bind_some, if_pos hcheck], ?_⟩
      have hF' := hF.pushLeft hw hP' hL hl hB.cut
      simpa [hs] using Cut.sortOf_append hw hP' hL hR hB.cut hF'.sortOf hB.sortOf
    · obtain rfl : c = a := by omega
      obtain rfl : d = b + 1 := by omega
      obtain ⟨r, hr⟩ : ∃ r, R[b]? = some r := ⟨_, List.getElem?_eq_getElem (by omega)⟩
      have hsr : s[m.right]? = some r := by
        rw [hright, ← Array.getElem?_toList, hs, List.getElem?_append_right (by omega),
          Nat.add_sub_cancel_left, hr]
      have hcheck : (decide ((m.left : Int) = m.leftRev + 1) &&
          decide (((m.right + 1 : Nat) : Int) = m.rightRev + 1)) = true := by
        simp only [Bool.and_eq_true, decide_eq_true_eq]
        push_cast
        omega
      refine ⟨_, by rw [if_pos hodd', if_neg (by omega), hsr, Option.bind_some, if_pos hcheck], ?_⟩
      have hF' := hF.pushRight hR hr hB.cut
      simpa [hs] using Cut.sortOf_append hw hP' hL hR hB.cut hF'.sortOf hB.sortOf

/-- The small sort sorts stably: it merges the two halves, each sorted by insertion. -/
theorem smallSort_sorts (hw : WeakOrder lt P) : Sorts lt P (smallSort lt) := by
  intro v hP
  unfold smallSort
  by_cases hn : v.size < 2
  · exact ⟨v, if_pos hn, SortOf.of_length_le_one (by simp; omega)⟩
  rw [if_neg hn]
  have hA : SortOf lt P (v.toList.take (v.size / 2))
      (sortHalf lt (decide (v.size ≥ 8)) (v.toList.take (v.size / 2))) :=
    sortHalf_sortOf hw _ fun x hx => hP x (List.mem_of_mem_take hx)
  have hB : SortOf lt P (v.toList.drop (v.size / 2))
      (sortHalf lt (decide (v.size ≥ 8)) (v.toList.drop (v.size / 2))) :=
    sortHalf_sortOf hw _ fun x hx => hP x (List.mem_of_mem_drop hx)
  have hlenA : (sortHalf lt (decide (v.size ≥ 8)) (v.toList.take (v.size / 2))).length =
      v.size / 2 := by
    rw [hA.length_eq, List.length_take, Array.length_toList]
    omega
  have hhalves : StablePerm lt P v.toList
      (sortHalf lt (decide (v.size ≥ 8)) (v.toList.take (v.size / 2)) ++
        sortHalf lt (decide (v.size ≥ 8)) (v.toList.drop (v.size / 2))) := by
    have h := hA.toStablePerm.append hB.toStablePerm
    rwa [List.take_append_drop] at h
  have hsize : (sortHalf lt (decide (v.size ≥ 8)) (v.toList.take (v.size / 2)) ++
      sortHalf lt (decide (v.size ≥ 8)) (v.toList.drop (v.size / 2))).toArray.size = v.size := by
    simpa using hhalves.length_eq
  obtain ⟨w, hw', hsort⟩ := bidirectionalMerge_sortOf hw (s := (sortHalf lt (decide (v.size ≥ 8))
      (v.toList.take (v.size / 2)) ++ sortHalf lt (decide (v.size ≥ 8)) (v.toList.drop (v.size / 2))).toArray)
    (fun x hx => hP x (hhalves.perm.subset (by simpa using hx)))
    (by rw [hsize]; simpa [List.take_left' hlenA] using hA.sorted)
    (by rw [hsize]; simpa [List.drop_left' hlenA] using hB.sorted)
  exact ⟨w, hw', SortOf.of_stablePerm hhalves (by simpa using hsort)⟩

end MapReduce.Driftsort
