import MapReduce.Data.Driftsort
import Mathlib

/-! # Stable rearrangements

The sort compares with a "less than" `lt` and is stable: elements that compare equal keep the
order they came in. That holds when `lt` is a strict weak order on the elements sorted, which need
not hold of every element of their type (the engine's key order is one on exact keys only), so
the laws here are about the elements a predicate `P` holds of and an `lt` that is a strict weak
order on them.

A rearrangement is stable when it keeps, for every element `k`, the subsequence of the elements
equal to `k`. A stable sort of a list is a sorted stable rearrangement of it, and there is only
one. The pieces the sort is built from are stable rearrangements: insertion, the merges from the
front and from the back, the reversal of a strictly descending run, a partition around a pivot,
and the network that sorts four elements. -/

namespace MapReduce.Driftsort

variable {α : Type} {lt : α → α → Bool} {P : α → Prop}

/-- `lt` is a strict weak order on the elements `P` holds of: no two of them are each less than
the other, and "not less" is transitive among them. -/
structure WeakOrder (lt : α → α → Bool) (P : α → Prop) : Prop where
  asymm : ∀ {a b}, P a → P b → lt a b = true → lt b a = false
  le_trans : ∀ {a b c}, P a → P b → P c → lt b a = false → lt c b = false → lt c a = false

/-- `y` is equal to `k`: neither is less than the other. -/
def same (lt : α → α → Bool) (k y : α) : Bool := !lt y k && !lt k y

theorem same_comm (k y : α) : same lt k y = same lt y k := Bool.and_comm _ _

theorem same_of_lt {k y : α} (h : lt k y = true) : same lt k y = false := by
  simp [same, h]

theorem same_flip (k : α) : same (fun a b => lt b a) k = same lt k := by
  funext y
  exact Bool.and_comm _ _

namespace WeakOrder

variable {a b c : α}

theorem irrefl (hw : WeakOrder lt P) (ha : P a) : lt a a = false := by
  cases h : lt a a
  · rfl
  · have h' := hw.asymm ha ha h
    rw [h] at h'
    exact h'

theorem lt_of_lt_of_le (hw : WeakOrder lt P) (ha : P a) (hb : P b) (hc : P c)
    (hab : lt a b = true) (hbc : lt c b = false) : lt a c = true := by
  cases hac : lt a c
  · rw [hw.le_trans hb hc ha hbc hac] at hab
    cases hab
  · rfl

theorem lt_of_le_of_lt (hw : WeakOrder lt P) (ha : P a) (hb : P b) (hc : P c)
    (hab : lt b a = false) (hbc : lt b c = true) : lt a c = true := by
  cases hac : lt a c
  · rw [hw.le_trans hc ha hb hac hab] at hbc
    cases hbc
  · rfl

theorem lt_trans (hw : WeakOrder lt P) (ha : P a) (hb : P b) (hc : P c)
    (hab : lt a b = true) (hbc : lt b c = true) : lt a c = true :=
  hw.lt_of_lt_of_le ha hb hc hab (hw.asymm hb hc hbc)

theorem same_self (hw : WeakOrder lt P) (ha : P a) : same lt a a = true := by
  simp [same, hw.irrefl ha]

theorem same_trans (hw : WeakOrder lt P) (ha : P a) (hb : P b) (hc : P c)
    (hab : same lt a b = true) (hbc : same lt b c = true) : same lt a c = true := by
  simp only [same, Bool.and_eq_true, Bool.not_eq_true'] at hab hbc ⊢
  exact ⟨hw.le_trans ha hb hc hab.1 hbc.1, hw.le_trans hc hb ha hbc.2 hab.2⟩

/-- The reversed order is a strict weak order on the same elements. -/
theorem flip (hw : WeakOrder lt P) : WeakOrder (fun a b => lt b a) P where
  asymm ha hb h := hw.asymm hb ha h
  le_trans ha hb hc hab hbc := hw.le_trans hc hb ha hbc hab

end WeakOrder

/-! ## Stable rearrangements and stable sorts -/

/-- `ys` is `xs` rearranged stably: a permutation of it that keeps, for each element `k`, the
order of the elements equal to `k`. -/
structure StablePerm (lt : α → α → Bool) (P : α → Prop) (xs ys : List α) : Prop where
  perm : ys.Perm xs
  filter_eq : ∀ k, P k → ys.filter (same lt k) = xs.filter (same lt k)

/-- `ys` is `xs` sorted stably. -/
structure SortOf (lt : α → α → Bool) (P : α → Prop) (xs ys : List α) : Prop
    extends StablePerm lt P xs ys where
  sorted : ys.Pairwise (fun a b => lt b a = false)

/-- `sort` sorts stably every array of elements that `P` holds of. -/
def Sorts (lt : α → α → Bool) (P : α → Prop) (sort : Array α → Option (Array α)) : Prop :=
  ∀ v : Array α, (∀ x ∈ v.toList, P x) → ∃ w, sort v = some w ∧ SortOf lt P v.toList w.toList

namespace StablePerm

variable {xs ys zs xs' ys' : List α}

theorem refl (xs : List α) : StablePerm lt P xs xs := ⟨List.Perm.refl _, fun _ _ => rfl⟩

theorem symm (h : StablePerm lt P xs ys) : StablePerm lt P ys xs :=
  ⟨h.perm.symm, fun k hk => (h.filter_eq k hk).symm⟩

theorem trans (h₁ : StablePerm lt P xs ys) (h₂ : StablePerm lt P ys zs) : StablePerm lt P xs zs :=
  ⟨h₂.perm.trans h₁.perm, fun k hk => (h₂.filter_eq k hk).trans (h₁.filter_eq k hk)⟩

theorem append (h₁ : StablePerm lt P xs ys) (h₂ : StablePerm lt P xs' ys') :
    StablePerm lt P (xs ++ xs') (ys ++ ys') := by
  refine ⟨h₁.perm.append h₂.perm, fun k hk => ?_⟩
  rw [List.filter_append, List.filter_append, h₁.filter_eq k hk, h₂.filter_eq k hk]

theorem reverse (h : StablePerm lt P xs ys) : StablePerm lt P xs.reverse ys.reverse := by
  refine ⟨(List.reverse_perm ys).trans (h.perm.trans (List.reverse_perm xs).symm), fun k hk => ?_⟩
  rw [List.filter_reverse, List.filter_reverse, h.filter_eq k hk]

theorem length_eq (h : StablePerm lt P xs ys) : ys.length = xs.length := h.perm.length_eq

theorem forall_mem (h : StablePerm lt P xs ys) (hP : ∀ x ∈ xs, P x) : ∀ x ∈ ys, P x :=
  fun x hx => hP x (h.perm.subset hx)

/-- Two blocks change places stably when every element of the first is less than every element
of the second: no class has elements in both. -/
theorem append_comm_of_lt (hw : WeakOrder lt P) (hP : ∀ x ∈ xs ++ ys, P x)
    (hlt : ∀ a ∈ xs, ∀ b ∈ ys, lt a b = true) : StablePerm lt P (xs ++ ys) (ys ++ xs) := by
  refine ⟨List.perm_append_comm, fun k hk => ?_⟩
  by_cases hx : xs.filter (same lt k) = []
  · simp [List.filter_append, hx]
  · have hy : ys.filter (same lt k) = [] := by
      obtain ⟨a, ha⟩ := List.exists_mem_of_ne_nil _ hx
      rw [List.mem_filter] at ha
      refine List.filter_eq_nil_iff.mpr fun b hb hkb => ?_
      have hPa := hP a (List.mem_append_left _ ha.1)
      have hPb := hP b (List.mem_append_right _ hb)
      have hab := hw.same_trans hPa hk hPb (by rw [same_comm]; exact ha.2) hkb
      rw [same_of_lt (hlt a ha.1 b hb)] at hab
      cases hab
    simp [List.filter_append, hy]

/-- Splitting a list into the elements a test keeps and the others is stable when every kept
element is less than every other one. -/
theorem filter_append_filter (hw : WeakOrder lt P) (hP : ∀ x ∈ xs, P x) (q : α → Bool)
    (hq : ∀ a ∈ xs, ∀ b ∈ xs, q a = true → q b = false → lt a b = true) :
    StablePerm lt P xs (xs.filter q ++ xs.filter fun x => !q x) := by
  refine ⟨List.filter_append_perm q xs, fun k hk => ?_⟩
  rw [List.filter_append, List.filter_filter, List.filter_filter]
  -- within one class the test gives one answer, since kept and other elements differ
  by_cases hkept : ∃ a ∈ xs, same lt k a = true ∧ q a = true
  · obtain ⟨a, ha, hka, hqa⟩ := hkept
    have hall : ∀ b ∈ xs, same lt k b = true → q b = true := by
      intro b hb hkb
      cases hqb : q b
      · have hab := hw.same_trans (hP a ha) hk (hP b hb) (by rw [same_comm]; exact hka) hkb
        rw [same_of_lt (hq a ha b hb hqa hqb)] at hab
        cases hab
      · rfl
    have h₁ : xs.filter (fun x => same lt k x && q x) = xs.filter (same lt k) :=
      List.filter_congr fun b hb => by
        cases hkb : same lt k b
        · rfl
        · simp [hall b hb hkb]
    have h₂ : xs.filter (fun x => same lt k x && !q x) = [] :=
      List.filter_eq_nil_iff.mpr fun b hb => by
        cases hkb : same lt k b
        · simp
        · simp [hall b hb hkb]
    rw [h₁, h₂, List.append_nil]
  · simp only [not_exists, not_and] at hkept
    have h₁ : xs.filter (fun x => same lt k x && q x) = [] :=
      List.filter_eq_nil_iff.mpr fun b hb => by
        cases hkb : same lt k b
        · simp
        · simp [hkept b hb hkb]
    have h₂ : xs.filter (fun x => same lt k x && !q x) = xs.filter (same lt k) :=
      List.filter_congr fun b hb => by
        cases hkb : same lt k b
        · rfl
        · simp [hkept b hb hkb]
    rw [h₁, h₂, List.nil_append]

end StablePerm

namespace SortOf

variable {xs ys zs : List α}

theorem of_stablePerm (h₁ : StablePerm lt P xs ys) (h₂ : SortOf lt P ys zs) : SortOf lt P xs zs :=
  { h₁.trans h₂.toStablePerm with sorted := h₂.sorted }

theorem size_eq {w : Array α} (h : SortOf lt P xs w.toList) : w.size = xs.length := by
  rw [← Array.length_toList]
  exact h.length_eq

theorem of_length_le_one (h : xs.length ≤ 1) : SortOf lt P xs xs := by
  refine ⟨StablePerm.refl xs, ?_⟩
  match xs, h with
  | [], _ => exact List.Pairwise.nil
  | [_], _ => exact List.pairwise_singleton _ _

end SortOf

/-! ## Insertion -/

section Insertion

theorem insertBack_perm (lt : α → α → Bool) (x : α) (ys : List α) :
    (insertBack lt x ys).Perm (x :: ys) := by
  induction ys with
  | nil => rfl
  | cons y ys ih =>
    simp only [insertBack]
    split
    · exact (ih.cons y).trans (List.Perm.swap x y ys)
    · rfl

theorem mem_insertBack {x z : α} {ys : List α} (h : z ∈ insertBack lt x ys) : z = x ∨ z ∈ ys :=
  List.mem_cons.mp ((insertBack_perm lt x ys).mem_iff.mp h)

/-- Inserting into a list that descends from its first element keeps it descending: the element
passes the greater ones and stops before the first that is not greater, which is not less than
those after it. -/
theorem insertBack_descends (hw : WeakOrder lt P) {x : α} {ys : List α} (hx : P x)
    (hys : ∀ y ∈ ys, P y) (h : ys.Pairwise (fun a b => lt a b = false)) :
    (insertBack lt x ys).Pairwise (fun a b => lt a b = false) := by
  induction ys with
  | nil => exact List.pairwise_singleton _ _
  | cons y ys ih =>
    have hy := List.pairwise_cons.mp h
    simp only [insertBack]
    split
    · next hxy =>
      refine List.Pairwise.cons (fun z hz => ?_) (ih (fun y' h' => hys y' (by simp [h'])) hy.2)
      rcases mem_insertBack hz with rfl | hz
      · exact hw.asymm hx (hys y (by simp)) hxy
      · exact hy.1 z hz
    · next hxy =>
      refine List.Pairwise.cons (fun z hz => ?_) h
      rcases List.mem_cons.mp hz with rfl | hz
      · simpa using hxy
      · exact hw.le_trans (hys z (by simp [hz])) (hys y (by simp)) hx (hy.1 z hz) (by simpa using hxy)

/-- Inserting puts the element first among those of its class: it passes only greater ones. -/
theorem filter_insertBack (hw : WeakOrder lt P) {k x : α} {ys : List α} (hk : P k) (hx : P x)
    (hys : ∀ y ∈ ys, P y) :
    (insertBack lt x ys).filter (same lt k) = [x].filter (same lt k) ++ ys.filter (same lt k) := by
  induction ys with
  | nil => simp [insertBack]
  | cons y ys ih =>
    have hy := hys y (by simp)
    simp only [insertBack]
    split
    · next hxy =>
      rw [List.filter_cons, List.filter_cons, ih (fun y' h' => hys y' (by simp [h']))]
      by_cases hyk : same lt k y = true
      · -- then `x`, less than a member of the class of `k`, is not in it
        have hxk : same lt k x = false := by
          cases hkx : same lt k x
          · rfl
          · have hxy' := hw.same_trans hx hk hy (by rw [same_comm]; exact hkx) hyk
            rw [same_of_lt hxy] at hxy'
            cases hxy'
        simp [hyk, hxk]
      · by_cases hxk : same lt k x = true <;> simp [hyk, hxk]
    · rw [List.filter_cons, List.filter_cons]
      by_cases hxk : same lt k x = true <;> simp [hxk]

/-- Insertion going on from a sorted prefix, given last element first, sorts the prefix and the
rest stably. -/
theorem insertAll_sortOf (hw : WeakOrder lt P) {acc rest : List α} (hP : ∀ x ∈ acc ++ rest, P x)
    (hacc : acc.Pairwise (fun a b => lt a b = false)) :
    SortOf lt P (acc.reverse ++ rest) (insertAll lt acc rest) := by
  induction rest generalizing acc with
  | nil =>
    have h : insertAll lt acc [] = acc.reverse := by simp [insertAll]
    rw [h, List.append_nil]
    exact ⟨StablePerm.refl _, List.pairwise_reverse.mpr hacc⟩
  | cons x rest ih =>
    have hx := hP x (by simp)
    have hacc' : ∀ y ∈ acc, P y := fun y hy => hP y (by simp [hy])
    have hstep : StablePerm lt P (acc.reverse ++ x :: rest)
        ((insertBack lt x acc).reverse ++ rest) := by
      rw [← List.singleton_append, ← List.append_assoc]
      refine StablePerm.append ⟨?_, fun k hk => ?_⟩ (StablePerm.refl rest)
      · refine (List.reverse_perm _).trans ((insertBack_perm lt x acc).trans ?_)
        exact (List.perm_append_singleton x acc).symm.trans
          ((List.reverse_perm acc).symm.append_right [x])
      · rw [List.filter_reverse, filter_insertBack hw hk hx hacc', List.reverse_append,
          List.filter_append, List.filter_reverse]
        cases h : same lt k x <;> simp [h]
    have hmem : ∀ y ∈ insertBack lt x acc ++ rest, P y := by
      intro y hy
      rcases List.mem_append.mp hy with hy | hy
      · rcases mem_insertBack hy with rfl | hy
        · exact hx
        · exact hacc' y hy
      · exact hP y (by simp [hy])
    exact SortOf.of_stablePerm hstep (ih hmem (insertBack_descends hw hx hacc' hacc))

theorem insertionSort_sortOf (hw : WeakOrder lt P) {xs : List α} (hP : ∀ x ∈ xs, P x) :
    SortOf lt P xs (insertionSort lt xs) :=
  insertAll_sortOf hw (by simpa using hP) List.Pairwise.nil

end Insertion

/-! ## Merging two sorted runs -/

section Merging

theorem mergeUp_nil_left (rs : List α) : mergeUp lt [] rs = rs := by
  cases rs <;> simp [mergeUp]

theorem mergeUp_nil_right (ls : List α) : mergeUp lt ls [] = ls := by
  cases ls <;> simp [mergeUp]

/-- The merge from the front of two sorted runs sorts their concatenation stably: an element of
the right run goes first only when it is less than the head of the left run, and so than every
element of it. -/
theorem mergeUp_sortOf (hw : WeakOrder lt P) {ls rs : List α} (hP : ∀ x ∈ ls ++ rs, P x)
    (hl : ls.Pairwise (fun a b => lt b a = false)) (hr : rs.Pairwise (fun a b => lt b a = false)) :
    SortOf lt P (ls ++ rs) (mergeUp lt ls rs) := by
  induction ls generalizing rs with
  | nil =>
    rw [mergeUp_nil_left, List.nil_append]
    exact ⟨StablePerm.refl rs, hr⟩
  | cons l ls ihl =>
    induction rs with
    | nil =>
      rw [mergeUp_nil_right, List.append_nil]
      exact ⟨StablePerm.refl _, hl⟩
    | cons r rs ihr =>
      have hPl := hP l (by simp)
      have hPr := hP r (by simp)
      have hl' := List.pairwise_cons.mp hl
      have hr' := List.pairwise_cons.mp hr
      simp only [mergeUp]
      split
      · next hrl =>
        -- the head of the left run goes first
        have hrl : lt r l = false := by simpa using hrl
        have ih : SortOf lt P (ls ++ r :: rs) (mergeUp lt ls (r :: rs)) :=
          ihl (fun x hx => hP x (by simp at hx ⊢; tauto)) hl'.2 hr
        refine ⟨⟨ih.perm.cons l, fun k hk => ?_⟩, List.Pairwise.cons (fun y hy => ?_) ih.sorted⟩
        · rw [List.cons_append, List.filter_cons, List.filter_cons, ih.filter_eq k hk]
        · have hy' := ih.perm.subset hy
          rw [List.mem_append, List.mem_cons] at hy'
          rcases hy' with hy' | rfl | hy'
          · exact hl'.1 y hy'
          · exact hrl
          · exact hw.le_trans hPl hPr (hP y (by simp [hy'])) hrl (hr'.1 y hy')
      · next hrl =>
        -- the head of the right run goes first, passing the whole left run
        have hrl : lt r l = true := by simpa using hrl
        have ih := ihr (fun x hx => hP x (by simp at hx ⊢; tauto)) hr'.2
        have hbelow : ∀ x ∈ l :: ls, lt r x = true := by
          intro x hx
          rcases List.mem_cons.mp hx with rfl | hx
          · exact hrl
          · exact hw.lt_of_lt_of_le hPr hPl (hP x (by simp [hx])) hrl (hl'.1 x hx)
        have hswap : StablePerm lt P ((l :: ls) ++ r :: rs) (r :: (l :: ls ++ rs)) := by
          have h : StablePerm lt P ([r] ++ (l :: ls)) ((l :: ls) ++ [r]) :=
            StablePerm.append_comm_of_lt hw (fun x hx => hP x (by simp at hx ⊢; tauto))
              (by simpa using hbelow)
          simpa using h.symm.append (StablePerm.refl rs)
        refine ⟨hswap.trans ⟨ih.perm.cons r, fun k hk => ?_⟩, List.Pairwise.cons (fun y hy => ?_) ih.sorted⟩
        · rw [List.filter_cons, List.filter_cons, ih.filter_eq k hk]
        · have hy' := ih.perm.subset hy
          rw [List.mem_append] at hy'
          rcases hy' with hy' | hy'
          · exact hw.asymm hPr (hP y (by simp at hy' ⊢; tauto)) (hbelow y hy')
          · exact hr'.1 y hy'

/-- The merge from the back is the merge from the front in the reversed order, with the runs
given last element first and in the other order. -/
theorem mergeDown_eq (A B : List α) : mergeDown lt A B = mergeUp (fun a b => lt b a) B A := by
  induction A generalizing B with
  | nil => cases B <;> simp [mergeDown, mergeUp]
  | cons l ls ihl =>
    induction B with
    | nil => simp [mergeDown, mergeUp]
    | cons r rs ihr =>
      simp only [mergeDown, mergeUp]
      cases h : lt r l
      · simp [ihr]
      · simp [ihl]

/-- The merge from the back, of the runs given last element first, gives the stable sort of
their concatenation last element first. -/
theorem mergeDown_sortOf (hw : WeakOrder lt P) {ls rs : List α} (hP : ∀ x ∈ ls ++ rs, P x)
    (hl : ls.Pairwise (fun a b => lt b a = false)) (hr : rs.Pairwise (fun a b => lt b a = false)) :
    SortOf lt P (ls ++ rs) (mergeDown lt ls.reverse rs.reverse).reverse := by
  have h : SortOf (fun a b => lt b a) P (rs.reverse ++ ls.reverse)
      (mergeUp (fun a b => lt b a) rs.reverse ls.reverse) :=
    mergeUp_sortOf hw.flip (fun x hx => hP x (by simp at hx ⊢; tauto))
      (List.pairwise_reverse.mpr hr) (List.pairwise_reverse.mpr hl)
  rw [mergeDown_eq]
  refine ⟨⟨?_, fun k hk => ?_⟩, ?_⟩
  · exact (List.reverse_perm _).trans (h.perm.trans (List.perm_append_comm.trans
      ((List.reverse_perm ls).append (List.reverse_perm rs))))
  · have hk' := h.filter_eq k hk
    rw [same_flip] at hk'
    rw [List.filter_reverse, hk', ← List.filter_reverse, List.reverse_append, List.reverse_reverse,
      List.reverse_reverse]
  · exact List.pairwise_reverse.mpr h.sorted

end Merging

/-! ## Runs -/

/-- A strictly descending run reversed is sorted, and stably: no two of its elements are equal. -/
theorem reverse_sortOf (hw : WeakOrder lt P) {xs : List α} (hP : ∀ x ∈ xs, P x)
    (h : xs.Pairwise (fun a b => lt b a = true)) : SortOf lt P xs xs.reverse := by
  refine ⟨⟨List.reverse_perm xs, fun k hk => ?_⟩, ?_⟩
  · rw [List.filter_reverse]
    have hsub : (xs.filter (same lt k)).Pairwise (fun a b => lt b a = true) :=
      h.sublist List.filter_sublist
    match hf : xs.filter (same lt k), hsub with
    | [], _ => rfl
    | [_], _ => rfl
    | a :: b :: _, hsub =>
      have ha : a ∈ xs.filter (same lt k) := by simp [hf]
      have hb : b ∈ xs.filter (same lt k) := by simp [hf]
      rw [List.mem_filter] at ha hb
      have hab := hw.same_trans (hP a ha.1) hk (hP b hb.1) (by rw [same_comm]; exact ha.2) hb.2
      rw [same_comm, same_of_lt ((List.pairwise_cons.mp hsub).1 b (by simp))] at hab
      cases hab
  · refine List.pairwise_reverse.mpr (h.imp_of_mem fun ha hb hab => ?_)
    exact hw.asymm (hP _ hb) (hP _ ha) hab

/-! ## Four elements -/

section Four

/-- The network of four compares through `lt` only, so it commutes with naming the elements. -/
theorem sort4_map {β : Type} (lt : α → α → Bool) (f : β → α) (a0 a1 a2 a3 : β) :
    sort4 lt (f a0) (f a1) (f a2) (f a3) =
      (sort4 (fun i j => lt (f i) (f j)) a0 a1 a2 a3).map f := by
  dsimp only [sort4]
  split_ifs <;> rfl

/-- The network of four sorts stably every ranking of four positions: it is enough to sort
positions by ranks, since a weak order on four elements is one by ranks. -/
theorem sort4_ranks : ∀ r0 r1 r2 r3 : Fin 4,
    (sort4 (fun i j => decide (![r0, r1, r2, r3] i < ![r0, r1, r2, r3] j)) (0 : Fin 4) 1 2 3).Perm
        [0, 1, 2, 3] ∧
      (sort4 (fun i j => decide (![r0, r1, r2, r3] i < ![r0, r1, r2, r3] j)) (0 : Fin 4) 1 2 3).Pairwise
        (fun i j => ¬ ![r0, r1, r2, r3] j < ![r0, r1, r2, r3] i) ∧
      ∀ c : Fin 4,
        (sort4 (fun i j => decide (![r0, r1, r2, r3] i < ![r0, r1, r2, r3] j)) (0 : Fin 4) 1 2 3).filter
          (fun i => ![r0, r1, r2, r3] i = c) = [0, 1, 2, 3].filter (fun i => ![r0, r1, r2, r3] i = c) := by
  decide

/-- How many of four elements are less than the one at `i`: a rank that a weak order on the four
compares as it compares the elements. -/
def lessCount (lt : α → α → Bool) (a : Fin 4 → α) (i : Fin 4) : Nat :=
  (Finset.univ.filter fun j => lt (a j) (a i) = true).card

theorem lessCount_lt_four (hw : WeakOrder lt P) {a : Fin 4 → α} (hP : ∀ i, P (a i)) (i : Fin 4) :
    lessCount lt a i < 4 := by
  have hsub : (Finset.univ.filter fun j => lt (a j) (a i) = true) ⊂ Finset.univ :=
    (Finset.ssubset_iff_of_subset (Finset.subset_univ _)).mpr
      ⟨i, Finset.mem_univ _, by simp [hw.irrefl (hP i)]⟩
  simpa [lessCount] using Finset.card_lt_card hsub

theorem lt_eq_lessCount (hw : WeakOrder lt P) {a : Fin 4 → α} (hP : ∀ i, P (a i)) (i j : Fin 4) :
    lt (a i) (a j) = decide (lessCount lt a i < lessCount lt a j) := by
  cases hij : lt (a i) (a j)
  · -- the elements less than `a j` are less than `a i`
    have hsub : (Finset.univ.filter fun m => lt (a m) (a j) = true) ⊆
        Finset.univ.filter fun m => lt (a m) (a i) = true := by
      intro m hm
      simp only [Finset.mem_filter, Finset.mem_univ, true_and] at hm ⊢
      exact hw.lt_of_lt_of_le (hP m) (hP j) (hP i) hm hij
    exact (decide_eq_false (not_lt.mpr (Finset.card_le_card hsub))).symm
  · -- those less than `a i` are less than `a j`, and `a i` is one more
    have hsub : (Finset.univ.filter fun m => lt (a m) (a i) = true) ⊆
        Finset.univ.filter fun m => lt (a m) (a j) = true := by
      intro m hm
      simp only [Finset.mem_filter, Finset.mem_univ, true_and] at hm ⊢
      exact hw.lt_trans (hP m) (hP i) (hP j) hm hij
    have hssub := (Finset.ssubset_iff_of_subset hsub).mpr
      ⟨i, by simp [hij], by simp [hw.irrefl (hP i)]⟩
    exact (decide_eq_true (Finset.card_lt_card hssub)).symm

/-- The network sorts four elements stably. -/
theorem sort4_sortOf (hw : WeakOrder lt P) {a0 a1 a2 a3 : α} (hP : ∀ x ∈ [a0, a1, a2, a3], P x) :
    SortOf lt P [a0, a1, a2, a3] (sort4 lt a0 a1 a2 a3) := by
  have hPa : ∀ i, P (![a0, a1, a2, a3] i) := by
    intro i
    fin_cases i <;> exact hP _ (by simp)
  -- the four compare as their ranks do
  obtain ⟨r, hr⟩ : ∃ r : Fin 4 → Fin 4,
      ∀ i j, lt (![a0, a1, a2, a3] i) (![a0, a1, a2, a3] j) = decide (r i < r j) :=
    ⟨fun i => ⟨lessCount lt _ i, lessCount_lt_four hw hPa i⟩,
      fun i j => (lt_eq_lessCount hw hPa i j).trans (by simp [Fin.lt_def])⟩
  have hsort : sort4 lt a0 a1 a2 a3 =
      (sort4 (fun i j => decide (r i < r j)) (0 : Fin 4) 1 2 3).map ![a0, a1, a2, a3] := by
    have hcmp : (fun i j => decide (r i < r j)) =
        fun i j => lt (![a0, a1, a2, a3] i) (![a0, a1, a2, a3] j) := by
      funext i j
      rw [hr]
    rw [hcmp]
    exact sort4_map lt ![a0, a1, a2, a3] 0 1 2 3
  have hr4 : ![r 0, r 1, r 2, r 3] = r := by
    funext i
    fin_cases i <;> rfl
  obtain ⟨hperm, hsorted, hfilter⟩ := sort4_ranks (r 0) (r 1) (r 2) (r 3)
  rw [hr4] at hperm hsorted hfilter
  have hlist : [a0, a1, a2, a3] = [(0 : Fin 4), 1, 2, 3].map ![a0, a1, a2, a3] := rfl
  rw [hsort, hlist]
  refine ⟨⟨hperm.map _, fun k hk => ?_⟩, ?_⟩
  · rw [List.filter_map, List.filter_map]
    -- the elements equal to `k` are none of the four, or those of one rank
    by_cases hsome : ∃ i, same lt k (![a0, a1, a2, a3] i) = true
    · obtain ⟨i0, hi0⟩ := hsome
      have hcls : ∀ i, (same lt k ∘ ![a0, a1, a2, a3]) i = decide (r i = r i0) := by
        intro i
        by_cases hri : r i = r i0
        · have hsame : same lt (![a0, a1, a2, a3] i0) (![a0, a1, a2, a3] i) = true := by
            simp [same, hr, hri]
          simp [hri, hw.same_trans hk (hPa i0) (hPa i) hi0 hsame]
        · have hki : same lt k (![a0, a1, a2, a3] i) = false := by
            cases hki : same lt k (![a0, a1, a2, a3] i)
            · rfl
            · have hsame := hw.same_trans (hPa i0) hk (hPa i) (by rw [same_comm]; exact hi0) hki
              simp only [same, hr, Bool.and_eq_true, Bool.not_eq_true', decide_eq_false_iff_not,
                not_lt] at hsame
              exact absurd (le_antisymm hsame.2 hsame.1) hri
          simp [hri, hki]
      rw [List.filter_congr fun i _ => hcls i, List.filter_congr fun i _ => hcls i, hfilter (r i0)]
    · have hnone : ∀ i, (same lt k ∘ ![a0, a1, a2, a3]) i = false := by
        intro i
        simpa using fun h => hsome ⟨i, h⟩
      rw [List.filter_congr fun i _ => hnone i, List.filter_congr fun i _ => hnone i,
        List.filter_false, List.filter_false]
  · refine List.pairwise_map.mpr (hsorted.imp fun h => ?_)
    rw [hr]
    exact decide_eq_false h

/-- Each half of the small sort comes out sorted stably: by insertion, from the first four
elements sorted by the network when it is asked to. -/
theorem sortHalf_sortOf (hw : WeakOrder lt P) (four : Bool) {xs : List α} (hP : ∀ x ∈ xs, P x) :
    SortOf lt P xs (sortHalf lt four xs) := by
  rcases xs with _ | ⟨a0, _ | ⟨a1, _ | ⟨a2, _ | ⟨a3, rest⟩⟩⟩⟩
  · exact SortOf.of_length_le_one (by simp)
  · exact insertAll_sortOf hw (by simpa using hP) (List.pairwise_singleton _ _)
  · exact insertAll_sortOf hw (by simpa using hP) (List.pairwise_singleton _ _)
  · exact insertAll_sortOf hw (by simpa using hP) (List.pairwise_singleton _ _)
  cases four
  · exact insertAll_sortOf hw (by simpa using hP) (List.pairwise_singleton _ _)
  · have h4 : SortOf lt P [a0, a1, a2, a3] (sort4 lt a0 a1 a2 a3) :=
      sort4_sortOf hw fun x hx => hP x (by simp at hx ⊢; tauto)
    have hrest : SortOf lt P ((sort4 lt a0 a1 a2 a3).reverse.reverse ++ rest)
        (insertAll lt (sort4 lt a0 a1 a2 a3).reverse rest) := by
      refine insertAll_sortOf hw (fun x hx => ?_) (List.pairwise_reverse.mpr h4.sorted)
      rcases List.mem_append.mp hx with hx | hx
      · have hx4 := h4.perm.subset (List.mem_reverse.mp hx)
        exact hP x (by simp at hx4 ⊢; tauto)
      · exact hP x (by simp [hx])
    rw [List.reverse_reverse] at hrest
    exact SortOf.of_stablePerm (h4.toStablePerm.append (StablePerm.refl rest)) hrest

end Four

end MapReduce.Driftsort
