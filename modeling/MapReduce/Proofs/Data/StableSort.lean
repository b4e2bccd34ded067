import MapReduce.Proofs.Data.Runs
import Mathlib

/-! # The stable sort

Quicksort on an unsorted run partitions stably around a pivot: the elements less than it go
left and the rest right, both in order. A pivot that is no greater than the one of the enclosing
left partition, or one that nothing is less than, is the least element there: the elements not
greater than it are all equal to it, so they are split off and done. Each partition puts at least
one element (the pivot) on one side, so the slices shrink and the fuel of one more than the
length is enough. With that, the stable sort sorts stably for every comparison that is a total
preorder, at every length: insertion sort, or driftsort with quicksort for its unsorted runs. -/

namespace MapReduce.Driftsort

variable {α : Type} {lt : α → α → Bool} {P : α → Prop}

/-! ## Partition -/

/-- A fold that sends each element of a list of pairs left or right by a decision gives the
elements of each side in order. -/
theorem foldr_split {β : Type} (F : α × β → List α × List α → List α × List α) (d : α × β → Bool)
    (hF : ∀ p acc, F p acc = if d p then (p.1 :: acc.1, acc.2) else (acc.1, p.1 :: acc.2))
    (ps : List (α × β)) :
    ps.foldr F ([], []) = ((ps.filter d).map Prod.fst, (ps.filter fun p => !d p).map Prod.fst) := by
  induction ps with
  | nil => rfl
  | cons p ps ih =>
    rw [List.foldr_cons, ih, hF]
    by_cases hp : d p <;> simp [hp]

theorem mem_zip_range {l : List α} {x : α} {i : Nat} (h : (x, i) ∈ l.zip (List.range l.length)) :
    l[i]? = some x := by
  obtain ⟨j, hj, hget⟩ := List.mem_iff_getElem.mp h
  rw [List.getElem_zip, List.getElem_range] at hget
  obtain ⟨rfl, rfl⟩ := Prod.mk.injEq _ _ _ _ ▸ hget
  simp

/-- Partition around the element at `pos` is a stable split by the comparison with it, as long
as the pivot itself is sent where the comparison would send it. -/
theorem partition_eq {goesLeft : α → α → Bool} {v : Array α} {pos : Nat} {pivotLeft : Bool}
    {pivot : α} (hpivot : v[pos]? = some pivot) (hself : goesLeft pivot pivot = pivotLeft) :
    partition goesLeft v pos pivotLeft =
      ((v.toList.filter (goesLeft · pivot)).length,
        (v.toList.filter (goesLeft · pivot) ++ v.toList.filter fun x => !goesLeft x pivot).toArray) := by
  -- the pivot's position decides as the comparison does
  have hdecide : ∀ p ∈ v.toList.zip (List.range v.size),
      (if p.2 = pos then pivotLeft else goesLeft p.1 pivot) = goesLeft p.1 pivot := by
    rintro ⟨x, i⟩ hp
    by_cases hi : i = pos
    · have hx := mem_zip_range (by rw [Array.length_toList]; exact hp)
      rw [hi, Array.getElem?_toList, hpivot, Option.some.injEq] at hx
      simp [hi, ← hx, hself]
    · simp [hi]
  have hfst : (v.toList.zip (List.range v.size)).map Prod.fst = v.toList :=
    List.map_fst_zip (by simp)
  -- each side, read off the pairs, is the filter of the elements
  have hside : ∀ q : Bool → Bool,
      ((v.toList.zip (List.range v.size)).filter
        fun p => q (if p.2 = pos then pivotLeft else goesLeft p.1 pivot)).map Prod.fst =
      v.toList.filter fun x => q (goesLeft x pivot) := by
    intro q
    rw [List.filter_congr (fun p hp => by rw [hdecide p hp]), ← hfst, List.filter_map, hfst]
    rfl
  unfold partition
  rw [hpivot]
  dsimp only
  rw [foldr_split _ (fun p => if p.2 = pos then pivotLeft else goesLeft p.1 pivot) (fun _ _ => rfl)]
  have hl := hside id
  have hr := hside (!·)
  dsimp only [id] at hl hr
  rw [hl, hr]

/-! ## The pivot -/

theorem median3_mem (v : Array α) (d : α) (a b c : Nat) :
    median3 lt v d a b c = a ∨ median3 lt v d a b c = b ∨ median3 lt v d a b c = c := by
  dsimp only [median3]
  split_ifs <;> simp

/-- The pseudo-median of the slice of `8k` elements from `a` on lies in it. -/
theorem median3Rec_lt (v : Array α) (d : α) (k : Nat) :
    ∀ a, 0 < k → median3Rec lt v d a (a + k * 4) (a + k * 7) k < a + 8 * k := by
  induction k using Nat.strong_induction_on with
  | _ k ih =>
    intro a hk
    unfold median3Rec
    split
    · -- three pseudo-medians of slices of an eighth, each inside its own part
      have hk8 : 0 < k / 8 := by omega
      have h₁ := ih (k / 8) (by omega) a hk8
      have h₂ := ih (k / 8) (by omega) (a + k * 4) hk8
      have h₃ := ih (k / 8) (by omega) (a + k * 7) hk8
      rcases median3_mem v d (median3Rec lt v d a (a + k / 8 * 4) (a + k / 8 * 7) (k / 8))
        (median3Rec lt v d (a + k * 4) (a + k * 4 + k / 8 * 4) (a + k * 4 + k / 8 * 7) (k / 8))
        (median3Rec lt v d (a + k * 7) (a + k * 7 + k / 8 * 4) (a + k * 7 + k / 8 * 7) (k / 8))
        with h | h | h <;> rw [h] <;> omega
    · rcases median3_mem v d a (a + k * 4) (a + k * 7) with h | h | h <;> rw [h] <;> omega

/-- The pivot of a slice longer than the small sort takes is one of its elements. -/
theorem choosePivot_lt {v : Array α} (d : α) (h : 32 < v.size) : choosePivot lt v d < v.size := by
  dsimp only [choosePivot]
  split
  · rcases median3_mem v d 0 (v.size / 8 * 4) (v.size / 8 * 7) with h' | h' | h' <;>
      rw [h'] <;> omega
  · have h' := @median3Rec_lt α lt v d (v.size / 8) 0 (by omega)
    simp only [Nat.zero_add] at h'
    omega

/-! ## The two kinds of partition -/

/-- The two sides of a partition around a pivot, each sorted stably, make the whole sorted
stably: everything less than the pivot comes before everything not less. -/
theorem split_sortOf (hw : WeakOrder lt P) {xs wl wr : List α} {pivot : α} (hP : ∀ x ∈ xs, P x)
    (hpiv : P pivot) (hl : SortOf lt P (xs.filter (lt · pivot)) wl)
    (hr : SortOf lt P (xs.filter fun x => !lt x pivot) wr) :
    SortOf lt P xs (wl ++ wr) := by
  have hsplit : StablePerm lt P xs (xs.filter (lt · pivot) ++ xs.filter fun x => !lt x pivot) :=
    StablePerm.filter_append_filter hw hP _ fun a ha b hb hqa hqb =>
      hw.lt_of_lt_of_le (hP a ha) hpiv (hP b hb) hqa hqb
  refine ⟨hsplit.trans (hl.toStablePerm.append hr.toStablePerm),
    List.pairwise_append.mpr ⟨hl.sorted, hr.sorted, fun a ha b hb => ?_⟩⟩
  -- `a` is below the pivot and `b` is not
  obtain ⟨ha, hapiv⟩ := List.mem_filter.mp (hl.perm.subset ha)
  obtain ⟨hb, hbpiv⟩ := List.mem_filter.mp (hr.perm.subset hb)
  rw [Bool.not_eq_true'] at hbpiv
  cases hba : lt b a
  · rfl
  · rw [hw.lt_trans (hP b hb) (hP a ha) hpiv hba hapiv] at hbpiv
    cases hbpiv

/-- When nothing is less than the pivot, the elements not greater than it are all equal to it:
kept in order before the rest sorted stably, they make the whole sorted stably. -/
theorem splitOff_sortOf (hw : WeakOrder lt P) {xs w : List α} {pivot : α} (hP : ∀ x ∈ xs, P x)
    (hpiv : P pivot) (hmin : ∀ x ∈ xs, lt x pivot = false)
    (hr : SortOf lt P (xs.filter (lt pivot ·)) w) :
    SortOf lt P xs (xs.filter (fun x => !lt pivot x) ++ w) := by
  -- whatever is not greater than the pivot is not greater than anything
  have hle : ∀ a ∈ xs.filter (fun x => !lt pivot x), ∀ b ∈ xs, lt b a = false := by
    intro a ha b hb
    obtain ⟨ha, hapiv⟩ := List.mem_filter.mp ha
    rw [Bool.not_eq_true'] at hapiv
    exact hw.le_trans (hP a ha) hpiv (hP b hb) hapiv (hmin b hb)
  have hsplit : StablePerm lt P xs
      (xs.filter (fun x => !lt pivot x) ++ xs.filter fun x => !!lt pivot x) :=
    StablePerm.filter_append_filter hw hP _ fun a ha b hb hqa hqb =>
      hw.lt_of_le_of_lt (hP a ha) hpiv (hP b hb) (by simpa using hqa) (by simpa using hqb)
  simp only [Bool.not_not] at hsplit
  refine ⟨hsplit.trans ((StablePerm.refl _).append hr.toStablePerm),
    List.pairwise_append.mpr ⟨?_, hr.sorted, fun a ha b hb => hle a ha b ?_⟩⟩
  · exact List.pairwise_of_forall_mem_list fun a ha b hb =>
      hle a ha b (List.mem_of_mem_filter hb)
  · exact List.mem_of_mem_filter (hr.perm.subset hb)

/-! ## One partition step -/

theorem extract_append_left (L R : List α) : (L ++ R).toArray.extract 0 L.length = L.toArray := by
  rw [← Array.toList_inj, toList_extract_eq]
  simp

theorem extract_append_right (L R : List α) :
    (L ++ R).toArray.extract L.length (L.length + R.length) = R.toArray := by
  rw [← Array.toList_inj, toList_extract_eq]
  simp

section Step

variable (hw : WeakOrder lt P) {v : Array α} {pos : Nat} {pivot : α}
  (hP : ∀ x ∈ v.toList, P x) (hpivot : v[pos]? = some pivot)
include hw hP hpivot

omit hw hP in
theorem pivot_mem : pivot ∈ v.toList :=
  Array.mem_toList_iff.mpr (Array.mem_of_getElem? hpivot)

/-- A least pivot splits off the elements equal to it, in order, before the rest sorted by
`rec`. -/
theorem splitOff_step {rec : Array α → Option (Array α)}
    (hmin : ∀ x ∈ v.toList, lt x pivot = false)
    (hrec : ∀ u : Array α, u.size < v.size → (∀ x ∈ u.toList, x ∈ v.toList) →
      ∃ w, rec u = some w ∧ SortOf lt P u.toList w.toList) :
    ∃ w, (rec ((partition (fun a b => !lt b a) v pos true).2.extract
        (partition (fun a b => !lt b a) v pos true).1 v.size)).map
        ((partition (fun a b => !lt b a) v pos true).2.extract 0
          (partition (fun a b => !lt b a) v pos true).1 ++ ·) = some w ∧
      SortOf lt P v.toList w.toList := by
  have hpivP : P pivot := hP pivot (pivot_mem hpivot)
  have hsize : v.size = (v.toList.filter fun x => !lt pivot x).length +
      (v.toList.filter fun x => !!lt pivot x).length := by
    rw [← List.length_append, (List.filter_append_perm _ _).length_eq, Array.length_toList]
  -- the pivot is on the left, so the right side is shorter
  have hleft : 0 < (v.toList.filter fun x => !lt pivot x).length :=
    List.length_pos_of_mem (List.mem_filter.mpr ⟨pivot_mem hpivot, by simp [hw.irrefl hpivP]⟩)
  rw [partition_eq hpivot (by simp [hw.irrefl hpivP])]
  dsimp only
  rw [hsize, extract_append_right, extract_append_left]
  obtain ⟨w, hw', hsort⟩ := hrec (v.toList.filter fun x => !!lt pivot x).toArray
    (by simp only [List.size_toArray]; omega)
    (fun x hx => List.mem_of_mem_filter (by rwa [List.toList_toArray] at hx))
  refine ⟨_ ++ w, by rw [hw', Option.map_some], ?_⟩
  rw [Array.toList_append, List.toList_toArray]
  exact splitOff_sortOf hw hP hpivP hmin (by simpa using hsort)

/-- A pivot that something is less than splits the elements into those less than it and the
rest, sorted by `recL` and `recR`. -/
theorem split_step {recL recR : Array α → Option (Array α)}
    (hne : (partition lt v pos false).1 ≠ 0)
    (hrecL : ∀ u : Array α, u.size < v.size → (∀ x ∈ u.toList, x ∈ v.toList) →
      ∃ w, recL u = some w ∧ SortOf lt P u.toList w.toList)
    (hrecR : ∀ u : Array α, u.size < v.size → (∀ x ∈ u.toList, x ∈ v.toList ∧ lt x pivot = false) →
      ∃ w, recR u = some w ∧ SortOf lt P u.toList w.toList) :
    ∃ w, (do
        let right ← recR ((partition lt v pos false).2.extract (partition lt v pos false).1 v.size)
        let left ← recL ((partition lt v pos false).2.extract 0 (partition lt v pos false).1)
        some (left ++ right)) = some w ∧ SortOf lt P v.toList w.toList := by
  have hpivP : P pivot := hP pivot (pivot_mem hpivot)
  have hsize : v.size = (v.toList.filter (lt · pivot)).length +
      (v.toList.filter fun x => !lt x pivot).length := by
    rw [← List.length_append, (List.filter_append_perm _ _).length_eq, Array.length_toList]
  -- the pivot is on the right, so the left side is shorter
  have hright : 0 < (v.toList.filter fun x => !lt x pivot).length :=
    List.length_pos_of_mem (List.mem_filter.mpr ⟨pivot_mem hpivot, by simp [hw.irrefl hpivP]⟩)
  rw [partition_eq hpivot (hw.irrefl hpivP)] at hne ⊢
  dsimp only at hne ⊢
  rw [hsize, extract_append_right, extract_append_left]
  obtain ⟨wr, hwr, hsortr⟩ := hrecR (v.toList.filter fun x => !lt x pivot).toArray
    (by simp only [List.size_toArray]; omega)
    (fun x hx => by
      rw [List.toList_toArray, List.mem_filter, Bool.not_eq_true'] at hx
      exact hx)
  obtain ⟨wl, hwl, hsortl⟩ := hrecL (v.toList.filter (lt · pivot)).toArray
    (by simp only [List.size_toArray]; omega)
    (fun x hx => List.mem_of_mem_filter (by rwa [List.toList_toArray] at hx))
  refine ⟨wl ++ wr, by simp [hwr, hwl], ?_⟩
  rw [Array.toList_append]
  exact split_sortOf hw hP hpivP (by simpa using hsortl) (by simpa using hsortr)

end Step

/-! ## Quicksort -/

/-- Quicksort sorts stably an array with more fuel than elements, below an ancestor pivot that
none of them is less than. -/
theorem quicksort_sorts (hw : WeakOrder lt P) (fuel : Nat) :
    ∀ {v : Array α} {limit : Nat} {ancestor : Option α}, (∀ x ∈ v.toList, P x) →
      v.size < fuel → (∀ a ∈ ancestor, P a ∧ ∀ x ∈ v.toList, lt x a = false) →
      ∃ w, quicksort lt fuel v limit ancestor = some w ∧ SortOf lt P v.toList w.toList := by
  induction fuel with
  | zero => intro _ _ _ _ h; omega
  | succ fuel ih =>
    intro v limit ancestor hP hfuel hanc
    by_cases hsmall : v.size ≤ 32
    · simp only [quicksort, hsmall, if_true]
      exact smallSort_sorts hw v hP
    by_cases hlim : limit = 0
    · simp only [quicksort, hsmall, hlim, if_true, if_false]
      exact driftsort_sorts hw true (fun h => by cases h) v hP
    obtain ⟨d, hd⟩ : ∃ d, v[0]? = some d := ⟨v[0], Array.getElem?_eq_getElem (by omega)⟩
    simp only [quicksort, hsmall, hlim, if_false, hd]
    set pos := choosePivot lt v d with hposDef
    set pivot := v.getD pos d with hpivotDef
    have hpivot : v[pos]? = some pivot := by
      rw [hpivotDef, Array.getD_eq_getD_getElem?, Array.getElem?_eq_getElem (choosePivot_lt d (by omega))]
      rfl
    have hpivP : P pivot := hP pivot (pivot_mem hpivot)
    -- every recursive call is on a shorter slice of these elements
    have hrec : ∀ (anc : Option α) (u : Array α), u.size < v.size → (∀ x ∈ u.toList, x ∈ v.toList) →
        (∀ a ∈ anc, P a ∧ ∀ x ∈ u.toList, lt x a = false) →
        ∃ w, quicksort lt fuel u (limit - 1) anc = some w ∧ SortOf lt P u.toList w.toList :=
      fun anc u hu hsub hanc => ih (fun x hx => hP x (hsub x hx)) (by omega) hanc
    have hsubanc : ∀ u : Array α, (∀ x ∈ u.toList, x ∈ v.toList) →
        ∀ a ∈ ancestor, P a ∧ ∀ x ∈ u.toList, lt x a = false :=
      fun u hsub a ha => ⟨(hanc a ha).1, fun x hx => (hanc a ha).2 x (hsub x hx)⟩
    cases ancestor
    case' some a =>
      obtain ⟨hPa, ha⟩ := hanc a rfl
      cases hla : lt a pivot
      case false =>
        -- a pivot no greater than the ancestor is the least element
        simp only [hla, Bool.not_false, Bool.true_or, if_true]
        exact splitOff_step hw hP hpivot
          (fun x hx => hw.le_trans hpivP hPa (hP x hx) hla (ha x hx))
          (fun u hu hsub => hrec none u hu hsub (by simp))
      simp only [hla, Bool.not_true, Bool.false_eq_true, if_false, Bool.false_or,
        decide_eq_true_eq]
    case' none =>
      simp only [Bool.false_eq_true, if_false, Bool.false_or, decide_eq_true_eq]
    all_goals
      split
      · -- nothing is less than the pivot, and the partition left the array as it was
        next hzero =>
        rw [partition_eq hpivot (hw.irrefl hpivP)] at hzero ⊢
        have hnil := List.length_eq_zero_iff.mp hzero
        have hmin : ∀ x ∈ v.toList, lt x pivot = false := fun x hx => by
          simpa using List.filter_eq_nil_iff.mp hnil x hx
        rw [hnil, List.nil_append, List.filter_eq_self.mpr (fun x hx => by simp [hmin x hx]),
          Array.toArray_toList]
        exact splitOff_step hw hP hpivot hmin (fun u hu hsub => hrec none u hu hsub (by simp))
      · next hne =>
        exact split_step hw hP hpivot hne
          (fun u hu hsub => hrec _ u hu hsub (hsubanc u hsub))
          (fun u hu hsub => hrec (some pivot) u hu (fun x hx => (hsub x hx).1)
            (fun b hb => by
              obtain rfl := Option.mem_some_iff.mp hb
              exact ⟨hpivP, fun x hx => (hsub x hx).2⟩))

theorem stableQuicksort_sorts (hw : WeakOrder lt P) : Sorts lt P (stableQuicksort lt) :=
  fun v hP => quicksort_sorts hw (v.size + 1) hP (by omega) (by simp)

/-! ## The stable sort -/

/-- The stable sort sorts stably, at every length, for every comparison that is a total
preorder on the elements. -/
theorem stableSort_sorts (hw : WeakOrder lt P) : Sorts lt P (stableSort lt) := by
  intro v hP
  unfold stableSort
  by_cases htwo : v.size < 2
  · exact ⟨v, by simp [htwo], SortOf.of_length_le_one (by simp; omega)⟩
  by_cases hshort : v.size ≤ 20
  · refine ⟨(insertionSort lt v.toList).toArray, by simp [htwo, hshort], ?_⟩
    rw [List.toList_toArray]
    exact insertionSort_sortOf hw hP
  · simp only [htwo, hshort, if_false]
    exact driftsort_sorts hw _ (fun _ => stableQuicksort_sorts hw) v hP

end MapReduce.Driftsort
