import MapReduce.Proofs.Data.SmallSort
import Mathlib

/-! # Runs and their merges

Driftsort cuts the array into runs and merges them as it goes. A run is sorted already (a stretch
found ascending, or strictly descending and reversed, or sorted by the small sort), or, in a lazy
loop, a stretch left for quicksort. Each run is merged with its neighbour when the merge tree says
so, an unsorted run being sorted first when it meets a sorted one, and after the last run
everything is merged into one.

The loop keeps the array a stable rearrangement of its input, and the runs waiting on the stack
side by side below the current one, each sorted when it says so. Every step writes only inside
the runs it makes or merges, so the runs below stay as they were. At the end one run covers the
array: sorted, or sorted then by quicksort. -/

namespace MapReduce.Driftsort

variable {α : Type} {lt : α → α → Bool} {P : α → Prop}

/-! ## Slices -/

theorem toList_extract_eq (v : Array α) (a b : Nat) :
    (v.extract a b).toList = (v.toList.drop a).take (b - a) := by
  rw [Array.toList_extract, List.extract_eq_take_drop]

/-- A slice put back over as many elements from `lo` on. -/
theorem toList_splice (v xs : Array α) (lo : Nat) :
    (splice v lo xs).toList = v.toList.take lo ++ xs.toList ++ v.toList.drop (lo + xs.size) := by
  rw [splice, Array.toList_append, Array.toList_append, toList_extract_eq, toList_extract_eq,
    List.drop_zero, Nat.sub_zero, List.take_of_length_le (l := v.toList.drop (lo + xs.size))
      (by simp)]

theorem size_splice {v xs : Array α} {lo : Nat} (h : lo + xs.size ≤ v.size) :
    (splice v lo xs).size = v.size := by
  rw [← Array.length_toList, toList_splice v xs lo]
  simp only [List.length_append, List.length_take, List.length_drop, Array.length_toList]
  omega

/-- The elements of a list from `s` on, `k` of them, are fixed by its first `s + k`. -/
theorem seg_eq_of_take_eq {l l' : List α} {e s k : Nat} (h : l'.take e = l.take e) (hs : s + k ≤ e) :
    (l'.drop s).take k = (l.drop s).take k := by
  have h' := congrArg (fun t => (t.drop s).take k) h
  simp only [List.drop_take, List.take_take] at h'
  rwa [Nat.min_eq_left (by omega)] at h'

/-- Putting back a stable rearrangement of a slice rearranges the array stably, and changes
nothing outside the slice. -/
theorem StablePerm.splice {v xs : Array α} {lo : Nat}
    (hseg : StablePerm lt P ((v.toList.drop lo).take xs.size) xs.toList) :
    StablePerm lt P v.toList (splice v lo xs).toList := by
  have hv : v.toList = v.toList.take lo ++ (v.toList.drop lo).take xs.size ++
      v.toList.drop (lo + xs.size) := by
    rw [List.append_assoc, ← List.drop_drop, List.take_append_drop, List.take_append_drop]
  rw [toList_splice v xs lo]
  conv_lhs => rw [hv]
  exact ((StablePerm.refl _).append hseg).append (StablePerm.refl _)

theorem take_splice {v xs : Array α} {lo : Nat} (h : lo + xs.size ≤ v.size) :
    (splice v lo xs).toList.take lo = v.toList.take lo := by
  rw [toList_splice v xs lo, List.append_assoc, List.take_left' (by simp; omega)]

theorem drop_splice {v xs : Array α} {lo : Nat} (h : lo + xs.size ≤ v.size) :
    (splice v lo xs).toList.drop (lo + xs.size) = v.toList.drop (lo + xs.size) := by
  rw [toList_splice v xs lo, List.drop_left' (by simp; omega)]

theorem seg_splice {v xs : Array α} {lo : Nat} (h : lo + xs.size ≤ v.size) :
    ((splice v lo xs).toList.drop lo).take xs.size = xs.toList := by
  rw [toList_splice v xs lo, List.append_assoc, List.drop_left' (by simp; omega),
    List.take_left' (by simp)]

/-! ## Finding runs -/

/-- "Not less" and "less" are each transitive on the elements ordered. -/
theorem WeakOrder.trans_eq (hw : WeakOrder lt P) (d : Bool) {a b c : α} (ha : P a) (hb : P b)
    (hc : P c) (hab : lt b a = d) (hbc : lt c b = d) : lt c a = d := by
  cases d
  · exact hw.le_trans ha hb hc hab hbc
  · exact hw.lt_trans hc hb ha hbc hab

/-- The elements a run takes after `prev` go on as it does: each not less than the one before,
or each less. -/
theorem runRest_spec (hw : WeakOrder lt P) (d : Bool) {prev : α} {xs : List α}
    (hP : ∀ x ∈ prev :: xs, P x) :
    runRest lt d prev xs ≤ xs.length ∧
      (prev :: xs.take (runRest lt d prev xs)).Pairwise (fun a b => lt b a = d) := by
  induction xs generalizing prev with
  | nil => exact ⟨le_rfl, List.pairwise_singleton _ _⟩
  | cons x rest ih =>
    have hcond : (if d then lt x prev else !lt x prev) = true ↔ lt x prev = d := by
      cases d <;> simp
    by_cases hxp : lt x prev = d
    · -- the run goes on through `x`
      obtain ⟨hlen, hpair⟩ := @ih x (fun y hy => hP y (by simp at hy ⊢; tauto))
      rw [runRest, if_pos (hcond.mpr hxp), Nat.add_comm, List.take_succ_cons]
      refine ⟨by simp; omega, List.Pairwise.cons (fun y hy => ?_) hpair⟩
      rcases List.mem_cons.mp hy with rfl | hy
      · exact hxp
      · exact hw.trans_eq d (hP prev (by simp)) (hP _ (by simp)) (hP y (by
          simp [List.mem_of_mem_take hy])) hxp ((List.pairwise_cons.mp hpair).1 _ hy)
    · rw [runRest, if_neg (fun h => hxp (hcond.mp h))]
      exact ⟨Nat.zero_le _, List.pairwise_singleton _ _⟩

/-- The run at the start of a list is ascending, or strictly descending when it says so. -/
theorem findRun_spec (hw : WeakOrder lt P) {xs : List α} (hP : ∀ x ∈ xs, P x) :
    (findRun lt xs).1 ≤ xs.length ∧ (xs ≠ [] → 0 < (findRun lt xs).1) ∧
      (xs.take (findRun lt xs).1).Pairwise (fun a b => lt b a = (findRun lt xs).2) := by
  match xs, hP with
  | [], _ => exact ⟨le_rfl, by simp, List.Pairwise.nil⟩
  | [a], _ => exact ⟨le_rfl, by simp [findRun], List.pairwise_singleton _ _⟩
  | a :: b :: rest, hP =>
    have hrest : runRest lt (lt b a) b rest ≤ rest.length ∧
        (b :: rest.take (runRest lt (lt b a) b rest)).Pairwise (fun x y => lt y x = lt b a) :=
      runRest_spec hw (lt b a) fun y hy => hP y (by simp at hy ⊢; tauto)
    obtain ⟨hlen, hpair⟩ := hrest
    simp only [findRun]
    refine ⟨by simp; omega, by omega, ?_⟩
    rw [Nat.add_comm, List.take_succ_cons, List.take_succ_cons]
    refine List.Pairwise.cons (fun y hy => ?_) hpair
    rcases List.mem_cons.mp hy with rfl | hy
    · rfl
    · exact hw.trans_eq (lt b a) (hP a (by simp)) (hP b (by simp))
        (hP y (by simp [List.mem_of_mem_take hy])) rfl ((List.pairwise_cons.mp hpair).1 _ hy)

/-! ## Runs on the array -/

/-- The run of `r.len` elements of `v` from `start` is sorted when it says so, and a loop that
sorts eagerly makes sorted runs only. -/
structure RunOk (lt : α → α → Bool) (v : Array α) (eager : Bool) (start : Nat) (r : Run) :
    Prop where
  sorted : r.sorted = true → ((v.toList.drop start).take r.len).Pairwise (fun a b => lt b a = false)
  eager : eager = true → r.sorted = true

theorem RunOk.congr {v v' : Array α} {eager : Bool} {start : Nat} {r : Run}
    (h : RunOk lt v eager start r)
    (hseg : (v'.toList.drop start).take r.len = (v.toList.drop start).take r.len) :
    RunOk lt v' eager start r :=
  ⟨fun hs => hseg ▸ h.sorted hs, h.eager⟩

/-- `v'` is `v` rearranged stably, with nothing outside the elements from `lo` to `hi` moved. -/
structure Rewrites (lt : α → α → Bool) (P : α → Prop) (v v' : Array α) (lo hi : Nat) : Prop where
  size_eq : v'.size = v.size
  stablePerm : StablePerm lt P v.toList v'.toList
  take_eq : v'.toList.take lo = v.toList.take lo
  drop_eq : v'.toList.drop hi = v.toList.drop hi

theorem Rewrites.refl (v : Array α) (lo hi : Nat) : Rewrites lt P v v lo hi :=
  ⟨rfl, StablePerm.refl _, rfl, rfl⟩

/-- A slice sorted stably and put back is a sorted run, with nothing else moved. -/
theorem splice_sortOf {v w : Array α} {lo : Nat} (eager : Bool) (h : lo + w.size ≤ v.size)
    (hsort : SortOf lt P ((v.toList.drop lo).take w.size) w.toList) :
    Rewrites lt P v (splice v lo w) lo (lo + w.size) ∧
      RunOk lt (splice v lo w) eager lo ⟨w.size, true⟩ :=
  ⟨⟨size_splice h, StablePerm.splice hsort.toStablePerm, take_splice h, drop_splice h⟩,
    ⟨fun _ => by rw [seg_splice h]; exact hsort.sorted, fun _ => rfl⟩⟩

/-- When no run found is long enough: the next elements sorted by the small sort, or an
unsorted stretch for a lazy loop. -/
theorem fallback_spec (hw : WeakOrder lt P) {v : Array α} {scan minGood : Nat} (eager : Bool)
    (hP : ∀ x ∈ v.toList, P x) (hscan : scan < v.size) (hmin : 0 < minGood) :
    ∃ v' r, createRun.fallback lt v scan minGood eager (v.size - scan) = some (v', r) ∧
      0 < r.len ∧ scan + r.len ≤ v.size ∧ Rewrites lt P v v' scan (scan + r.len) ∧
      RunOk lt v' eager scan r := by
  cases eager
  · exact ⟨v, ⟨min minGood (v.size - scan), false⟩, rfl, show 0 < min minGood (v.size - scan) by omega,
      show scan + min minGood (v.size - scan) ≤ v.size by omega,
      Rewrites.refl _ _ _, ⟨by simp, by simp⟩⟩
  · obtain ⟨w, hw', hsort⟩ := smallSort_sorts hw (v.extract scan (scan + min 32 (v.size - scan)))
      fun x hx => hP x (by
        rw [toList_extract_eq] at hx
        exact List.mem_of_mem_drop (List.mem_of_mem_take hx))
    have hsize : w.size = min 32 (v.size - scan) := by
      rw [hsort.size_eq, Array.length_toList, Array.size_extract]
      omega
    have hseg : (v.toList.drop scan).take w.size =
        (v.extract scan (scan + min 32 (v.size - scan))).toList := by
      rw [toList_extract_eq, hsize, Nat.add_sub_cancel_left]
    obtain ⟨hrw, hrun⟩ := splice_sortOf true (by omega) (hseg ▸ hsort)
    refine ⟨splice v scan w, ⟨w.size, true⟩, ?_, show 0 < w.size by omega,
      show scan + w.size ≤ v.size by omega, hrw, hrun⟩
    simp [createRun.fallback, hw', hsize]

/-- A new run starts at `scan` and takes at least one element: a run found ascending, or
strictly descending and reversed, when it is long enough, else the fallback. -/
theorem createRun_spec (hw : WeakOrder lt P) {v : Array α} {scan minGood : Nat} {eager : Bool}
    (hP : ∀ x ∈ v.toList, P x) (hscan : scan < v.size) :
    ∃ v' r, createRun lt v scan minGood eager = some (v', r) ∧ 0 < r.len ∧
      scan + r.len ≤ v.size ∧ Rewrites lt P v v' scan (scan + r.len) ∧ RunOk lt v' eager scan r := by
  have hrest : (v.extract scan).toList = v.toList.drop scan := by
    rw [toList_extract_eq, List.take_of_length_le (by simp)]
  have hrestP : ∀ x ∈ v.toList.drop scan, P x := fun x hx => hP x (List.mem_of_mem_drop hx)
  obtain ⟨hlen, hpos, hpair⟩ := findRun_spec hw hrestP
  have hne : v.toList.drop scan ≠ [] := by simp; omega
  unfold createRun
  simp only [hrest]
  by_cases hn : v.size - scan ≥ minGood
  · rw [if_pos hn]
    by_cases hlong : (findRun lt (v.toList.drop scan)).1 ≥ minGood
    · simp only [hlong, if_true]
      -- the run found, reversed when it descends
      set len := (findRun lt (v.toList.drop scan)).1 with hlenDef
      have hsegLen : (v.extract scan (scan + len)).toList = (v.toList.drop scan).take len := by
        rw [toList_extract_eq, Nat.add_sub_cancel_left]
      have hlen' : len ≤ v.size - scan := by simpa using hlen
      set run := if (findRun lt (v.toList.drop scan)).2 = true then
        (v.extract scan (scan + len)).reverse else v.extract scan (scan + len) with hrunDef
      have hsortRun : SortOf lt P ((v.toList.drop scan).take len) run.toList := by
        have hsegP : ∀ x ∈ (v.toList.drop scan).take len, P x :=
          fun x hx => hrestP x (List.mem_of_mem_take hx)
        rw [hrunDef]
        split
        · next hdesc =>
          rw [Array.toList_reverse, hsegLen]
          exact reverse_sortOf hw hsegP (by rw [← hdesc]; exact hpair)
        · next hasc =>
          rw [hsegLen]
          exact ⟨StablePerm.refl _, by simpa [hasc] using hpair⟩
      have hsize : run.size = len := by
        rw [hsortRun.size_eq, List.length_take, List.length_drop, Array.length_toList]
        omega
      obtain ⟨hrw, hrun⟩ := splice_sortOf eager (show scan + run.size ≤ v.size by rw [hsize]; omega)
        (hsize.symm ▸ hsortRun)
      rw [hsize] at hrw hrun
      exact ⟨_, _, rfl, hpos hne, show scan + len ≤ v.size by omega, hrw, hrun⟩
    · simp only [hlong, if_false]
      exact fallback_spec hw eager hP hscan (by have := hpos hne; omega)
  · rw [if_neg hn]
    exact fallback_spec hw eager hP hscan (by omega)

theorem Rewrites.trans {v₁ v₂ v₃ : Array α} {lo hi : Nat} (h₁ : Rewrites lt P v₁ v₂ lo hi)
    (h₂ : Rewrites lt P v₂ v₃ lo hi) : Rewrites lt P v₁ v₃ lo hi :=
  ⟨h₂.size_eq.trans h₁.size_eq, h₁.stablePerm.trans h₂.stablePerm, h₂.take_eq.trans h₁.take_eq,
    h₂.drop_eq.trans h₁.drop_eq⟩

/-- A rewrite inside a slice is one inside any wider slice. -/
theorem Rewrites.widen {v v' : Array α} {lo hi lo' hi' : Nat} (h : Rewrites lt P v v' lo hi)
    (hlo : lo' ≤ lo) (hhi : hi ≤ hi') : Rewrites lt P v v' lo' hi' := by
  refine ⟨h.size_eq, h.stablePerm, ?_, ?_⟩
  · rw [← Nat.min_eq_left hlo, ← List.take_take, h.take_eq, List.take_take]
  · rw [← Nat.add_sub_cancel' hhi, ← List.drop_drop, h.drop_eq, List.drop_drop]

/-! ## Merging runs -/

/-- Merging the two sorted halves of an array on either side of `mid` sorts it stably. -/
theorem merge_sortOf (hw : WeakOrder lt P) {v : Array α} {mid : Nat} (hP : ∀ x ∈ v.toList, P x)
    (hl : (v.toList.take mid).Pairwise (fun a b => lt b a = false))
    (hr : (v.toList.drop mid).Pairwise (fun a b => lt b a = false)) :
    SortOf lt P v.toList (merge lt v mid).toList := by
  have hsplit : v.toList = v.toList.take mid ++ v.toList.drop mid := (List.take_append_drop _ _).symm
  unfold merge
  by_cases hedge : mid = 0 ∨ mid ≥ v.size
  · -- one side is empty, and the other is the whole array, sorted
    have hsorted : v.toList.Pairwise (fun a b => lt b a = false) := by
      rcases hedge with h | h
      · simpa [h] using hr
      · rwa [List.take_of_length_le (by simpa using h)] at hl
    simp only [hedge, Bool.or_eq_true, decide_eq_true_eq, if_true]
    exact ⟨StablePerm.refl _, hsorted⟩
  · have hls : (v.extract 0 mid).toList = v.toList.take mid := by
      rw [toList_extract_eq, List.drop_zero, Nat.sub_zero]
    have hrs : (v.extract mid v.size).toList = v.toList.drop mid := by
      rw [toList_extract_eq, List.take_of_length_le (by simp)]
    have hP' : ∀ x ∈ v.toList.take mid ++ v.toList.drop mid, P x := hsplit ▸ hP
    simp only [Bool.or_eq_true, decide_eq_true_eq, hedge, if_false, hls, hrs]
    split
    · have h := mergeUp_sortOf hw hP' hl hr
      rwa [← hsplit] at h
    · have h := mergeDown_sortOf hw hP' hl hr
      rwa [← hsplit] at h

/-- Two parts of a list, each sorted stably on its own and merged at the length of the first,
sort the list stably. -/
theorem merge_parts_sortOf (hw : WeakOrder lt P) {xs ys : List α} {l r : Array α}
    (hP : ∀ x ∈ xs ++ ys, P x) (hl : SortOf lt P xs l.toList) (hr : SortOf lt P ys r.toList) :
    SortOf lt P (xs ++ ys) (merge lt (l ++ r) xs.length).toList := by
  have hlsize : l.toList.length = xs.length := hl.length_eq
  have hsides : StablePerm lt P (xs ++ ys) (l ++ r).toList := by
    rw [Array.toList_append]
    exact hl.toStablePerm.append hr.toStablePerm
  refine SortOf.of_stablePerm hsides (merge_sortOf hw (hsides.forall_mem hP) ?_ ?_)
  · rw [Array.toList_append, List.take_left' hlsize]
    exact hl.sorted
  · rw [Array.toList_append, List.drop_left' hlsize]
    exact hr.sorted

/-- One side of a merge: kept when its run is sorted, else sorted by the run sort, which only a
lazy loop needs. -/
theorem side_sortOf {sortRun : Array α → Option (Array α)} {x : Array α} {eager sorted : Bool}
    (hP : ∀ a ∈ x.toList, P a) (hsorted : sorted = true → x.toList.Pairwise (fun a b => lt b a = false))
    (heager : eager = true → sorted = true) (hsort : eager = false → Sorts lt P sortRun) :
    ∃ w, (if sorted then some x else sortRun x) = some w ∧ SortOf lt P x.toList w.toList := by
  cases sorted
  · have hlazy : eager = false := by cases eager <;> simp_all
    simpa using hsort hlazy x hP
  · exact ⟨x, rfl, StablePerm.refl _, hsorted rfl⟩

/-- Two runs side by side from `start` merge into one run over both, sorted when either was. -/
theorem mergeRuns_spec (hw : WeakOrder lt P) {sortRun : Array α → Option (Array α)} {eager : Bool}
    (hsort : eager = false → Sorts lt P sortRun) {v : Array α} {start : Nat} {left right : Run}
    (hP : ∀ x ∈ v.toList, P x) (hfit : start + (left.len + right.len) ≤ v.size)
    (hl : RunOk lt v eager start left) (hr : RunOk lt v eager (start + left.len) right) :
    ∃ v' r, mergeRuns lt sortRun v start left right = some (v', r) ∧
      r.len = left.len + right.len ∧ Rewrites lt P v v' start (start + r.len) ∧
      RunOk lt v' eager start r := by
  unfold mergeRuns
  set len := left.len + right.len with hlen
  set seg := v.extract start (start + len) with hsegDef
  have hseg : seg.toList = (v.toList.drop start).take len := by
    rw [hsegDef, toList_extract_eq, Nat.add_sub_cancel_left]
  have hsegP : ∀ x ∈ seg.toList, P x := by
    rw [hseg]
    exact fun x hx => hP x (List.mem_of_mem_drop (List.mem_of_mem_take hx))
  -- the two runs are the two parts of the slice
  have hleft : (seg.extract 0 left.len).toList = (v.toList.drop start).take left.len := by
    rw [toList_extract_eq, hseg, List.drop_zero, Nat.sub_zero, List.take_take,
      Nat.min_eq_left (by omega)]
  have hright : (seg.extract left.len len).toList =
      (v.toList.drop (start + left.len)).take right.len := by
    rw [toList_extract_eq, hseg, List.drop_take, List.drop_drop, List.take_take]
    congr 1
    omega
  have hsplit : seg.toList = (seg.extract 0 left.len).toList ++ (seg.extract left.len len).toList := by
    rw [hleft, hright, hseg, hlen, List.take_add, List.drop_drop]
  by_cases hone : left.sorted = true ∨ right.sorted = true
  · have hlside : ∃ w, (if left.sorted then some (seg.extract 0 left.len)
        else sortRun (seg.extract 0 left.len)) = some w ∧
        SortOf lt P (seg.extract 0 left.len).toList w.toList :=
      side_sortOf (fun x hx => hsegP x (by rw [hsplit]; exact List.mem_append_left _ hx))
        (fun h => hleft ▸ hl.sorted h) hl.eager hsort
    have hrside : ∃ w, (if right.sorted then some (seg.extract left.len len)
        else sortRun (seg.extract left.len len)) = some w ∧
        SortOf lt P (seg.extract left.len len).toList w.toList :=
      side_sortOf (fun x hx => hsegP x (by rw [hsplit]; exact List.mem_append_right _ hx))
        (fun h => hright ▸ hr.sorted h) hr.eager hsort
    obtain ⟨l, hlw, hls⟩ := hlside
    obtain ⟨r, hrw, hrs⟩ := hrside
    have hleftLen : (seg.extract 0 left.len).toList.length = left.len := by
      rw [hleft, List.length_take, List.length_drop, Array.length_toList]
      omega
    have hmerged : SortOf lt P seg.toList (merge lt (l ++ r) left.len).toList := by
      have h := merge_parts_sortOf hw (hsplit ▸ hsegP) hls hrs
      rwa [hleftLen, ← hsplit] at h
    have hmsize : (merge lt (l ++ r) left.len).size = len := by
      rw [hmerged.size_eq, hseg, List.length_take, List.length_drop, Array.length_toList]
      omega
    obtain ⟨hrw', hrun⟩ := splice_sortOf eager (show start + (merge lt (l ++ r) left.len).size ≤ v.size
      by omega) (hmsize.symm ▸ hseg ▸ hmerged)
    rw [hmsize] at hrw' hrun
    refine ⟨_, ⟨len, true⟩, ?_, rfl, hrw', hrun⟩
    rw [if_pos (by simpa using hone), ← hsegDef]
    -- a sorted side is kept as it is, an unsorted one goes through the run sort
    cases hlS : left.sorted <;> cases hrS : right.sorted <;>
      simp only [hlS, hrS, if_true, Bool.false_eq_true, if_false, Option.some.injEq] at hlw hrw <;>
      simp [hlw, hrw]
  · have hlazy : eager = false := by
      cases eager
      · rfl
      · exact absurd (Or.inl (hl.eager rfl)) hone
    refine ⟨v, ⟨len, false⟩, ?_, rfl, Rewrites.refl _ _ _, ⟨by simp, by simp [hlazy]⟩⟩
    obtain ⟨hl', hr'⟩ : left.sorted = false ∧ right.sorted = false := by simpa using hone
    simp [hl', hr']

/-! ## The stack of runs -/

/-- The runs of the stack, the current one first, lie side by side and end at `e`, each as
`RunOk` says; the bottom one is the empty sorted run the loop starts with. -/
inductive Covers (lt : α → α → Bool) (v : Array α) (eager : Bool) : List Run → Nat → Prop
  | bottom : Covers lt v eager [⟨0, true⟩] 0
  | cons {r : Run} {runs : List Run} {e : Nat} :
      Covers lt v eager runs e → RunOk lt v eager e r → Covers lt v eager (r :: runs) (e + r.len)

/-- The runs stay as they are while nothing before their end moves. -/
theorem Covers.congr {v v' : Array α} {eager : Bool} {runs : List Run} {e : Nat}
    (h : Covers lt v eager runs e) (htake : v'.toList.take e = v.toList.take e) :
    Covers lt v' eager runs e := by
  induction h with
  | bottom => exact .bottom
  | @cons r runs e _ hr ih =>
    have htake' : v'.toList.take e = v.toList.take e := by
      have h' := congrArg (List.take e) htake
      rwa [List.take_take, List.take_take, Nat.min_eq_left (by omega)] at h'
    exact .cons (ih htake') (hr.congr (seg_eq_of_take_eq htake (le_refl _)))

/-- With at most the bottom run below it, the current run covers everything up to `e`. -/
theorem Covers.whole {v : Array α} {eager : Bool} {r : Run} {runs : List Run} {e : Nat}
    (h : Covers lt v eager (r :: runs) e) (hlen : runs.length ≤ 1) :
    r.len = e ∧ RunOk lt v eager 0 r := by
  cases h with
  | bottom => exact ⟨rfl, by simp, fun _ => rfl⟩
  | cons hruns hr =>
    cases hruns with
    | bottom => exact ⟨by simp, by simpa using hr⟩
    | @cons _ below _ hbelow _ =>
      obtain rfl : below = [] :=
        List.eq_nil_of_length_eq_zero (by simp only [List.length_cons] at hlen; omega)
      cases hbelow

/-- A run with another below it sits right on top of it. -/
theorem Covers.of_cons {v : Array α} {eager : Bool} {r r' : Run} {runs : List Run} {e : Nat}
    (h : Covers lt v eager (r :: r' :: runs) e) :
    ∃ e', e = e' + r.len ∧ Covers lt v eager (r' :: runs) e' ∧ RunOk lt v eager e' r := by
  cases h with
  | cons h hr => exact ⟨_, rfl, h, hr⟩

/-- Collapsing merges runs from the top of the stack into the current one while the merge tree
asks for it. The runs stay side by side and as `RunOk` says, nothing from `scan` on moves, and a
collapse to depth zero leaves only the bottom run below the current one. -/
theorem collapse_spec (hw : WeakOrder lt P) {sortRun : Array α → Option (Array α)} {eager : Bool}
    (hsort : eager = false → Sorts lt P sortRun) {scan : Nat} (depth : Nat) (stack : List Pending) :
    ∀ {v : Array α} {current : Run}, (∀ x ∈ v.toList, P x) → scan ≤ v.size →
      Covers lt v eager (current :: stack.map (·.run)) scan →
      ∃ v' stack' current',
        collapse lt sortRun scan depth v stack current = some (v', stack', current') ∧
        Rewrites lt P v v' 0 scan ∧ Covers lt v' eager (current' :: stack'.map (·.run)) scan ∧
        (depth = 0 → stack'.length ≤ 1) := by
  -- induction on the stack, one merge taking the top run off it
  induction stack with
  | nil =>
    intro v current _ _ hc
    exact ⟨v, [], current, by simp [collapse], Rewrites.refl _ _ _, hc, by simp⟩
  | cons top tail ih =>
    intro v current hP hscan hc
    cases tail with
    | nil => exact ⟨v, [top], current, by simp [collapse], Rewrites.refl _ _ _, hc, by simp⟩
    | cons below rest =>
      by_cases hdeep : top.depth ≥ depth
      · -- the current run and the top one merge, then the collapse goes on
        simp only [List.map_cons] at hc
        obtain ⟨e, he, htop, hcur⟩ := hc.of_cons
        obtain ⟨start, hstart, hbelow, htopOk⟩ := htop.of_cons
        obtain ⟨v₁, merged, hmerge, hlen, hrw, hok⟩ :=
          mergeRuns_spec hw hsort hP (by omega) htopOk (hstart ▸ hcur)
        have hP₁ := hrw.stablePerm.forall_mem hP
        have hc₁ : Covers lt v₁ eager (merged :: below.run :: rest.map (·.run)) scan := by
          have h := Covers.cons (hbelow.congr hrw.take_eq) hok
          rwa [hlen, ← Nat.add_assoc, ← hstart, ← he] at h
        obtain ⟨v', stack', current', hcol, hrw', hc', hzero⟩ :=
          ih hP₁ (by rw [hrw.size_eq]; omega) hc₁
        refine ⟨v', stack', current', ?_,
          (hrw.widen (Nat.zero_le _) (by omega)).trans hrw', hc', hzero⟩
        rw [collapse, if_pos hdeep, show scan - (top.run.len + current.len) = start by omega]
        simp [hmerge, hcol]
      · refine ⟨v, top :: below :: rest, current, by simp [collapse, hdeep], Rewrites.refl _ _ _,
          hc, fun h => absurd (Nat.zero_le _) (h ▸ hdeep)⟩

/-! ## The loop -/

/-- The loop ends with one run over the whole array, a stable rearrangement of the array it
started with; each turn takes a run of at least one element, so it needs more fuel than there
are elements left. -/
theorem driftLoop_spec (hw : WeakOrder lt P) {sortRun : Array α → Option (Array α)} {eager : Bool}
    (hsort : eager = false → Sorts lt P sortRun) (minGood scale fuel : Nat) :
    ∀ {v : Array α} {stack : List Pending} {current : Run} {scan : Nat},
      (∀ x ∈ v.toList, P x) → scan ≤ v.size → v.size - scan < fuel →
      Covers lt v eager (current :: stack.map (·.run)) scan →
      ∃ v' last, driftLoop lt sortRun minGood scale eager fuel v stack current scan = some (v', last) ∧
        StablePerm lt P v.toList v'.toList ∧ last.len = v.size ∧ RunOk lt v' eager 0 last := by
  induction fuel with
  | zero => intro _ _ _ _ _ _ hfuel; omega
  | succ fuel ih =>
    intro v stack current scan hP hscan hfuel hc
    by_cases hmore : scan < v.size
    · -- a new run, a collapse, and the loop goes on from the end of the new run
      obtain ⟨v₁, next, hcreate, hpos, hfit, hrw₁, hnext⟩ :=
        @createRun_spec α lt P hw v scan minGood eager hP hmore
      obtain ⟨v₂, stack', current', hcol, hrw₂, hc₂, -⟩ :=
        collapse_spec hw hsort (mergeDepth (scan - current.len) scan (scan + next.len) scale)
          stack (hrw₁.stablePerm.forall_mem hP) (by rw [hrw₁.size_eq]; omega)
          (hc.congr hrw₁.take_eq)
      have hnext₂ : RunOk lt v₂ eager scan next :=
        hnext.congr (by rw [hrw₂.drop_eq])
      have hsize : v₂.size = v.size := hrw₂.size_eq.trans hrw₁.size_eq
      obtain ⟨v', last, hloop, hperm, hlen, hlast⟩ :=
        @ih v₂ (⟨current', mergeDepth (scan - current.len) scan (scan + next.len) scale⟩ :: stack')
          next (scan + next.len) (hrw₂.stablePerm.forall_mem (hrw₁.stablePerm.forall_mem hP))
          (by omega) (by omega) (Covers.cons hc₂ hnext₂)
      refine ⟨v', last, ?_, (hrw₁.stablePerm.trans hrw₂.stablePerm).trans hperm,
        hlen.trans hsize, hlast⟩
      simp [driftLoop, hmore, hcreate, hcol, Nat.not_le.mpr hmore, hloop]
    · -- the last turn: a collapse to depth zero leaves one run over everything
      obtain ⟨v', stack', current', hcol, hrw, hc', hzero⟩ :=
        collapse_spec hw hsort 0 stack hP hscan hc
      obtain ⟨hlen, hrun⟩ := hc'.whole (by simpa using hzero rfl)
      refine ⟨v', current', ?_, hrw.stablePerm, by omega, hrun⟩
      simp [driftLoop, hmore, hcol, Nat.not_lt.mp hmore]

/-- Driftsort sorts stably, given a run sort that sorts stably whenever the loop is lazy. -/
theorem driftsort_sorts (hw : WeakOrder lt P) (eager : Bool) {sortRun : Array α → Option (Array α)}
    (hsort : eager = false → Sorts lt P sortRun) :
    Sorts lt P (fun v => driftsort lt v eager sortRun) := by
  intro v hP
  unfold driftsort
  by_cases hsmall : v.size < 2
  · exact ⟨v, by simp [hsmall], SortOf.of_length_le_one (by simp; omega)⟩
  · have hstart : Covers lt v eager (⟨0, true⟩ :: ([] : List Pending).map (·.run)) 0 :=
      Covers.bottom
    obtain ⟨v', last, hloop, hperm, hlen, hrun⟩ :=
      driftLoop_spec hw hsort (if v.size ≤ 4096 then min (v.size - v.size / 2) 64
        else sqrtApprox v.size) (scaleFactor v.size) (v.size + 2) hP (Nat.zero_le _) (by omega)
        hstart
    have hall : (v'.toList.drop 0).take last.len = v'.toList := by
      rw [List.drop_zero, List.take_of_length_le (by simp [hlen, hperm.length_eq])]
    cases hs : last.sorted
    · -- a lazy loop leaves the run unsorted, for the run sort
      have hlazy : eager = false := by
        cases eager
        · rfl
        · exact absurd (hrun.eager rfl) (by simp [hs])
      obtain ⟨w, hsw, hsortw⟩ := hsort hlazy v' (hperm.forall_mem hP)
      exact ⟨w, by simp [hsmall, hloop, hs, hsw], SortOf.of_stablePerm hperm hsortw⟩
    · exact ⟨v', by simp [hsmall, hloop, hs], hperm, hall ▸ hrun.sorted hs⟩

end MapReduce.Driftsort
