import MapReduce.Proofs.Data.KeyOrder
import MapReduce.Proofs.Data.StableSort
import Mathlib

/-! # Grouping by key

The default combination sorts the pairs by key and then folds them into groups, comparing each
pair with the first key of the group being built, not with the pair before it. So the groups are
the maximal runs of pairs whose keys equal the first key of their run, whatever the order; only
when the sorted keys are ordered transitively, as exact keys are, do the keys of the groups
strictly increase. On exact keys the sort is a stable sort, at every length. -/

namespace MapReduce

namespace KeyOrder

open Json

/-! ## Runs -/

/-- How groups cut a list of pairs: each group takes a run of consecutive pairs whose keys all
equal the run's first key, keeps that key and the run's values in order, and the run is
maximal: the key of the pair after it is not equal to the group's key. -/
inductive Runs : List Pair → List Group → Prop
  | nil : Runs [] []
  | cons {k v : Json} {run rest : List Pair} {gs : List Group}
      (same : ∀ p ∈ run, compareKeys k p.1 = .eq)
      (next : ∀ p ∈ rest.head?, compareKeys k p.1 ≠ .eq)
      (tail : Runs rest gs) :
      Runs ((k, v) :: (run ++ rest)) (⟨k, v :: run.map (·.2)⟩ :: gs)

namespace Runs

theorem flatMap_values {ps : List Pair} {gs : List Group} (h : Runs ps gs) :
    gs.flatMap (·.values) = ps.map (·.2) := by
  induction h with
  | nil => rfl
  | cons _ _ _ ih => simp [ih]

theorem key_mem {ps : List Pair} {gs : List Group} (h : Runs ps gs) :
    ∀ g ∈ gs, ∃ p ∈ ps, p.1 = g.key := by
  induction h with
  | nil => simp
  | cons _ _ _ ih =>
    rintro g (_ | ⟨_, hg⟩)
    · exact ⟨_, List.mem_cons_self .., rfl⟩
    · obtain ⟨p, hp, hk⟩ := ih g hg
      exact ⟨p, by simp [hp], hk⟩

/-- Over pairs sorted by exact keys, the key of each group is less than those of the groups after
it. A later group's key equal to this one would, by transitivity, make the first pair after the
run equal to it too, and the run would not have stopped there. -/
theorem keys_lt {ps : List Pair} {gs : List Group} (h : Runs ps gs)
    (hs : ps.Pairwise (fun p q => compareKeys p.1 q.1 ≠ .gt)) (he : ∀ p ∈ ps, ExactKey p.1) :
    gs.Pairwise (fun g g' => compareKeys g.key g'.key = .lt) := by
  induction h with
  | nil => exact List.Pairwise.nil
  | @cons k v run rest gs same next tail ih =>
    have hs' := List.pairwise_cons.mp hs
    have hrest := (List.pairwise_append.mp hs'.2).2.1
    refine List.Pairwise.cons ?_ (ih hrest fun p hp => he p (by simp [hp]))
    intro g hg
    obtain ⟨q, hq, hqg⟩ := tail.key_mem g hg
    show compareKeys k g.key = .lt
    rw [← hqg]
    obtain ⟨r, rest', rfl⟩ := List.exists_cons_of_ne_nil (List.ne_nil_of_mem hq)
    have hkr : compareKeys k r.1 ≠ .gt := hs'.1 r (by simp)
    have hkq : compareKeys k q.1 ≠ .gt := hs'.1 q (by simp [hq])
    have hrq : compareKeys r.1 q.1 ≠ .gt := by
      rcases List.mem_cons.mp hq with rfl | hq'
      · rw [compareKeys_refl]
        decide
      · exact List.rel_of_pairwise_cons hrest hq'
    have hne : compareKeys k q.1 ≠ .eq := by
      intro hkq_eq
      have hqk : compareKeys q.1 k ≠ .gt := by
        rw [compareKeys_swap, hkq_eq]
        decide
      have hrk := compareKeys_trans (he r (by simp)) (he q (by simp [hq])) (he (k, v) (by simp))
        hrq hqk
      exact next r rfl (compareKeys_eq_of_le_of_le hkr hrk)
    cases hc : compareKeys k q.1 with
    | lt => rfl
    | eq => exact absurd hc hne
    | gt => exact absurd hc hkq

end Runs

/-! ## The fold into groups -/

/-- The groups the fold builds from an open group over the pairs still to come. -/
def groupFrom (g : Group) : List Pair → List Group
  | [] => [g]
  | p :: ps =>
    if compareKeys g.key p.1 == .eq then groupFrom { g with values := g.values ++ [p.2] } ps
    else g :: groupFrom ⟨p.1, [p.2]⟩ ps

/-- The fold, given the groups built so far reversed with the open one first, ends with the
closed groups followed by those built from the open one. -/
theorem foldl_addToRuns (g : Group) (done : List Group) (ps : List Pair) :
    (ps.foldl addToRuns (g :: done)).reverse = done.reverse ++ groupFrom g ps := by
  induction ps generalizing g done with
  | nil => simp [groupFrom]
  | cons p ps ih =>
    simp only [List.foldl_cons, addToRuns, groupFrom]
    split
    · exact ih _ done
    · rw [ih _ (g :: done)]
      simp

/-- From an open group of key `k`, the groups take a run of pairs equal to `k` into the open
group and cut the rest into runs. -/
theorem groupFrom_runs (k : Json) (ps : List Pair) (vs : List Json) :
    ∃ run rest gs, ps = run ++ rest ∧ (∀ p ∈ run, compareKeys k p.1 = .eq) ∧
      (∀ p ∈ rest.head?, compareKeys k p.1 ≠ .eq) ∧ Runs rest gs ∧
      groupFrom ⟨k, vs⟩ ps = ⟨k, vs ++ run.map (·.2)⟩ :: gs := by
  induction ps generalizing k vs with
  | nil => exact ⟨[], [], [], rfl, by simp, by simp, .nil, by simp [groupFrom]⟩
  | cons p ps ih =>
    by_cases hp : compareKeys k p.1 = .eq
    · -- the pair joins the open group
      obtain ⟨run, rest, gs, hps, same, next, hr, hg⟩ := ih k (vs ++ [p.2])
      refine ⟨p :: run, rest, gs, by simp [hps], ?_, next, hr, ?_⟩
      · simpa [hp] using same
      · simp [groupFrom, hp, hg]
    · -- the pair closes the open group and opens the next
      obtain ⟨run, rest, gs, hps, same, next, hr, hg⟩ := ih p.1 [p.2]
      refine ⟨[], p :: ps, ⟨p.1, p.2 :: run.map (·.2)⟩ :: gs, rfl, by simp, by simpa using hp,
        ?_, ?_⟩
      · rw [hps]
        exact Runs.cons same next hr
      · simp [groupFrom, hp, hg]

/-- The fold cuts every list of pairs into its runs. -/
theorem runs_foldl_addToRuns (ps : List Pair) : Runs ps (ps.foldl addToRuns []).reverse := by
  cases ps with
  | nil => exact .nil
  | cons p ps =>
    obtain ⟨k, v⟩ := p
    obtain ⟨run, rest, gs, rfl, same, next, hr, hg⟩ := groupFrom_runs k ps [v]
    have hfold : ((run ++ rest).foldl addToRuns [⟨k, [v]⟩]).reverse =
        groupFrom ⟨k, [v]⟩ (run ++ rest) :=
      foldl_addToRuns _ [] _
    simp only [List.foldl_cons, addToRuns, hfold, hg, List.singleton_append]
    exact Runs.cons same next hr

/-! ## Sorting by key

On exact keys the key order is a total preorder, so the stable sort sorts by it stably at every
length. -/

section SortBy

variable {α : Type} (key : α → Json)

/-- "Not less" by key is "not greater" the other way round. -/
theorem compareKeys_beq_lt_eq_false {x y : Json} :
    (compareKeys y x == .lt) = false ↔ compareKeys x y ≠ .gt := by
  rw [compareKeys_swap x y]
  cases compareKeys x y <;> decide

theorem weakOrder_key :
    Driftsort.WeakOrder (fun a b => compareKeys (key a) (key b) == .lt) (fun x => ExactKey (key x)) where
  asymm {a b} _ _ h := by
    rw [compareKeys_swap (key a) (key b), (beq_iff_eq.mp h : compareKeys (key a) (key b) = .lt)]
    rfl
  le_trans ha hb hc hab hbc := compareKeys_beq_lt_eq_false.mpr
    (compareKeys_trans ha hb hc (compareKeys_beq_lt_eq_false.mp hab)
      (compareKeys_beq_lt_eq_false.mp hbc))

/-- Two elements are equal for the sort when their keys compare equal. -/
theorem same_key (k y : α) :
    Driftsort.same (fun a b => compareKeys (key a) (key b) == .lt) k y =
      (compareKeys (key y) (key k) == .eq) := by
  simp only [Driftsort.same]
  rw [compareKeys_swap (key y) (key k)]
  cases compareKeys (key y) (key k) <;> rfl

/-- Sorting by exact keys gives a stable sort of the list, whatever its length. -/
theorem sortBy_sortOf {xs : List α} (hxs : ∀ x ∈ xs, ExactKey (key x)) :
    ∃ ys, sortBy key xs = some ys ∧
      Driftsort.SortOf (fun a b => compareKeys (key a) (key b) == .lt) (fun x => ExactKey (key x))
        xs ys := by
  obtain ⟨w, hw, hsort⟩ :=
    Driftsort.stableSort_sorts (weakOrder_key key) xs.toArray (by simpa using hxs)
  rw [List.toList_toArray] at hsort
  exact ⟨w.toList, by simp [sortBy, hw], hsort⟩

end SortBy

/-! ## The default combination -/

/-- The pairs `ps` are `pairs` sorted stably by exact key: the same pairs ordered by key, those of
each key in the order they came in. -/
structure SortedStably (pairs ps : List Pair) : Prop where
  perm : ps.Perm pairs
  sorted : ps.Pairwise (fun p q => compareKeys p.1 q.1 ≠ .gt)
  stable : ∀ k, ExactKey k →
    ps.filter (fun p => compareKeys p.1 k == .eq) = pairs.filter (fun p => compareKeys p.1 k == .eq)

theorem groupByKey_runs {pairs : List Pair} {gs : List Group} (h : groupByKey pairs = some gs) :
    ∃ ps, sortBy (·.1) pairs = some ps ∧ Runs ps gs := by
  unfold groupByKey at h
  obtain ⟨ps, hps, rfl⟩ := Option.map_eq_some_iff.mp h
  exact ⟨ps, hps, runs_foldl_addToRuns ps⟩

theorem sortBy_sortedStably {pairs : List Pair} (he : ∀ p ∈ pairs, ExactKey p.1) :
    ∃ ps, sortBy (·.1) pairs = some ps ∧ SortedStably pairs ps := by
  obtain ⟨ps, hps, hsort⟩ := sortBy_sortOf (fun p : Pair => p.1) he
  refine ⟨ps, hps, hsort.perm, hsort.sorted.imp compareKeys_beq_lt_eq_false.mp, fun k hk => ?_⟩
  -- the pairs of key `k` are the class of any pair with that key
  have hclass : Driftsort.same (fun a b : Pair => compareKeys a.1 b.1 == .lt) (k, k) =
      fun p => compareKeys p.1 k == .eq :=
    funext fun p => same_key (fun p : Pair => p.1) (k, k) p
  have h := hsort.filter_eq (k, k) hk
  rwa [hclass] at h

/-- The default combination cuts the sorted pairs into runs of equal keys, each group keeping the
first key of its run and the run's values in order, so that the groups' values are the sorted
values. Pairs with exact keys, however many, are sorted stably, and then the keys of the
groups strictly increase. -/
theorem groupByKey_merges_sorted_runs (pairs : List Pair) :
    (∀ gs, groupByKey pairs = some gs → ∃ ps, sortBy (·.1) pairs = some ps ∧ Runs ps gs ∧
      gs.flatMap (·.values) = ps.map (·.2)) ∧
    ((∀ p ∈ pairs, ExactKey p.1) →
      ∃ ps gs, sortBy (·.1) pairs = some ps ∧ SortedStably pairs ps ∧
        groupByKey pairs = some gs ∧ Runs ps gs ∧
        gs.Pairwise (fun g g' => compareKeys g.key g'.key = .lt)) := by
  refine ⟨fun gs h => ?_, fun he => ?_⟩
  · obtain ⟨ps, hps, hr⟩ := groupByKey_runs h
    exact ⟨ps, hps, hr, hr.flatMap_values⟩
  · obtain ⟨ps, hsort, hstable⟩ := sortBy_sortedStably he
    refine ⟨_, _, hsort, hstable, by simp [groupByKey, hsort], runs_foldl_addToRuns _, ?_⟩
    refine (runs_foldl_addToRuns _).keys_lt hstable.sorted fun p hp => he p ?_
    exact hstable.perm.mem_iff.mp hp

/-- Thirty pairs with the keys `0, -1, …, -29`, more than insertion sort takes, come out as
thirty groups of increasing keys. -/
theorem groupByKey_thirty_descending_keys_increase :
    ∃ gs, groupByKey ((List.range 30).map fun i : Nat =>
        ((.num (.int (-(i : Int))) : Json), (.str "v" : Json))) = some gs ∧
      gs.Pairwise (fun g g' => compareKeys g.key g'.key = .lt) := by
  have he : ∀ p ∈ (List.range 30).map (fun i : Nat =>
      ((.num (.int (-(i : Int))) : Json), (.str "v" : Json))), ExactKey p.1 := by
    intro p hp
    obtain ⟨i, -, rfl⟩ := List.mem_map.mp hp
    exact .num (by simp only [Number.toInt64?]; split <;> simp_all; omega)
  obtain ⟨_, gs, _, _, hg, _, hlt⟩ := (groupByKey_merges_sorted_runs _).2 he
  exact ⟨gs, hg, hlt⟩

/-- Across the exact and the binary64 paths the keys of the groups need not increase: `2 ^ 53 + 1`
and the float `2 ^ 53` make one group, and `2 ^ 53`, equal to the float but less than `2 ^ 53 + 1`,
a second one after it. -/
theorem groupByKey_keys_not_increasing_across_paths :
    let pairs : List Pair := [(.num (.int 9007199254740993), .str "a"),
      (.num (.float ⟨false, 4503599627370496, 1⟩), .str "b"),
      (.num (.int 9007199254740992), .str "c")]
    (groupByKey pairs).isSome ∧
      ∀ gs ∈ groupByKey pairs, ¬ gs.Pairwise (fun g g' => compareKeys g.key g'.key = .lt) := by
  decide

end KeyOrder

end MapReduce
