import MapReduce.Data.KeyOrder
import Mathlib

/-! # Merging by canonical key

A fan-out's results are merged by the canonical text of their keys, not by the key order, so `1`
and `1.0`, or `0.0` and `-0.0`, stay apart here. Merging makes one group per text, in the order in
which each text first appears, and a group keeps the first key written with its text and every
value under that text, in input order (`mergeByKey_eq`). So no value is lost, and merging a
concatenation extends the groups of its first part and appends the groups that only its second
part opens (`mergeByKey_append`). -/

namespace MapReduce

namespace KeyOrder

/-- The canonical text of a pair's key, under which pairs are merged. -/
def keyText (p : Pair) : String := Json.write p.1

/-- The canonical texts of the keys of pairs, each once, in order of first appearance. -/
def keyTexts (ps : List Pair) : List String := (ps.map keyText).eraseDups

/-- The values of the pairs whose key has a given text, in order. -/
def valuesAt (ps : List Pair) (t : String) : List Json := (ps.filter (keyText · == t)).map (·.2)

/-- The group of a text: the first key written with it and every value under it. -/
def groupOf (ps : List Pair) (t : String) : Group :=
  ⟨((ps.find? (keyText · == t)).map (·.1)).getD .null, valuesAt ps t⟩

/-! ## Texts and values -/

theorem mem_keyTexts {ps : List Pair} {t : String} : t ∈ keyTexts ps ↔ ∃ p ∈ ps, keyText p = t := by
  simp [keyTexts, List.mem_eraseDups]

/-- The texts of a concatenation: those of its first part, then those that only its second part
brings, in their order. -/
theorem keyTexts_append (ps qs : List Pair) :
    keyTexts (ps ++ qs) = keyTexts ps ++ keyTexts (qs.filter fun q => keyText q ∉ keyTexts ps) := by
  simp only [keyTexts, List.map_append, List.eraseDups_append, List.removeAll, List.filter_map]
  congr 3
  apply List.filter_congr
  intro q _
  have hmem : keyText q ∈ (ps.map keyText).eraseDups ↔ keyText q ∈ ps.map keyText := List.mem_eraseDups
  by_cases hq : keyText q ∈ ps.map keyText
  · simp [hq, hmem.mpr hq]
  · simp [hq, mt hmem.mp hq]

@[simp] theorem keyTexts_nil : keyTexts [] = [] := rfl

@[simp] theorem keyTexts_singleton (p : Pair) : keyTexts [p] = [keyText p] := by
  simp [keyTexts, List.eraseDups_cons]

theorem keyTexts_append_singleton (ps : List Pair) (p : Pair) :
    keyTexts (ps ++ [p]) = if keyText p ∈ keyTexts ps then keyTexts ps else keyTexts ps ++ [keyText p] := by
  rw [keyTexts_append]
  by_cases h : keyText p ∈ keyTexts ps <;> simp [h]

theorem nodup_keyTexts (ps : List Pair) : (keyTexts ps).Nodup := by
  induction ps using List.reverseRecOn with
  | nil => simp
  | append_singleton ps p ih =>
    rw [keyTexts_append_singleton]
    by_cases hin : keyText p ∈ keyTexts ps
    · rw [if_pos hin]
      exact ih
    · rw [if_neg hin]
      refine List.nodup_append.mpr ⟨ih, List.nodup_singleton _, ?_⟩
      intro a ha b hb hab
      rw [List.mem_singleton] at hb
      exact hin (hb ▸ hab ▸ ha)

@[simp] theorem valuesAt_append (ps qs : List Pair) (t : String) :
    valuesAt (ps ++ qs) t = valuesAt ps t ++ valuesAt qs t := by
  simp [valuesAt]

theorem valuesAt_singleton (p : Pair) (t : String) :
    valuesAt [p] t = if keyText p = t then [p.2] else [] := by
  by_cases h : keyText p = t <;> simp [valuesAt, h]

theorem valuesAt_of_not_mem {ps : List Pair} {t : String} (ht : t ∉ keyTexts ps) : valuesAt ps t = [] := by
  simp only [valuesAt, List.map_eq_nil_iff, List.filter_eq_nil_iff, beq_iff_eq]
  exact fun p hp hpt => ht (mem_keyTexts.mpr ⟨p, hp, hpt⟩)

/-! ## Groups -/

/-- The group of a text that appears is keyed by the first key written with it. -/
theorem find?_groupOf {ps : List Pair} {t : String} (ht : t ∈ keyTexts ps) :
    (ps.find? (keyText · == t)).map (·.1) = some (groupOf ps t).key ∧
      Json.write (groupOf ps t).key = t := by
  obtain ⟨p, hp, hpt⟩ := mem_keyTexts.mp ht
  obtain ⟨q, hq⟩ : ∃ q, ps.find? (keyText · == t) = some q :=
    Option.isSome_iff_exists.mp (List.find?_isSome.mpr ⟨p, hp, by simp [hpt]⟩)
  have hqt : Json.write q.1 = t := by simpa [keyText] using List.find?_some hq
  have hkey : (groupOf ps t).key = q.1 := by simp [groupOf, hq]
  exact ⟨by rw [hkey]; simp [hq], by rw [hkey]; exact hqt⟩

/-- Pairs that follow a text's first appearance only add values to its group. -/
theorem groupOf_append_of_mem {ps : List Pair} {t : String} (ht : t ∈ keyTexts ps) (qs : List Pair) :
    groupOf (ps ++ qs) t = ⟨(groupOf ps t).key, valuesAt ps t ++ valuesAt qs t⟩ := by
  obtain ⟨p, hp, hpt⟩ := mem_keyTexts.mp ht
  obtain ⟨q, hq⟩ : ∃ q, ps.find? (keyText · == t) = some q :=
    Option.isSome_iff_exists.mp (List.find?_isSome.mpr ⟨p, hp, by simp [hpt]⟩)
  simp [groupOf, hq]

/-- Pairs before a text's first appearance leave its group alone. -/
theorem groupOf_append_of_not_mem {ps : List Pair} {t : String} (ht : t ∉ keyTexts ps) (qs : List Pair) :
    groupOf (ps ++ qs) t = groupOf qs t := by
  have hnone : ps.find? (keyText · == t) = none := by
    simp only [List.find?_eq_none, beq_iff_eq]
    exact fun p hp hpt => ht (mem_keyTexts.mpr ⟨p, hp, hpt⟩)
  simp [groupOf, hnone, valuesAt_of_not_mem ht]

/-- Dropping pairs of other texts leaves a text's group alone. -/
theorem groupOf_filter {ps : List Pair} {t : String} {P : Pair → Bool}
    (hP : ∀ q, keyText q = t → P q = true) : groupOf (ps.filter P) t = groupOf ps t := by
  have hfind : ∀ q, decide (P q = true ∧ (keyText q == t) = true) = (keyText q == t) := by
    intro q
    by_cases hq : keyText q = t <;> simp [hq, hP q]
  have hvals : ∀ q, ((keyText q == t) && P q) = (keyText q == t) := by
    intro q
    by_cases hq : keyText q = t <;> simp [hq, hP q]
  simp only [groupOf, valuesAt, List.find?_filter, List.filter_filter, hfind, hvals]

/-! ## The fold -/

/-- One more pair adds its value to the group of its text, or opens a group for a new text. -/
theorem addByText_merged (ps : List Pair) (p : Pair) :
    addByText ((keyTexts ps).map fun t => (t, groupOf ps t)) p =
      (keyTexts (ps ++ [p])).map fun t => (t, groupOf (ps ++ [p]) t) := by
  have hany : (((keyTexts ps).map fun t => (t, groupOf ps t)).any (·.1 == Json.write p.1)) = true ↔
      keyText p ∈ keyTexts ps := by
    simp [keyText, List.any_map, Function.comp_def, List.any_beq']
  dsimp only [addByText]
  rw [keyTexts_append_singleton]
  by_cases hin : keyText p ∈ keyTexts ps
  · -- the group of the pair's text grows by its value, every other group stays
    rw [if_pos (hany.mpr hin), if_pos hin, List.map_map]
    apply List.map_congr_left
    intro s hs
    rw [groupOf_append_of_mem hs, valuesAt_singleton]
    by_cases hsp : s = keyText p
    · subst hsp
      simp [groupOf, keyText]
    · have hps : keyText p ≠ s := Ne.symm hsp
      simp [hps, groupOf, show s ≠ Json.write p.1 from hsp]
  · -- a new text opens a group at the end
    rw [if_neg (mt hany.mp hin), if_neg hin, List.map_append, List.map_cons, List.map_nil]
    congr 1
    · apply List.map_congr_left
      intro s hs
      have hps : keyText p ≠ s := fun h => hin (h ▸ hs)
      rw [groupOf_append_of_mem hs, valuesAt_singleton, if_neg hps]
      simp [groupOf]
    · rw [groupOf_append_of_not_mem hin]
      simp [groupOf, valuesAt, keyText]

/-- Folding pairs into groups makes the group of every text, in order of first appearance. -/
theorem foldl_addByText_eq (ps : List Pair) :
    ps.foldl addByText [] = (keyTexts ps).map fun t => (t, groupOf ps t) := by
  induction ps using List.reverseRecOn with
  | nil => rfl
  | append_singleton ps p ih =>
    rw [List.foldl_append, ih, List.foldl_cons, List.foldl_nil]
    exact addByText_merged ps p

/-- Merging gives the group of every canonical text, in order of first appearance. -/
theorem mergeByKey_eq (ps : List Pair) : mergeByKey ps = (keyTexts ps).map (groupOf ps) := by
  simp [mergeByKey, foldl_addByText_eq]

/-! ## Counting and concatenating -/

/-- Summed over distinct texts that cover every pair, the values under each text count the
pairs. -/
theorem sum_length_valuesAt {ts : List String} (hnd : ts.Nodup) :
    ∀ ps : List Pair, (∀ p ∈ ps, keyText p ∈ ts) →
      (ts.map fun t => (valuesAt ps t).length).sum = ps.length := by
  induction ts with
  | nil =>
    intro ps hcover
    cases ps with
    | nil => rfl
    | cons p _ => exact absurd (hcover p List.mem_cons_self) List.not_mem_nil
  | cons t ts ih =>
    intro ps hcover
    obtain ⟨htn, hnd'⟩ := List.nodup_cons.mp hnd
    let rest := ps.filter fun p => !(keyText p == t)
    have hrest : ∀ u ∈ ts, valuesAt ps u = valuesAt rest u := by
      intro u hu
      have hut : u ≠ t := fun h => htn (h ▸ hu)
      simp only [valuesAt, rest, List.filter_filter]
      congr 1
      apply List.filter_congr
      intro p _
      by_cases hp : keyText p = u <;> simp [hp, hut]
    have hcover' : ∀ p ∈ rest, keyText p ∈ ts := by
      intro p hp
      obtain ⟨hps, hpt⟩ := List.mem_filter.mp hp
      have hne : keyText p ≠ t := by simpa using hpt
      exact (List.mem_cons.mp (hcover p hps)).resolve_left hne
    calc ((t :: ts).map fun u => (valuesAt ps u).length).sum
        = (valuesAt ps t).length + (ts.map fun u => (valuesAt rest u).length).sum := by
          simp only [List.map_cons, List.sum_cons]
          rw [List.map_congr_left fun u hu => congrArg List.length (hrest u hu)]
      _ = (valuesAt ps t).length + rest.length := by rw [ih hnd' rest hcover']
      _ = ps.length := by
          rw [valuesAt, List.length_map]
          exact (List.length_eq_length_filter_add _).symm

/-- Merging a concatenation extends the groups of its first part with the values its second part
has under their texts, then appends the groups of the texts that only the second part brings. -/
theorem mergeByKey_append (xs ys : List Pair) :
    mergeByKey (xs ++ ys) =
      (mergeByKey xs).map (fun g => { g with values := g.values ++ valuesAt ys (Json.write g.key) }) ++
        mergeByKey (ys.filter fun q => keyText q ∉ keyTexts xs) := by
  rw [mergeByKey_eq, mergeByKey_eq, mergeByKey_eq, keyTexts_append, List.map_append, List.map_map]
  congr 1
  · apply List.map_congr_left
    intro t ht
    rw [groupOf_append_of_mem ht, Function.comp_apply, (find?_groupOf ht).2]
    rfl
  · apply List.map_congr_left
    intro t ht
    obtain ⟨q, hq, hqt⟩ := mem_keyTexts.mp ht
    have hnew : t ∉ keyTexts xs := by
      rw [← hqt]
      simpa using (List.mem_filter.mp hq).2
    rw [groupOf_append_of_not_mem hnew, groupOf_filter]
    intro q' hq'
    simpa [hq'] using hnew

/-- Merging by key groups by canonical text in order of first appearance: the groups' key texts
are the distinct texts of the input's keys in the order each first appears; each group is keyed
by the first key with its text and holds every value under that text, in input order; no value
is lost; and merging a concatenation extends the groups of its first part by the matching values
of its second part, then appends the groups that only the second part opens, in order. -/
theorem mergeByKey_groups_in_first_appearance_order (ps xs ys : List Pair) :
    (mergeByKey ps).map (fun g => Json.write g.key) = (ps.map keyText).eraseDups ∧
    (∀ g ∈ mergeByKey ps, (ps.find? (keyText · == Json.write g.key)).map (·.1) = some g.key ∧
      g.values = (ps.filter (keyText · == Json.write g.key)).map (·.2)) ∧
    ((mergeByKey ps).map (·.values.length)).sum = ps.length ∧
    mergeByKey (xs ++ ys) =
      (mergeByKey xs).map (fun g => { g with values := g.values ++ valuesAt ys (Json.write g.key) }) ++
        mergeByKey (ys.filter fun q => keyText q ∉ keyTexts xs) := by
  refine ⟨?_, ?_, ?_, mergeByKey_append xs ys⟩
  · rw [mergeByKey_eq, List.map_map]
    exact (List.map_congr_left fun t ht => (find?_groupOf ht).2).trans (List.map_id _)
  · intro g hg
    rw [mergeByKey_eq, List.mem_map] at hg
    obtain ⟨t, ht, rfl⟩ := hg
    rw [(find?_groupOf ht).2]
    exact ⟨(find?_groupOf ht).1, rfl⟩
  · rw [mergeByKey_eq, List.map_map]
    exact sum_length_valuesAt (nodup_keyTexts ps) ps fun p hp => mem_keyTexts.mpr ⟨p, hp, rfl⟩

end KeyOrder

end MapReduce
