import MapReduce.Proofs.Kv.Versions
import MapReduce.Proofs.Engine.Admin
import Mathlib

/-! # Listing children by a range scan

The in-memory store keeps its nodes in an ordered map, and lists the children of a key without
reading every node: it starts at the key's path followed by `/`, takes nodes while their paths start
with it, and keeps those whose name after it holds no `/` (`scanChildren`). In the order of texts,
which compares characters one by one, the texts that start with a given text form one interval
that begins at that text: a text that sorts before it cannot start with it, and a text that sorts
from it on without starting with it sorts after every text that does (`prefix_of_le_of_lt`). So
on every store, whose nodes the store keeps sorted by path, the scan finds exactly what reading
every node and keeping those with the prefix finds, which is the model's `listChildren`.

A subtree, the key's own path with the paths below it, is no interval: a path such as `a!` sorts
between `a` and `a/b`. Removing or dumping a subtree therefore reads every node, and keeps exactly
the key's path and the paths that start with it and a `/`. -/

namespace MapReduce.MemoryStore

/-! ## Texts with a prefix form an interval -/

/-- Characters that sort from a prefix on and before characters that start with the prefix start
with it too. -/
theorem prefix_of_le_of_lt {d x y : List Char} (hle : ¬ x < d) (hxy : x < y) (hy : d <+: y) :
    d <+: x := by
  induction d generalizing x y with
  | nil => exact List.nil_prefix
  | cons a d ih =>
    obtain ⟨t, rfl⟩ := hy
    cases x with
    | nil => exact absurd (List.nil_lt_cons a d) hle
    | cons b x =>
      have hle' := List.not_lt.mp hle
      rw [List.cons_le_cons_iff] at hle'
      rw [List.cons_append, List.cons_lt_cons_iff] at hxy
      rcases hle' with hab | ⟨rfl, hle'⟩
      · rcases hxy with hba | ⟨rfl, -⟩
        · exact absurd (lt_trans hab hba) (lt_irrefl a)
        · exact absurd hab (lt_irrefl b)
      · rcases hxy with hba | ⟨-, hxy⟩
        · exact absurd hba (lt_irrefl a)
        · exact List.cons_prefix_cons.mpr ⟨rfl, ih (List.not_lt.mpr hle') hxy (List.prefix_append d t)⟩

/-- No text that starts with another sorts before it. -/
theorem not_lt_of_startsWith {dir p : String} (h : p.startsWith dir = true) : ¬ p < dir := by
  rw [String.lt_iff_toList_lt]
  exact List.not_lt.mpr (String.startsWith_string_iff.mp h).le

/-- A text that sorts from a prefix on and before a text that starts with the prefix starts with it
too. -/
theorem startsWith_of_le_of_lt {dir p q : String} (hle : ¬ p < dir) (hpq : p < q)
    (hq : q.startsWith dir = true) : p.startsWith dir = true := by
  rw [String.lt_iff_toList_lt] at hle hpq
  exact String.startsWith_string_iff.mpr
    (prefix_of_le_of_lt hle hpq (String.startsWith_string_iff.mp hq))

/-! ## The scan over sorted nodes -/

section Sorted

variable {dir : String}

/-- On nodes sorted by path, none before `dir`, those whose paths start with `dir` are the first
ones. -/
theorem filter_eq_takeWhile_of_le {l : List (String × Node)} (hs : (l.map (·.1)).Pairwise (· < ·))
    (hge : ∀ e ∈ l, ¬ e.1 < dir) :
    l.filter (fun e => e.1.startsWith dir) = l.takeWhile fun e => e.1.startsWith dir := by
  induction l with
  | nil => rfl
  | cons e rest ih =>
    rw [List.map_cons, List.pairwise_cons] at hs
    by_cases he : e.1.startsWith dir = true
    · simp only [List.filter_cons, List.takeWhile_cons, he, if_true,
        ih hs.2 fun x hx => hge x (List.mem_cons_of_mem e hx)]
    · -- every later path sorts after this one, so none of them starts with `dir` either
      have hrest : ∀ x ∈ rest, x.1.startsWith dir = false := by
        intro x hx
        by_contra hx'
        exact he (startsWith_of_le_of_lt (hge e List.mem_cons_self)
          (hs.1 x.1 (List.mem_map_of_mem hx)) (Bool.not_eq_false _ ▸ hx'))
      simp only [List.filter_cons, List.takeWhile_cons, he, if_false, Bool.false_eq_true,
        List.filter_eq_nil_iff]
      intro x hx
      simp [hrest x hx]

/-- On nodes sorted by path, those whose paths start with `dir` are the ones met from `dir` on,
while paths start with it. -/
theorem filter_eq_scan {l : List (String × Node)} (hs : (l.map (·.1)).Pairwise (· < ·)) :
    l.filter (fun e => e.1.startsWith dir) =
      (l.dropWhile fun e => e.1 < dir).takeWhile fun e => e.1.startsWith dir := by
  induction l with
  | nil => rfl
  | cons e rest ih =>
    rw [List.map_cons, List.pairwise_cons] at hs
    by_cases hlt : e.1 < dir
    · -- a path before `dir` cannot start with it
      have hne : e.1.startsWith dir = false := by
        by_contra h
        exact not_lt_of_startsWith (Bool.not_eq_false _ ▸ h) hlt
      simp only [List.filter_cons, hne, Bool.false_eq_true, if_false, List.dropWhile_cons, hlt,
        decide_true, if_true, ih hs.2]
    · have hge : ∀ x ∈ e :: rest, ¬ x.1 < dir := by
        intro x hx
        rcases List.mem_cons.mp hx with rfl | hx
        · exact hlt
        · exact fun hx' => hlt (lt_trans (hs.1 x.1 (List.mem_map_of_mem hx)) hx')
      have hs' : ((e :: rest).map (·.1)).Pairwise (· < ·) := List.pairwise_cons.mpr hs
      simp only [List.dropWhile_cons, hlt, decide_false, Bool.false_eq_true, if_false]
      exact filter_eq_takeWhile_of_le hs' hge

end Sorted

/-- A node with a name directly below a path starts with the path and a `/`. -/
theorem childEntry_eq_none_of_not_startsWith {root : String} {e : String × Node}
    (h : e.1.startsWith (root ++ "/") = false) : childEntry root e = none := by
  simp [childEntry, childName?, h]

/-- The scan finds the children that reading every node finds, the store's nodes being sorted. -/
theorem scanChildren_eq_listChildren (s : MemoryStore) (key : Identity) :
    s.scanChildren key = s.listChildren key := by
  rcases hk : key.encode with err | root
  · simp [scanChildren, listChildren, hk, bind, Except.bind]
  · rw [listChildren_eq_children hk, children]
    simp only [scanChildren, hk, bind, Except.bind]
    rw [← filter_eq_scan s.sorted, List.filterMap_filter]
    congr 1
    refine List.filterMap_congr fun e _ => ?_
    by_cases he : e.1.startsWith (root ++ "/") = true
    · simp [he, childEntry]
    · simp [he, childEntry_eq_none_of_not_startsWith (Bool.not_eq_true _ ▸ he)]

/-! ## What the listings select -/

/-- The entry of a node below a path is the node with its name exactly when the node's path is the
path, a `/` and the name, and the name holds no `/`. -/
theorem childEntry_eq_some_iff {root name : String} {e : String × Node} {n : Node} :
    childEntry root e = some (name, n) ↔ e = (root ++ "/" ++ name, n) ∧ '/' ∉ name.toList := by
  obtain ⟨p, m⟩ := e
  constructor
  · intro h
    simp only [childEntry, Option.map_eq_some_iff, Prod.mk.injEq] at h
    obtain ⟨x, hx, rfl, rfl⟩ := h
    obtain ⟨hp, hslash⟩ := toList_of_childName? hx
    refine ⟨?_, hslash⟩
    rw [Prod.mk.injEq]
    exact ⟨String.toList_injective (by simpa [String.toList_append] using hp), rfl⟩
  · rintro ⟨he, hslash⟩
    rw [Prod.mk.injEq] at he
    obtain ⟨rfl, rfl⟩ := he
    simp [childEntry, childName?_below root hslash]

/-- The children of a path are exactly the nodes at the path, a `/` and a name without `/`. -/
theorem mem_children_iff {s : MemoryStore} {root name : String} {n : Node} :
    (name, n) ∈ s.children root ↔ (root ++ "/" ++ name, n) ∈ s.nodes ∧ '/' ∉ name.toList := by
  simp only [children, List.mem_filterMap, childEntry_eq_some_iff]
  constructor
  · rintro ⟨e, he, rfl, hslash⟩
    exact ⟨he, hslash⟩
  · rintro ⟨he, hslash⟩
    exact ⟨_, he, rfl, hslash⟩

/-- A path is at or below a root exactly when it is the root, or the root, a `/` and more. -/
theorem underRoot_iff {root p : String} :
    underRoot root p = true ↔ p = root ∨ (root ++ "/").toList <+: p.toList := by
  simp [underRoot, String.startsWith_string_iff]

/-- On every store, whose nodes are sorted by path, the children of a key found by the range scan,
from the key's path and a `/` on and while paths start with it, are those that reading every node
finds, and they are exactly the nodes at the key's path, a `/` and a name without `/`, each with
its name. A dump selects exactly the nodes at the key's path or at paths that start with
it and a `/`, and removing the subtree removes exactly those, failing when there is none. -/
theorem range_scan_finds_children {s : MemoryStore} {key : Identity} {root : String}
    (hroot : key.encode = .ok root) :
    (∃ cs, s.scanChildren key = .ok cs ∧ s.listChildren key = .ok cs ∧
      ∀ name n, (name, n) ∈ cs ↔ (root ++ "/" ++ name, n) ∈ s.nodes ∧ '/' ∉ name.toList) ∧
    (∃ ds, s.dump key = .ok ds ∧ ∀ p v, (p, v) ∈ ds ↔
      ∃ n, (p, n) ∈ s.nodes ∧ n.value = v ∧ (p = root ∨ (root ++ "/").toList <+: p.toList)) ∧
    (∀ s', s.deleteTree key = .ok s' → ∀ e, e ∈ s'.nodes ↔
      e ∈ s.nodes ∧ ¬(e.1 = root ∨ (root ++ "/").toList <+: e.1.toList)) ∧
    (s.deleteTree key = .error (.notFound root) ↔
      ∀ e ∈ s.nodes, ¬(e.1 = root ∨ (root ++ "/").toList <+: e.1.toList)) := by
  refine ⟨⟨s.children root, (scanChildren_eq_listChildren s key).trans (listChildren_eq_children hroot),
    listChildren_eq_children hroot, fun _ _ => mem_children_iff⟩, ?_, ?_, ?_⟩
  · have hdump : s.dump key =
        .ok ((s.nodes.filter fun e => underRoot root e.1).map fun e => (e.1, e.2.value)) := by
      simp [dump, hroot, bind, Except.bind]
    refine ⟨_, hdump, fun p v => ?_⟩
    simp only [List.mem_map, List.mem_filter, Prod.mk.injEq, ← underRoot_iff]
    constructor
    · rintro ⟨⟨q, n⟩, ⟨hq, hunder⟩, rfl, rfl⟩
      exact ⟨n, hq, rfl, hunder⟩
    · rintro ⟨n, hp, rfl, hunder⟩
      exact ⟨(p, n), ⟨hp, hunder⟩, rfl, rfl⟩
  · intro s' h e
    simp only [deleteTree, hroot, bind, Except.bind] at h
    split at h
    · cases h
      rw [← underRoot_iff]
      simp [List.mem_filter]
    · cases h
  · simp only [deleteTree, hroot, bind, Except.bind, ← underRoot_iff]
    split
    · rename_i hany
      obtain ⟨e, he, hunder⟩ := List.any_eq_true.mp hany
      simp only [reduceCtorEq, false_iff, not_forall, not_not]
      exact ⟨e, he, hunder⟩
    · rename_i hany
      simp only [true_iff]
      intro e he hunder
      exact hany (List.any_eq_true.mpr ⟨e, he, hunder⟩)

/-- A store holding a key's node, a sibling path `a!` that sorts between the key and its child, the
child, a grandchild and a later path `a0`. -/
theorem range_scan_past_a_sibling :
    let s : MemoryStore := { nodes := [("a", ⟨1, "x"⟩), ("a!", ⟨2, "y"⟩), ("a/b", ⟨3, "z"⟩),
      ("a/b/c", ⟨4, "w"⟩), ("a0", ⟨5, "v"⟩)] }
    (⟨["a"]⟩ : Identity).encode = .ok "a" ∧
      ∃ cs, s.scanChildren ⟨["a"]⟩ = .ok cs ∧ s.listChildren ⟨["a"]⟩ = .ok cs ∧
        ∀ name n, (name, n) ∈ cs ↔ ("a" ++ "/" ++ name, n) ∈ s.nodes ∧ '/' ∉ name.toList := by
  intro s
  have hroot : (⟨["a"]⟩ : Identity).encode = .ok "a" := by decide
  exact ⟨hroot, (range_scan_finds_children hroot).1⟩

end MapReduce.MemoryStore
