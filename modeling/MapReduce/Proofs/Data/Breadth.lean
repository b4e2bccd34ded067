import Mathlib

/-! # Breadth-first visits

A visit order over a successor function `next` from one start: a queue holds the nodes found and
not yet visited, and each visit appends the successors found for the first time (`fresh`). The
invariant `Frontier` holds between two visits; from it, `visits_spec`: with enough fuel the visits
are every node reachable from the start, each once, the start first, in order of distance. The
fuel needed is the size of any list of distinct reachable nodes, so a finite graph is visited
whole (`length_le_of_mem_next`). -/

namespace MapReduce.Breadth

variable {α : Type} (next : α → List α) (root : α)

/-- `Within n x`: `x` is reached from `root` in at most `n` steps of `next`. -/
inductive Within : Nat → α → Prop
  | root (n : Nat) : Within n root
  | step {n : Nat} {x y : α} : Within n x → y ∈ next x → Within (n + 1) y

/-- Reached from `root` in some number of steps. -/
def Reachable (x : α) : Prop := ∃ n, Within next root n x

open Classical in
/-- The number of steps of a shortest path from `root`; zero for a node not reached. -/
noncomputable def dist (x : α) : Nat := if h : Reachable next root x then Nat.find h else 0

/-- The nodes of `ts` not in `seen`, each once, in the order of their first appearance. -/
def fresh [DecidableEq α] (seen : List α) : List α → List α
  | [] => []
  | t :: ts => if t ∈ seen then fresh seen ts else t :: fresh (seen ++ [t]) ts

/-- The nodes visited from the queue `pending`, at most `fuel` of them, where `seen` holds every
node ever queued. -/
def visits [DecidableEq α] : Nat → List α → List α → List α
  | 0, _, _ => []
  | _ + 1, [], _ => []
  | fuel + 1, x :: pending, seen =>
    x :: visits fuel (pending ++ fresh seen (next x)) (seen ++ fresh seen (next x))

variable {next root}

/-! ## Distances -/

namespace Within

theorem mono {n m : Nat} {x : α} (h : Within next root n x) (hnm : n ≤ m) : Within next root m x := by
  induction h generalizing m with
  | root n => exact .root m
  | step hx hy ih =>
    obtain ⟨m, rfl⟩ : ∃ k, m = k + 1 := ⟨m - 1, by omega⟩
    exact .step (ih (by omega)) hy

/-- A node reached in at most `n + 1` steps is the start or a successor of one reached in `n`. -/
theorem succ_inv {n : Nat} {y : α} (h : Within next root (n + 1) y) :
    y = root ∨ ∃ x, Within next root n x ∧ y ∈ next x := by
  cases h with
  | root => exact .inl rfl
  | step hx hy => exact .inr ⟨_, hx, hy⟩

theorem eq_root {x : α} (h : Within next root 0 x) : x = root := by
  cases h
  rfl

end Within

theorem reachable_root : Reachable next root root := ⟨0, .root 0⟩

theorem Reachable.step {x y : α} (hx : Reachable next root x) (hy : y ∈ next x) : Reachable next root y :=
  let ⟨n, hn⟩ := hx
  ⟨n + 1, .step hn hy⟩

/-- A node reached and not the start is the successor of some node. -/
theorem Reachable.exists_pred {y : α} (hy : Reachable next root y) (hne : y ≠ root) : ∃ x, y ∈ next x := by
  obtain ⟨n, hn⟩ := hy
  cases hn with
  | root => exact absurd rfl hne
  | step _ hxy => exact ⟨_, hxy⟩

theorem within_dist {x : α} (h : Reachable next root x) : Within next root (dist next root x) x := by
  classical
  rw [dist, dif_pos h]
  exact Nat.find_spec h

theorem dist_le {n : Nat} {x : α} (h : Within next root n x) : dist next root x ≤ n := by
  classical
  rw [dist, dif_pos ⟨n, h⟩]
  exact Nat.find_min' _ h

theorem within_iff {n : Nat} {x : α} : Within next root n x ↔ Reachable next root x ∧ dist next root x ≤ n :=
  ⟨fun h => ⟨⟨n, h⟩, dist_le h⟩, fun ⟨hx, hd⟩ => (within_dist hx).mono hd⟩

theorem eq_root_of_dist {x : α} (hx : Reachable next root x) (hd : dist next root x = 0) : x = root :=
  Within.eq_root (hd ▸ within_dist hx)

theorem dist_step_le {x y : α} (hx : Reachable next root x) (hy : y ∈ next x) :
    dist next root y ≤ dist next root x + 1 :=
  dist_le (.step (within_dist hx) hy)

/-- A node at distance `d + 1` is a successor of a node at distance `d`. -/
theorem exists_parent {y : α} {d : Nat} (hy : Reachable next root y) (hd : dist next root y = d + 1) :
    ∃ x, Reachable next root x ∧ dist next root x = d ∧ y ∈ next x := by
  have hw := within_dist hy
  rw [hd] at hw
  rcases hw.succ_inv with hyr | ⟨x, hx, hxy⟩
  · rw [hyr] at hd
    have := dist_le (Within.root 0 : Within next root 0 root)
    omega
  · have hxr : Reachable next root x := ⟨d, hx⟩
    have h₁ := dist_le hx
    have h₂ := dist_step_le hxr hxy
    exact ⟨x, hxr, by omega, hxy⟩

/-! ## Between two visits -/

variable (next root) in
/-- What holds of the nodes visited (`V`) and the queue (`P`) between two visits. -/
structure Frontier (V P : List α) : Prop where
  nodup : (V ++ P).Nodup
  reachable : ∀ x ∈ V ++ P, Reachable next root x
  head : (V ++ P).head? = some root
  /-- The successors of a visited node are all found. -/
  closed : ∀ x ∈ V, ∀ y ∈ next x, y ∈ V ++ P
  /-- Nodes are found in order of distance. -/
  sorted : (V ++ P).Pairwise fun a b => dist next root a ≤ dist next root b
  /-- The queue spans at most two distances. -/
  near : ∀ x ∈ P.head?, ∀ y ∈ P, dist next root y ≤ dist next root x + 1
  /-- Every node no farther than the queue's head is found. -/
  found : ∀ x ∈ P.head?, ∀ z, Reachable next root z → dist next root z ≤ dist next root x → z ∈ V ++ P

namespace Frontier

variable {V P : List α} {x : α}

theorem start : Frontier next root [] [root] where
  nodup := List.nodup_singleton root
  reachable := by simpa using reachable_root
  head := rfl
  closed := by simp
  sorted := List.pairwise_singleton _ root
  near := by simp
  found := by
    intro x hx z hz hd
    rw [List.head?_cons, Option.mem_def, Option.some.injEq] at hx
    rw [← hx] at hd
    have h0 : dist next root root = 0 := Nat.le_zero.mp (dist_le (Within.root 0 : Within next root 0 root))
    simp [eq_root_of_dist hz (by omega)]

/-- The head of a queue sorted by distance is no farther than any node of it. -/
theorem dist_head_le {P : List α} (hP : P.Pairwise fun a b => dist next root a ≤ dist next root b)
    {h u : α} (hh : h ∈ P.head?) (hu : u ∈ P) : dist next root h ≤ dist next root u := by
  cases P with
  | nil => cases hh
  | cons p P =>
    simp only [List.head?_cons, Option.mem_def, Option.some.injEq] at hh
    subst hh
    rcases List.mem_cons.mp hu with rfl | hu
    · exact le_rfl
    · exact List.rel_of_pairwise_cons hP hu

/-- With the queue empty, every reachable node is visited. -/
theorem complete (hF : Frontier next root V []) {z : α} (hz : Reachable next root z) : z ∈ V := by
  obtain ⟨n, hn⟩ := hz
  have hV : ∀ a ∈ V, ∀ b ∈ next a, b ∈ V := by simpa using hF.closed
  induction hn with
  | root => simpa using List.mem_of_mem_head? hF.head
  | step _ hy ih => exact hV _ ih _ hy

end Frontier

/-! ## The nodes found for the first time -/

variable [DecidableEq α]

theorem mem_fresh {seen ts : List α} {x : α} : x ∈ fresh seen ts ↔ x ∈ ts ∧ x ∉ seen := by
  induction ts generalizing seen with
  | nil => simp [fresh]
  | cons t ts ih =>
    by_cases ht : t ∈ seen
    · rw [fresh, if_pos ht, ih, List.mem_cons]
      constructor
      · exact fun ⟨h, hs⟩ => ⟨.inr h, hs⟩
      · rintro ⟨rfl | h, hs⟩
        · exact absurd ht hs
        · exact ⟨h, hs⟩
    · rw [fresh, if_neg ht, List.mem_cons, ih, List.mem_append, List.mem_singleton]
      by_cases hxt : x = t
      · subst hxt
        simp [ht]
      · simp [hxt]

theorem nodup_fresh (seen ts : List α) : (fresh seen ts).Nodup := by
  induction ts generalizing seen with
  | nil => exact List.nodup_nil
  | cons t ts ih =>
    rw [fresh]
    split
    · exact ih seen
    · refine List.nodup_cons.mpr ⟨fun h => ?_, ih _⟩
      exact (mem_fresh.mp h).2 (List.mem_append_right _ (List.mem_singleton_self t))

/-- The nodes found for the first time in two lists are those of the first, then those of the
second not found in the first. -/
theorem fresh_append (seen xs ys : List α) :
    fresh seen (xs ++ ys) = fresh seen xs ++ fresh (seen ++ fresh seen xs) ys := by
  induction xs generalizing seen with
  | nil => simp [fresh]
  | cons t xs ih =>
    rw [List.cons_append, fresh, fresh]
    split
    · exact ih seen
    · simp [ih]

/-! ## Visiting -/

namespace Frontier

variable {V P : List α} {x : α}

/-- The successors of the head found for the first time lie one step farther than the head. -/
theorem dist_fresh (hF : Frontier next root V (x :: P)) {y : α} (hy : y ∈ fresh (V ++ x :: P) (next x)) :
    dist next root y = dist next root x + 1 := by
  obtain ⟨hyx, hys⟩ := mem_fresh.mp hy
  have hxr := hF.reachable x (by simp)
  have hle := dist_step_le hxr hyx
  by_contra hne
  exact hys (hF.found x rfl y (hxr.step hyx) (by omega))

/-- Once the head is visited, the successors of every visited node are found. -/
theorem visit_closed (hF : Frontier next root V (x :: P)) :
    ∀ a ∈ V ++ [x], ∀ y ∈ next a, y ∈ V ++ x :: P ++ fresh (V ++ x :: P) (next x) := by
  intro a ha y hy
  rcases List.mem_append.mp ha with ha | ha
  · exact List.mem_append_left _ (hF.closed a ha y hy)
  · rw [List.mem_singleton.mp ha] at hy
    by_cases hyS : y ∈ V ++ x :: P
    · exact List.mem_append_left _ hyS
    · exact List.mem_append_right _ (mem_fresh.mpr ⟨hy, hyS⟩)

/-- Every node queued after the visit lies at most one step farther than the visited head. -/
theorem dist_queued_le (hF : Frontier next root V (x :: P)) {a : α}
    (ha : a ∈ P ++ fresh (V ++ x :: P) (next x)) : dist next root a ≤ dist next root x + 1 := by
  rcases List.mem_append.mp ha with ha | ha
  · exact hF.near x rfl a (List.mem_cons_of_mem x ha)
  · exact (dist_fresh hF ha).le

/-- A node no farther than the next head is found once the head is visited. -/
theorem visit_found (hF : Frontier next root V (x :: P)) {h : α}
    (hh : h ∈ (P ++ fresh (V ++ x :: P) (next x)).head?) {z : α} (hz : Reachable next root z)
    (hzh : dist next root z ≤ dist next root h) : z ∈ V ++ x :: P ++ fresh (V ++ x :: P) (next x) := by
  have hhx := dist_queued_le hF (List.mem_of_mem_head? hh)
  by_cases hzx : dist next root z ≤ dist next root x
  · exact List.mem_append_left _ (hF.found x rfl z hz hzx)
  obtain ⟨u, hur, hud, hzu⟩ := exists_parent hz (d := dist next root x) (by omega)
  rcases List.mem_append.mp (hF.found x rfl u hur hud.le) with huV | huP
  · exact visit_closed hF u (List.mem_append_left _ huV) z hzu
  rcases List.mem_cons.mp huP with rfl | huP
  · exact visit_closed hF u (by simp) z hzu
  have hhead : h ∈ P.head? := by
    cases P with
    | nil => cases huP
    | cons p P => simpa using hh
  have hsort := (List.pairwise_append.mp hF.sorted).2.1
  have := dist_head_le hsort.of_cons hhead huP
  omega

/-- Visiting the head of the queue keeps the invariant. -/
theorem visit (hF : Frontier next root V (x :: P)) :
    Frontier next root (V ++ [x]) (P ++ fresh (V ++ x :: P) (next x)) := by
  set S := V ++ x :: P
  set N := fresh S (next x)
  have hS : V ++ [x] ++ (P ++ N) = S ++ N := by simp [S]
  have hN : ∀ y ∈ N, dist next root y = dist next root x + 1 := fun y hy => dist_fresh hF hy
  have hsort := List.pairwise_append.mp hF.sorted
  have hfar : ∀ a ∈ P ++ N, dist next root x ≤ dist next root a := by
    intro a ha
    rcases List.mem_append.mp ha with ha | ha
    · exact List.rel_of_pairwise_cons hsort.2.1 ha
    · rw [hN _ ha]
      omega
  refine ⟨?_, ?_, ?_, ?_, ?_, ?_, ?_⟩
  · rw [hS]
    refine List.nodup_append.mpr ⟨hF.nodup, nodup_fresh _ _, ?_⟩
    intro a ha b hb hab
    exact (mem_fresh.mp hb).2 (hab ▸ ha)
  · rw [hS]
    intro a ha
    rcases List.mem_append.mp ha with ha | ha
    · exact hF.reachable a ha
    · exact (hF.reachable x (by simp)).step (mem_fresh.mp ha).1
  · rw [hS, List.head?_append, hF.head]
    rfl
  · rw [hS]
    exact visit_closed hF
  · rw [hS]
    refine List.pairwise_append.mpr ⟨hF.sorted, ?_, ?_⟩
    · exact List.pairwise_of_forall_mem_list fun a ha b hb => by rw [hN _ ha, hN _ hb]
    · intro a ha b hb
      rw [hN _ hb]
      rcases List.mem_append.mp ha with ha | ha
      · exact (hsort.2.2 a ha x (by simp)).trans (Nat.le_succ _)
      · exact hF.near x rfl a ha
  · intro h hh y hy
    have := hfar h (List.mem_of_mem_head? hh)
    have := dist_queued_le hF hy
    omega
  · rw [hS]
    exact fun h hh z hz hzh => visit_found hF hh hz hzh

/-- The visits from a frontier, with fuel for every reachable node not yet visited, end with the
queue empty. -/
theorem visits {B : Nat} (hB : ∀ l : List α, l.Nodup → (∀ x ∈ l, Reachable next root x) → l.length ≤ B)
    (fuel : Nat) (hF : Frontier next root V P) (hfuel : B ≤ fuel + V.length) :
    Frontier next root (V ++ Breadth.visits next fuel P (V ++ P)) [] := by
  induction fuel generalizing V P with
  | zero =>
    have hlen := hB _ hF.nodup hF.reachable
    rw [List.length_append] at hlen
    have hP : P = [] := List.eq_nil_of_length_eq_zero (by omega)
    subst hP
    simpa [Breadth.visits] using hF
  | succ fuel ih =>
    cases P with
    | nil => simpa [Breadth.visits] using hF
    | cons x P =>
      have h := ih hF.visit (by simp; omega)
      rw [Breadth.visits]
      simpa [List.append_assoc] using h

end Frontier

/-- With fuel for every reachable node, the visits from the start are every reachable node, each
once, the start first, and a node no farther from the start than any later one. -/
theorem visits_spec {B : Nat}
    (hB : ∀ l : List α, l.Nodup → (∀ x ∈ l, Reachable next root x) → l.length ≤ B)
    {fuel : Nat} (hfuel : B ≤ fuel) :
    (visits next fuel [root] [root]).head? = some root ∧ (visits next fuel [root] [root]).Nodup ∧
      (∀ x, x ∈ visits next fuel [root] [root] ↔ Reachable next root x) ∧
      (visits next fuel [root] [root]).Pairwise
        (fun a b => ∀ n, Within next root n b → Within next root n a) := by
  have hF := Frontier.start.visits hB fuel (by simpa using hfuel)
  simp only [List.nil_append] at hF
  have hreach : ∀ x ∈ visits next fuel [root] [root], Reachable next root x := by
    simpa using hF.reachable
  refine ⟨by simpa using hF.head, by simpa using hF.nodup, fun x => ⟨hreach x, hF.complete⟩, ?_⟩
  have hsorted : (visits next fuel [root] [root]).Pairwise
      fun a b => dist next root a ≤ dist next root b := by simpa using hF.sorted
  refine hsorted.imp_of_mem fun {a b} ha _ hab n hb => ?_
  obtain ⟨-, hbn⟩ := within_iff.mp hb
  exact within_iff.mpr ⟨hreach a ha, hab.trans hbn⟩

/-- A graph whose successors all lie in `T` has at most `T.length + 1` distinct reachable nodes. -/
theorem length_le_of_mem_next {T : List α} (hT : ∀ u, ∀ x ∈ next u, x ∈ T) {l : List α} (hl : l.Nodup)
    (hr : ∀ x ∈ l, Reachable next root x) : l.length ≤ T.length + 1 := by
  have hsplit := List.length_eq_length_filter_add (fun x => x != root) (l := l)
  have hothers : (l.filter fun x => x != root).length ≤ T.length := by
    refine (hl.filter _).length_le_of_subset fun x hx => ?_
    obtain ⟨hxl, hxr⟩ := List.mem_filter.mp hx
    obtain ⟨u, hu⟩ := (hr x hxl).exists_pred (by simpa using hxr)
    exact hT u x hu
  have hroot : (l.filter fun x => !(x != root)).length ≤ [root].length := by
    refine (hl.filter _).length_le_of_subset fun x hx => ?_
    simpa using (List.mem_filter.mp hx).2
  rw [List.length_singleton] at hroot
  omega

end MapReduce.Breadth
