/-! # Driftsort

The stable sort the engine's key order goes through, step for step, so that it gives the same
result for a comparison that is not a strict weak order, and fails where that sort detects one.
The engine's key order is such a comparison: an integer of the signed 64-bit range compares
exactly with another one, and as a binary64 number with anything else, so three numbers may
compare `a = b`, `b = c` and `a < c`. For such a comparison the result of a sort depends on which
comparisons it makes, in which order.

A list of at most 20 elements is sorted by insertion. A longer one is cut into runs: a stretch
that is already ascending, or strictly descending and then reversed, when it is long enough;
otherwise, for a list of at most 64 elements, the next 32 elements sorted by the small sort; and
for a longer list an unsorted stretch left for quicksort. Runs are merged as a powersort merge
tree says, whose node between two runs wants the depth of the first bit in which the scaled
midpoints of the two runs differ.

The small sort sorts each half of its input by insertion, from the first four elements sorted by
a network for a list of at least eight, and merges the halves from both ends at once. The two
merges must meet: when they do not, the comparison was inconsistent and the sort fails, which is
the only way it fails.

Every function takes the comparison `lt`, "strictly less than". Arrays stand for the slices the
sort works on; a slice is cut out, sorted and put back. -/

namespace MapReduce.Driftsort

variable {α : Type}

/-! ## Slices -/

/-- The array with the elements from `lo` on replaced by `xs`. -/
def splice (v : Array α) (lo : Nat) (xs : Array α) : Array α :=
  v.extract 0 lo ++ xs ++ v.extract (lo + xs.size) v.size

/-- The element at an index that may be negative, none when it is out of range. -/
def at? (v : Array α) (i : Int) : Option α := if i < 0 then none else v[i.toNat]?

/-! ## Insertion -/

/-- Inserts `x` into a sorted list given last element first, moving it before every element it
is less than, from the back. -/
def insertBack (lt : α → α → Bool) (x : α) : List α → List α
  | [] => [x]
  | y :: ys => if lt x y then y :: insertBack lt x ys else x :: y :: ys

/-- Insertion sort going on from a sorted prefix, given last element first. -/
def insertAll (lt : α → α → Bool) (sortedRev rest : List α) : List α :=
  (rest.foldl (fun acc x => insertBack lt x acc) sortedRev).reverse

/-- Insertion sort. -/
def insertionSort (lt : α → α → Bool) (xs : List α) : List α := insertAll lt [] xs

/-! ## The small sort -/

/-- Four elements sorted stably by five comparisons: two pairs, their minimum and maximum, then
the two left in the middle. -/
def sort4 (lt : α → α → Bool) (a0 a1 a2 a3 : α) : List α :=
  let c1 := lt a1 a0
  let c2 := lt a3 a2
  let a := if c1 then a1 else a0
  let b := if c1 then a0 else a1
  let c := if c2 then a3 else a2
  let d := if c2 then a2 else a3
  let c3 := lt c a
  let c4 := lt d b
  let least := if c3 then c else a
  let most := if c4 then b else d
  let midLeft := if c3 then a else if c4 then c else b
  let midRight := if c4 then d else if c3 then b else c
  let c5 := lt midRight midLeft
  [least, if c5 then midRight else midLeft, if c5 then midLeft else midRight, most]

/-- One half of the small sort's input sorted by insertion, from its first four elements sorted
by `sort4` when `four`, else from its first element. -/
def sortHalf (lt : α → α → Bool) (four : Bool) : List α → List α
  | a0 :: a1 :: a2 :: a3 :: rest =>
    if four then insertAll lt (sort4 lt a0 a1 a2 a3).reverse rest
    else insertAll lt [a0] (a1 :: a2 :: a3 :: rest)
  | x :: rest => insertAll lt [x] rest
  | [] => []

/-- Where a merge from both ends stands: the next element of each half from the front and from
the back, and what it has written at the front (last first) and at the back. -/
structure Meeting (α : Type) where
  left : Nat
  right : Nat
  leftRev : Int
  rightRev : Int
  front : List α
  back : List α

/-- One step from the front and one from the back of a merge from both ends. -/
def meetStep (lt : α → α → Bool) (s : Array α) (m : Meeting α) : Option (Meeting α) := do
  let l ← s[m.left]?
  let r ← s[m.right]?
  let takeLeft := !lt r l
  let m := if takeLeft then { m with left := m.left + 1, front := l :: m.front }
    else { m with right := m.right + 1, front := r :: m.front }
  let l ← at? s m.leftRev
  let r ← at? s m.rightRev
  let takeLeft := lt r l
  some (if takeLeft then { m with leftRev := m.leftRev - 1, back := l :: m.back }
    else { m with rightRev := m.rightRev - 1, back := r :: m.back })

/-- Merges the two sorted halves of `s` from both ends at once, `n / 2` steps from each end and
one more from the front for an odd length. None when the two ends do not meet exactly: then the
comparison was inconsistent. -/
def bidirectionalMerge (lt : α → α → Bool) (s : Array α) : Option (Array α) := do
  let n := s.size
  let h := n / 2
  let start : Meeting α :=
    { left := 0, right := h, leftRev := (h : Int) - 1, rightRev := (n : Int) - 1, front := [],
      back := [] }
  let m ← (List.range h).foldlM (fun m _ => meetStep lt s m) start
  let m ← if n % 2 != 0 then
      if (m.left : Int) < m.leftRev + 1 then do
        let x ← s[m.left]?
        some { m with left := m.left + 1, front := x :: m.front }
      else do
        let x ← s[m.right]?
        some { m with right := m.right + 1, front := x :: m.front }
    else some m
  if (m.left : Int) = m.leftRev + 1 && (m.right : Int) = m.rightRev + 1 then
    some (m.front.reverse ++ m.back).toArray
  else none

/-- The small sort: each half sorted by insertion, then the halves merged from both ends. -/
def smallSort (lt : α → α → Bool) (v : Array α) : Option (Array α) :=
  let n := v.size
  if n < 2 then some v
  else
    let xs := v.toList
    let h := n / 2
    bidirectionalMerge lt (sortHalf lt (n ≥ 8) (xs.take h) ++ sortHalf lt (n ≥ 8) (xs.drop h)).toArray

/-! ## Merging two runs -/

/-- Merges from the front, `ls` being the shorter run: the left element is taken unless the right
one is less. The rest of either run follows. -/
def mergeUp (lt : α → α → Bool) : List α → List α → List α
  | l :: ls, r :: rs => if !lt r l then l :: mergeUp lt ls (r :: rs) else r :: mergeUp lt (l :: ls) rs
  | ls, rs => ls ++ rs

/-- Merges from the back, both runs given last element first: the left element is taken when the
right one is less than it. Gives the merge last element first; the rest of either run follows. -/
def mergeDown (lt : α → α → Bool) : List α → List α → List α
  | l :: ls, r :: rs => if lt r l then l :: mergeDown lt ls (r :: rs) else r :: mergeDown lt (l :: ls) rs
  | ls, rs => ls ++ rs

/-- Merges the sorted runs `v[..mid]` and `v[mid..]`: from the front when the left run is the
shorter, from the back otherwise. -/
def merge (lt : α → α → Bool) (v : Array α) (mid : Nat) : Array α :=
  let n := v.size
  if mid = 0 || mid ≥ n then v
  else
    let ls := (v.extract 0 mid).toList
    let rs := (v.extract mid n).toList
    if mid ≤ n - mid then (mergeUp lt ls rs).toArray
    else (mergeDown lt ls.reverse rs.reverse).reverse.toArray

/-! ## Runs -/

/-- The number of elements after `prev` that go on a run: ascending (each not less than the one
before) or strictly descending. -/
def runRest (lt : α → α → Bool) (descending : Bool) : α → List α → Nat
  | prev, x :: rest =>
    if (if descending then lt x prev else !lt x prev) then 1 + runRest lt descending x rest else 0
  | _, [] => 0

/-- The run at the start of a list: its length, and whether it is strictly descending. -/
def findRun (lt : α → α → Bool) : List α → Nat × Bool
  | a :: b :: rest =>
    let descending := lt b a
    (2 + runRest lt descending b rest, descending)
  | xs => (xs.length, false)

/-- A run of the merge: its length and whether it is sorted yet. -/
structure Run where
  len : Nat
  sorted : Bool

/-- The next run from `scan` on: an existing run of at least `minGood` elements, reversed when it
descends; else, eagerly, the next 32 elements (or fewer) sorted by the small sort; else an
unsorted stretch of `minGood` elements. -/
def createRun (lt : α → α → Bool) (v : Array α) (scan minGood : Nat) (eager : Bool) :
    Option (Array α × Run) :=
  let n := v.size - scan
  let found := if n ≥ minGood then some (findRun lt (v.extract scan v.size).toList) else none
  match found with
  | some (len, descending) =>
    if len ≥ minGood then
      let run := v.extract scan (scan + len)
      some (splice v scan (if descending then run.reverse else run), ⟨len, true⟩)
    else fallback n
  | none => fallback n
where
  /-- The run when no existing run is long enough. -/
  fallback (n : Nat) : Option (Array α × Run) :=
    if eager then do
      let len := min 32 n
      let sorted ← smallSort lt (v.extract scan (scan + len))
      some (splice v scan sorted, ⟨len, true⟩)
    else some (v, ⟨min minGood n, false⟩)

/-- Merges two adjacent runs starting at `start`: when one of them is sorted, the other is sorted
by `sortRun` and the two are merged; two unsorted runs make one unsorted run. -/
def mergeRuns (lt : α → α → Bool) (sortRun : Array α → Option (Array α)) (v : Array α)
    (start : Nat) (left right : Run) : Option (Array α × Run) := do
  let len := left.len + right.len
  if left.sorted || right.sorted then
    let seg := v.extract start (start + len)
    let l ← if left.sorted then some (seg.extract 0 left.len) else sortRun (seg.extract 0 left.len)
    let r ← if right.sorted then some (seg.extract left.len len) else sortRun (seg.extract left.len len)
    some (splice v start (merge lt (l ++ r) left.len), ⟨len, true⟩)
  else some (v, ⟨len, false⟩)

/-! ## The merge tree -/

/-- The factor that scales positions `0 ≤ i ≤ 2n` into `[0, 2^63]`: `⌈2^62 / n⌉`. -/
def scaleFactor (n : Nat) : Nat := (Nat.pow 2 62 + n - 1) / n

/-- The number of leading zero bits of a 64-bit number. -/
def leadingZeros (x : Nat) : Nat := if x = 0 then 64 else 63 - Nat.log2 x

/-- The depth the merge node between the runs `[left, mid)` and `[mid, right)` wants: where the
scaled sums of the two runs' ends first differ. -/
def mergeDepth (left mid right scale : Nat) : Nat :=
  leadingZeros (Nat.xor ((scale * (left + mid)) % Nat.pow 2 64) ((scale * (mid + right)) % Nat.pow 2 64))

/-- A run waiting on the stack, with the depth its merge with the next run wants. -/
structure Pending where
  run : Run
  depth : Nat

/-- Merges the runs on the stack whose merge wants a depth of at least `depth` into `current`,
the run that ends at `scan`; the bottom entry of the stack stays. -/
def collapse (lt : α → α → Bool) (sortRun : Array α → Option (Array α)) (scan depth : Nat) :
    Array α → List Pending → Run → Option (Array α × List Pending × Run)
  | v, top :: below :: rest, current =>
    if top.depth ≥ depth then do
      let (v, merged) ← mergeRuns lt sortRun v (scan - (top.run.len + current.len)) top.run current
      collapse lt sortRun scan depth v (below :: rest) merged
    else some (v, top :: below :: rest, current)
  | v, stack, current => some (v, stack, current)

/-- The main loop: takes the next run, merges what the merge tree says, and pushes the current
run; after the last run a node of depth zero merges everything. The fuel bounds the number of
runs. -/
def driftLoop (lt : α → α → Bool) (sortRun : Array α → Option (Array α)) (minGood scale : Nat)
    (eager : Bool) : Nat → Array α → List Pending → Run → Nat → Option (Array α × Run)
  | 0, v, _, current, _ => some (v, current)
  | fuel + 1, v, stack, current, scan => do
    let n := v.size
    let (v, next, depth) ← if scan < n then do
        let (v, next) ← createRun lt v scan minGood eager
        some (v, next, mergeDepth (scan - current.len) scan (scan + next.len) scale)
      else some (v, ⟨0, true⟩, 0)
    let (v, stack, current) ← collapse lt sortRun scan depth v stack current
    let stack := ⟨current, depth⟩ :: stack
    if scan ≥ n then some (v, current)
    else driftLoop lt sortRun minGood scale eager fuel v stack next (scan + next.len)

/-- An approximate square root: `2^⌊(1 + log₂ n) / 2⌋` improved by one step of Newton's
method. -/
def sqrtApprox (n : Nat) : Nat :=
  let shift := (1 + Nat.log2 (n ||| 1)) / 2
  (Nat.pow 2 shift + n / Nat.pow 2 shift) / 2

/-- Driftsort on runs: eager for short lists, whose runs are all sorted; otherwise unsorted runs
are sorted by `sortRun` when they meet a sorted one, or at the end. -/
def driftsort (lt : α → α → Bool) (v : Array α) (eager : Bool)
    (sortRun : Array α → Option (Array α)) : Option (Array α) := do
  let n := v.size
  if n < 2 then some v
  else
    let minGood := if n ≤ 4096 then min (n - n / 2) 64 else sqrtApprox n
    let (v, last) ← driftLoop lt sortRun minGood (scaleFactor n) eager (n + 2) v [] ⟨0, true⟩ 0
    if last.sorted then some v else sortRun v

/-! ## Quicksort -/

/-- The median of three elements by index. -/
def median3 (lt : α → α → Bool) (v : Array α) (d : α) (a b c : Nat) : Nat :=
  let x := lt (v.getD a d) (v.getD b d)
  let y := lt (v.getD a d) (v.getD c d)
  if x == y then (if lt (v.getD b d) (v.getD c d) != x then c else b) else a

/-- The pseudo-median of nine, and recursively of more, for long slices. -/
def median3Rec (lt : α → α → Bool) (v : Array α) (d : α) (a b c n : Nat) : Nat :=
  if h : n * 8 ≥ 64 then
    let n8 := n / 8
    let a := median3Rec lt v d a (a + n8 * 4) (a + n8 * 7) n8
    let b := median3Rec lt v d b (b + n8 * 4) (b + n8 * 7) n8
    let c := median3Rec lt v d c (c + n8 * 4) (c + n8 * 7) n8
    median3 lt v d a b c
  else median3 lt v d a b c
termination_by n
decreasing_by all_goals omega

/-- The pivot: the median of the elements at the starts of the first, fifth and eighth eighths,
or their pseudo-medians for a slice of 64 or more. -/
def choosePivot (lt : α → α → Bool) (v : Array α) (d : α) : Nat :=
  let n8 := v.size / 8
  if v.size < 64 then median3 lt v d 0 (n8 * 4) (n8 * 7)
  else median3Rec lt v d 0 (n8 * 4) (n8 * 7) n8

/-- A stable partition around the element at `pivotPos`: the elements that `goesLeft` sends
left, in order, then the others, in order; the pivot itself goes left when `pivotLeft`, without
a comparison. Gives the number sent left. -/
def partition (goesLeft : α → α → Bool) (v : Array α) (pivotPos : Nat) (pivotLeft : Bool) :
    Nat × Array α :=
  match v[pivotPos]? with
  | none => (0, v)
  | some pivot =>
    let (ls, rs) := (v.toList.zip (List.range v.size)).foldr (fun (x, i) (ls, rs) =>
      if (if i = pivotPos then pivotLeft else goesLeft x pivot) then (x :: ls, rs)
      else (ls, x :: rs)) ([], [])
    (ls.length, (ls ++ rs).toArray)

/-- Stable quicksort: a slice of at most 32 elements goes to the small sort; after `limit`
unbalanced partitions the rest goes to eager driftsort. A pivot not greater than the pivot of the
enclosing left partition, or one that nothing is less than, splits off the elements equal to it,
which are then done. The fuel bounds the depth, which the shrinking slices bound already. -/
def quicksort (lt : α → α → Bool) : Nat → Array α → Nat → Option α → Option (Array α)
  | 0, v, _, _ => some v
  | fuel + 1, v, limit, ancestor =>
    let n := v.size
    if n ≤ 32 then smallSort lt v
    else if limit = 0 then driftsort lt v true some
    else
      match v[0]? with
      | none => some v
      | some d =>
        let pos := choosePivot lt v d
        let pivot := v.getD pos d
        let equal := match ancestor with
          | some a => !lt a pivot
          | none => false
        let (leftLen, v) := if equal then (0, v) else partition lt v pos false
        if equal || leftLen = 0 then
          let (mid, v) := partition (fun a b => !lt b a) v pos true
          (quicksort lt fuel (v.extract mid n) (limit - 1) none).map (v.extract 0 mid ++ ·)
        else do
          let right ← quicksort lt fuel (v.extract leftLen n) (limit - 1) (some pivot)
          let left ← quicksort lt fuel (v.extract 0 leftLen) (limit - 1) ancestor
          some (left ++ right)

/-- Quicksort of a whole unsorted run, allowed `2 ⌊log₂ n⌋` unbalanced partitions. -/
def stableQuicksort (lt : α → α → Bool) (v : Array α) : Option (Array α) :=
  quicksort lt (v.size + 1) v (2 * Nat.log2 (v.size ||| 1)) none

/-! ## The sort -/

/-- The stable sort: insertion sort up to 20 elements, driftsort beyond, eager up to 64. None
when the comparison was found inconsistent. -/
def stableSort (lt : α → α → Bool) (v : Array α) : Option (Array α) :=
  let n := v.size
  if n < 2 then some v
  else if n ≤ 20 then some (insertionSort lt v.toList).toArray
  else driftsort lt v (n ≤ 64) (stableQuicksort lt)

end MapReduce.Driftsort
