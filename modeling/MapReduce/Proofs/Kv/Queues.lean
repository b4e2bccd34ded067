import MapReduce.Proofs.Kv.Versions
import MapReduce.Proofs.Engine.Fence
import MapReduce.Proofs.Json.RoundTrip
import Mathlib

/-! # Ordered queues on the in-memory store

A queue appends each record as a child named after the revision the append takes
(`inOrderName`), and lists its children sorted by name. Names are the revision's decimal digits
padded to twenty, so below `10 ^ 20`, and so below the store's revision ceiling, a later revision
has a greater name (`inOrderName_lt`). Hence, while the revision counter has room, a queue lists
the records added since it was last removed and not removed by name since, in the order of their
adds, whatever other keys the operations in between write (`list_in_add_order`). At the ceiling
the revision stops and two adds share a name, so the second replaces the first. -/

namespace MapReduce

/-! ## Names in revision order -/

/-- The last `k` decimal digits of a number, the most significant first. -/
def padDigits : Nat → Nat → List Char
  | 0, _ => []
  | k + 1, n => padDigits k (n / 10) ++ [Nat.digitChar (n % 10)]

@[simp] theorem length_padDigits (k n : Nat) : (padDigits k n).length = k := by
  induction k generalizing n with
  | zero => rfl
  | succ k ih => simp [padDigits, ih]

theorem padDigits_zero (k : Nat) : padDigits k 0 = List.replicate k '0' := by
  induction k with
  | zero => rfl
  | succ k ih => simp [padDigits, ih, Nat.digitChar, List.replicate_succ']

theorem div_ten_lt {n k : Nat} (h : n < 10 ^ (k + 1)) : n / 10 < 10 ^ k := by
  rw [Nat.div_lt_iff_lt_mul (by norm_num), ← Nat.pow_succ]
  exact h

/-- Below `10 ^ (k + 1)`, the digits of a number padded with zeros to width `k + 1` are its last
`k + 1` digits. -/
theorem replicate_append_toDigits {k n : Nat} (h : n < 10 ^ (k + 1)) :
    List.replicate (k + 1 - (Nat.toDigits 10 n).length) '0' ++ Nat.toDigits 10 n = padDigits (k + 1) n := by
  induction k generalizing n with
  | zero =>
    have hn : n < 10 := by simpa using h
    rw [Nat.toDigits_of_lt_base hn]
    simp [padDigits, Nat.mod_eq_of_lt hn]
  | succ k ih =>
    by_cases hn : n < 10
    · rw [Nat.toDigits_of_lt_base hn, padDigits, Nat.div_eq_of_lt hn, Nat.mod_eq_of_lt hn, padDigits_zero]
      simp
    · -- the last digit goes last on both sides, the others are those of `n / 10`
      have hdiv : n / 10 < 10 ^ (k + 1) := div_ten_lt h
      have hlen := (Nat.length_toDigits_le_iff (n := n / 10) (by norm_num) (Nat.succ_pos k)).mpr hdiv
      rw [Nat.toDigits_of_base_le (by norm_num) (by omega), padDigits, ← ih hdiv, List.length_append,
        List.length_singleton]
      rw [show k + 1 + 1 - ((Nat.toDigits 10 (n / 10)).length + 1) =
        k + 1 - (Nat.toDigits 10 (n / 10)).length by omega]
      simp

theorem toList_inOrderName {n : Nat} (h : n < 10 ^ 20) : (inOrderName n).toList = padDigits 20 n := by
  have hlen : (toString n).length = (Nat.toDigits 10 n).length := by
    rw [Nat.toString_eq_repr, ← String.length_toList, Nat.toList_repr]
  rw [inOrderName, String.toList_append, String.toList_ofList, hlen, Nat.toString_eq_repr, Nat.toList_repr]
  exact replicate_append_toDigits h

theorem digitChar_lt {a b : Nat} (hab : a < b) (hb : b < 10) : Nat.digitChar a < Nat.digitChar b := by
  have key : ∀ a b : Fin 10, a < b → Nat.digitChar a < Nat.digitChar b := by decide
  exact key ⟨a, by omega⟩ ⟨b, hb⟩ hab

theorem List.append_lt_append_of_lt {l₁ l₂ : List Char} (h : l₁ < l₂) (hlen : l₁.length = l₂.length)
    (x y : List Char) : l₁ ++ x < l₂ ++ y := by
  induction h with
  | nil => simp at hlen
  | cons _ ih => exact List.Lex.cons (ih (by simpa using hlen))
  | rel hab => exact List.Lex.rel hab

theorem padDigits_lt {k a b : Nat} (hab : a < b) (hb : b < 10 ^ k) : padDigits k a < padDigits k b := by
  induction k generalizing a b with
  | zero => simp at hb; omega
  | succ k ih =>
    rw [padDigits, padDigits]
    by_cases hq : a / 10 = b / 10
    · -- one prefix: the last digits decide
      rw [hq]
      apply List.append_left_lt
      exact List.Lex.rel (digitChar_lt (by omega) (Nat.mod_lt _ (by norm_num)))
    · have hdiv : a / 10 < b / 10 := lt_of_le_of_ne (Nat.div_le_div_right hab.le) hq
      exact List.append_lt_append_of_lt (ih hdiv (div_ten_lt hb)) (by simp) _ _

/-- Below `10 ^ 20`, a later revision has a greater name. -/
theorem inOrderName_lt {a b : Nat} (hab : a < b) (hb : b < 10 ^ 20) : inOrderName a < inOrderName b := by
  show (inOrderName a).toList < (inOrderName b).toList
  rw [toList_inOrderName (by omega), toList_inOrderName hb]
  exact padDigits_lt hab hb

theorem revisionBound_lt : MemoryStore.revisionBound < 10 ^ 20 := by
  decide

theorem lt_of_le_revisionBound {n : Nat} (h : n ≤ MemoryStore.revisionBound) : n < 10 ^ 20 :=
  lt_of_le_of_lt h revisionBound_lt

theorem mem_padDigits {k n : Nat} {c : Char} (h : c ∈ padDigits k n) : ∃ i < 10, c = Nat.digitChar i := by
  induction k generalizing n with
  | zero => simp [padDigits] at h
  | succ k ih =>
    rw [padDigits, List.mem_append, List.mem_singleton] at h
    rcases h with h | rfl
    · exact ih h
    · exact ⟨n % 10, Nat.mod_lt _ (by norm_num), rfl⟩

theorem inOrderName_chars {n : Nat} (h : n < 10 ^ 20) :
    ∀ c ∈ (inOrderName n).toList, c ≠ '/' ∧ c ≠ '-' := by
  intro c hc
  rw [toList_inOrderName h] at hc
  obtain ⟨i, hi, rfl⟩ := mem_padDigits hc
  have key : ∀ i : Fin 10, Nat.digitChar i ≠ '/' ∧ Nat.digitChar i ≠ '-' := by decide
  exact key ⟨i, hi⟩

theorem validateSegment_inOrderName {n : Nat} (h : n < 10 ^ 20) :
    Identity.validateSegment (inOrderName n) = .ok () := by
  have hne : inOrderName n ≠ "" := by
    intro he
    have := congrArg (fun s => s.toList.length) he
    simp [toList_inOrderName h] at this
  simp only [Identity.validateSegment, String.isEmpty_iff, hne, if_false]
  rw [if_neg]
  simp only [List.any_eq_true, not_exists, not_and, Bool.or_eq_true, decide_eq_true_eq, not_or]
  exact inOrderName_chars h

/-- The path of a child of an identity with a path and a segment is that path, a `/` and the
child's segment, when the segment is valid. -/
theorem Identity.encode_child {id : Identity} {r : String} (h : id.encode = .ok r)
    (hne : id.segments ≠ []) (name : String) :
    (id.child name).encode = (Identity.validateSegment name).map fun _ => r ++ "/" ++ name := by
  unfold Identity.encode at h ⊢
  split at h
  · cases h
  · rename_i u hu
    cases h
    rcases hv : Identity.validateSegment name with e | _
    · simp [Identity.child, List.mapM_append, hu, hv, bind, Except.bind, Except.map]
    · simp [Identity.child, List.mapM_append, hu, hv, bind, Except.bind, Except.map, pure, Except.pure,
        Identity.display, String.intercalate_append_of_ne_nil hne]

/-! ## The children of a path -/

namespace MemoryStore

/-- A node's entry among the children of `root`: its name directly below `root`, if it has one,
with the node. -/
def childEntry (root : String) (e : String × Node) : Option (String × Node) :=
  (childName? (root ++ "/") e.1).map fun name => (name, e.2)

/-- The nodes directly below a path, each with its name, in the store's order. -/
def children (m : MemoryStore) (root : String) : List (String × Node) :=
  m.nodes.filterMap (childEntry root)

theorem listChildren_eq_children {m : MemoryStore} {key : Identity} {root : String}
    (h : key.encode = .ok root) : m.listChildren key = .ok (m.children root) := by
  simp only [listChildren, h, bind, Except.bind, children]
  rfl

theorem childName?_below (root : String) {name : String} (h : '/' ∉ name.toList) :
    childName? (root ++ "/") (root ++ "/" ++ name) = some name := by
  have happ : (root ++ "/" ++ name).toList = (root ++ "/").toList ++ name.toList := String.toList_append
  have hs : (root ++ "/" ++ name).startsWith (root ++ "/") := by
    rw [String.startsWith_string_iff, happ]
    exact List.prefix_append _ _
  have hdrop : String.ofList ((root ++ "/" ++ name).toList.drop (root ++ "/").length) = name := by
    rw [← String.length_toList, happ, List.drop_left, String.ofList_toList]
  rw [childName?, if_pos hs]
  dsimp only
  rw [hdrop]
  simp [h]

theorem childEntry_of_not_underRoot {root p : String} (h : underRoot root p = false) (n : Node) :
    childEntry root (p, n) = none := by
  simp only [underRoot, Bool.or_eq_false_iff] at h
  simp [childEntry, childName?, h.2]

/-- Putting a node at a path with no name below `root` leaves the children of `root`. -/
theorem filterMap_insertNode {root p : String} (hp : childName? (root ++ "/") p = none) (n : Node)
    (l : List (String × Node)) :
    (insertNode p n l).filterMap (childEntry root) = l.filterMap (childEntry root) := by
  induction l with
  | nil => simp [insertNode, childEntry, hp]
  | cons e rest ih =>
    obtain ⟨q, n'⟩ := e
    unfold insertNode
    split_ifs with hlt heq
    · simp [childEntry, hp]
    · subst heq
      simp [childEntry, hp]
    · simp only [List.filterMap_cons, ih]

theorem insertNode_perm {p : String} {l : List (String × Node)} (hp : p ∉ l.map (·.1)) (n : Node) :
    (insertNode p n l).Perm ((p, n) :: l) := by
  induction l with
  | nil => simp [insertNode]
  | cons e rest ih =>
    obtain ⟨q, n'⟩ := e
    simp only [List.map_cons, List.mem_cons, not_or] at hp
    unfold insertNode
    split_ifs with hlt heq
    · exact List.Perm.refl _
    · exact absurd heq hp.1
    · exact ((ih hp.2).cons (q, n')).trans (List.Perm.swap (p, n) (q, n') rest)

/-- A write at a path below `root` that no node has adds one child to `root`. -/
theorem children_write_perm {m : MemoryStore} {root name : String} (hslash : '/' ∉ name.toList)
    (hfresh : root ++ "/" ++ name ∉ m.nodes.map (·.1)) (value : String) :
    ((m.write (root ++ "/" ++ name) value).2.children root).Perm
      ((name, ⟨m.bump.revision, value⟩) :: m.children root) := by
  have h := (insertNode_perm hfresh ⟨m.bump.revision, value⟩).filterMap (childEntry root)
  rwa [List.filterMap_cons, childEntry, childName?_below root hslash] at h

theorem filterMap_filter_ne_of_none {root p : String} (hp : childName? (root ++ "/") p = none)
    (l : List (String × Node)) :
    (l.filter (·.1 != p)).filterMap (childEntry root) = l.filterMap (childEntry root) := by
  induction l with
  | nil => rfl
  | cons e rest ih =>
    obtain ⟨q, n⟩ := e
    by_cases hq : q = p
    · subst hq
      simp [childEntry, hp, ih]
    · rw [List.filter_cons_of_pos (by simpa using hq), List.filterMap_cons, List.filterMap_cons, ih]

/-- Removing the nodes at the path of a name below `root` removes the children of that name. -/
theorem filterMap_filter_ne (root name : String) (l : List (String × Node)) :
    (l.filter (·.1 != root ++ "/" ++ name)).filterMap (childEntry root) =
      (l.filterMap (childEntry root)).filter (·.1 != name) := by
  induction l with
  | nil => rfl
  | cons e rest ih =>
    obtain ⟨p, n⟩ := e
    rcases hc : childName? (root ++ "/") p with _ | x
    · by_cases hp : p = root ++ "/" ++ name
      · subst hp
        simp [childEntry, hc, ih]
      · simp [childEntry, hc, hp, ih]
    · -- the path is `root/x`, so it is the removed path exactly when `x` is the removed name
      have happ : (root ++ "/" ++ name).toList = (root ++ "/").toList ++ name.toList := String.toList_append
      have hpx : p = root ++ "/" ++ name ↔ x = name := by
        rw [← String.toList_inj, (toList_of_childName? hc).1, happ, List.append_cancel_left_eq,
          String.toList_inj]
      by_cases hx : x = name <;> simp [childEntry, hc, hpx, hx, ih]

theorem filterMap_filter_underRoot (root : String) (l : List (String × Node)) :
    (l.filter fun e => !underRoot root e.1).filterMap (childEntry root) = [] := by
  rw [List.filterMap_eq_nil_iff]
  rintro ⟨p, n⟩ he
  simp only [List.mem_filter, Bool.not_eq_eq_eq_not, Bool.not_true] at he
  exact childEntry_of_not_underRoot he.2 n

/-! ## What an operation does to the children of a path -/

namespace Op

/-- The operation leaves the children of `root` as they are, whatever the store: it writes and
removes no key directly below `root`. -/
def Leaves (root : String) (op : Op) : Prop :=
  ∀ m : MemoryStore, (op.next m).children root = m.children root

/-- An operation on one key whose path has no name directly below `root` leaves the children of
`root`. -/
theorem leaves_of_target {op : Op} {key : Identity} {p root : String} (ht : op.target? = some key)
    (hk : key.encode = .ok p) (hp : childName? (root ++ "/") p = none) : op.Leaves root := by
  intro m
  unfold next
  rcases h : op.apply m with e | m'
  · rfl
  · show m'.children root = m.children root
    rcases apply_of_target ht hk h with ⟨value, rfl⟩ | ⟨-, rfl⟩
    · exact filterMap_insertNode hp _ m.nodes
    · exact filterMap_filter_ne_of_none hp m.nodes

theorem next_append {key : Identity} {r : String} (hk : key.encode = .ok r) (value : String)
    (m : MemoryStore) :
    (Op.append key value).next m = (m.write (r ++ "/" ++ inOrderName m.bump.revision) value).2 := by
  simp [next, apply, MemoryStore.append, hk, bind, Except.bind, Except.map, write]

theorem nodes_next_delete {key : Identity} {p : String} (hk : key.encode = .ok p) (m : MemoryStore) :
    ((Op.delete key).next m).nodes = m.nodes.filter (·.1 != p) := by
  rcases hf : m.find? p with _ | n
  · -- no node has the path, so the failed removal changes nothing
    have hnone : ∀ e ∈ m.nodes, (e.1 != p) = true := by
      simp only [MemoryStore.find?, Option.map_eq_none_iff, List.find?_eq_none] at hf
      intro e he
      simpa using hf e he
    simp [next, apply, MemoryStore.delete, hk, hf, bind, Except.bind, List.filter_eq_self.mpr hnone]
  · simp [next, apply, MemoryStore.delete, hk, hf, bind, Except.bind]

/-- Removing the tree at a key with a path leaves that path no children, whether or not anything
was there. -/
theorem children_next_deleteTree {key : Identity} {r : String} (hk : key.encode = .ok r)
    (m : MemoryStore) : ((Op.deleteTree key).next m).children r = [] := by
  unfold next apply MemoryStore.deleteTree
  simp only [hk, bind, Except.bind, List.any_eq_true]
  by_cases hany : ∃ e ∈ m.nodes, underRoot r e.1 = true
  · rw [if_pos hany]
    exact filterMap_filter_underRoot r m.nodes
  · -- nothing is at or below the path, so the failed removal leaves no child either
    rw [if_neg hany]
    rw [children, List.filterMap_eq_nil_iff]
    rintro ⟨p, n⟩ he
    exact childEntry_of_not_underRoot (by simpa using fun h => hany ⟨_, he, h⟩) n

end Op

end MemoryStore

/-! ## Listing sorts by name -/

namespace Queue

variable {α : Type}

theorem insertByName_perm (x : String × α) (l : List (String × α)) :
    (insertByName x l).Perm (x :: l) := by
  induction l with
  | nil => rfl
  | cons y ys ih =>
    unfold insertByName
    split
    · exact (ih.cons y).trans (List.Perm.swap x y ys)
    · exact List.Perm.refl _

theorem pairwise_insertByName {x : String × α} {l : List (String × α)}
    (hl : l.Pairwise fun a b => a.1 ≤ b.1) : (insertByName x l).Pairwise fun a b => a.1 ≤ b.1 := by
  induction l with
  | nil => simp [insertByName]
  | cons y ys ih =>
    rw [List.pairwise_cons] at hl
    unfold insertByName
    split
    · rename_i hyx
      refine List.pairwise_cons.mpr ⟨fun z hz => ?_, ih hl.2⟩
      rcases List.mem_cons.mp ((insertByName_perm x ys).mem_iff.mp hz) with rfl | hz
      · exact hyx
      · exact hl.1 z hz
    · rename_i hyx
      have hxy : x.1 ≤ y.1 := le_of_lt (not_le.mp hyx)
      refine List.pairwise_cons.mpr ⟨fun z hz => ?_, List.pairwise_cons.mpr hl⟩
      rcases List.mem_cons.mp hz with rfl | hz
      · exact hxy
      · exact hxy.trans (hl.1 z hz)

theorem foldl_insertByName_perm (xs acc : List (String × α)) :
    (xs.foldl (fun acc y => insertByName y acc) acc).Perm (xs ++ acc) := by
  induction xs generalizing acc with
  | nil => rfl
  | cons x xs ih =>
    exact (ih _).trans (((insertByName_perm x acc).append_left xs).trans List.perm_middle)

theorem pairwise_foldl_insertByName {xs acc : List (String × α)} (hacc : acc.Pairwise fun a b => a.1 ≤ b.1) :
    (xs.foldl (fun acc y => insertByName y acc) acc).Pairwise fun a b => a.1 ≤ b.1 := by
  induction xs generalizing acc with
  | nil => exact hacc
  | cons x xs ih => exact ih (pairwise_insertByName hacc)

/-- Inserting by name, one after another, records whose names are distinct gives them in name
order, whatever order they come in: a list in strict name order is the only one in that order
with its records. -/
theorem foldl_insertByName_eq {β : Type} (g : List (String × α) → β → List (String × α))
    (p : β → String × α) (hg : ∀ acc x, g acc x = insertByName (p x) acc) {xs : List β}
    {records : List (String × α)} (hperm : (xs.map p).Perm records)
    (hsorted : records.Pairwise fun a b => a.1 < b.1) : xs.foldl g [] = records := by
  have hfold : xs.foldl g [] = (xs.map p).foldl (fun acc y => insertByName y acc) [] := by
    rw [List.foldl_map]
    congr 1
    funext acc x
    exact hg acc x
  rw [hfold]
  have hp : ((xs.map p).foldl (fun acc y => insertByName y acc) []).Perm records :=
    (foldl_insertByName_perm _ []).trans (by simpa using hperm)
  have hle : ((xs.map p).foldl (fun acc y => insertByName y acc) []).Pairwise fun a b => a.1 ≤ b.1 :=
    pairwise_foldl_insertByName List.Pairwise.nil
  have hne : ((xs.map p).foldl (fun acc y => insertByName y acc) []).Pairwise fun a b => a.1 ≠ b.1 := by
    have hnodup : (records.map (·.1)).Nodup := List.pairwise_map.mpr (hsorted.imp ne_of_lt)
    have hsorted_nodup : (((xs.map p).foldl (fun acc y => insertByName y acc) []).map (·.1)).Nodup :=
      (hp.map (·.1)).nodup_iff.mpr hnodup
    exact List.pairwise_map.mp hsorted_nodup
  have hlt := (hle.and hne).imp fun h => lt_of_le_of_ne h.1 h.2
  exact hp.eq_of_pairwise (fun a b _ _ hab hba => absurd hba (lt_asymm hab)) hlt hsorted

end Queue

/-! ## Calls around a queue -/

open MemoryStore

/-- A call in a run around a queue: one of the queue's own calls, or another operation of the
store. -/
inductive QueueCall where
  | add (v : Json)
  | deleteKey (name : String)
  | delete
  | other (op : Op)

namespace QueueCall

/-- The store operation a call makes around the queue whose root is `root`. -/
def op (root : Identity) : QueueCall → Op
  | .add v => .append root (Json.write v)
  | .deleteKey name => .delete (root.child name)
  | .delete => .deleteTree root
  | .other op => op

/-- The program of a call on a queue, its answer dropped. -/
def program (q : Queue) : QueueCall → KvM Unit
  | .add v => do let _ ← q.add v; pure ()
  | .deleteKey name => q.deleteKey name
  | .delete => q.delete
  | .other op => op.program

/-- The store after each call of a run in turn, each call made on the store the one before left,
whatever it answered. -/
def runAll (q : Queue) : Store → List QueueCall → Store
  | s, [] => s
  | s, c :: cs => runAll q ((c.program q).run s).2 cs

/-- The records a queue holds after a call made on the store `m` where it held `records`, each
with its name: an add puts its record last, under the name of the revision it takes; a removal by
name drops the records of that name; removing the queue drops them all; other operations keep
them. -/
def held (m : MemoryStore) (records : List (String × Json)) : QueueCall → List (String × Json)
  | .add v => records ++ [(inOrderName m.bump.revision, v)]
  | .deleteKey name => records.filter (·.1 != name)
  | .delete => []
  | .other _ => records

/-- The records the queue whose root is `root` holds after a run of calls from the store `m` where
it held `records`. -/
def queued (root : Identity) : MemoryStore → List (String × Json) → List QueueCall → List (String × Json)
  | _, records, [] => records
  | m, records, c :: cs => queued root ((c.op root).next m) (c.held m records) cs

/-- The calls that keep the order of a queue whose path is `r`: adds of records that read back
from their text, removals, and other operations that write and remove no key directly below the
queue. -/
def Allowed (r : String) : QueueCall → Prop
  | .add v => Json.read (Json.write v) = .ok v
  | .deleteKey _ => True
  | .delete => True
  | .other op => op.Leaves r

/-- On a memory store that no rival races, a call does what its operation does. -/
theorem program_run (q : Queue) (c : QueueCall) (m : MemoryStore) :
    (c.program q).run ⟨.memory m, []⟩ =
      (((c.op q.root).apply m).map fun _ => (), ⟨.memory ((c.op q.root).next m), []⟩) := by
  have hprog : c.program q = (c.op q.root).program := by
    cases c with
    | add v =>
      show (q.add v >>= fun _ => pure ()) = (Kv.append q.root (Json.write v) >>= fun _ => pure ())
      rw [Queue.add, Kv.appendJson, bind_assoc]
      congr 1
    | deleteKey name => rfl
    | delete => rfl
    | other op => rfl
  rw [hprog, Op.program_run]

theorem runAll_memory (q : Queue) (m : MemoryStore) (calls : List QueueCall) :
    runAll q ⟨.memory m, []⟩ calls = ⟨.memory (MemoryStore.run m (calls.map (·.op q.root))), []⟩ := by
  induction calls generalizing m with
  | nil => rfl
  | cons c cs ih => rw [runAll, program_run, ih, List.map_cons, MemoryStore.run_cons]

end QueueCall

/-! ## What a queue holds -/

namespace Queue

/-- What the queue at path `r` holds in a store: its children, as names and texts, are the held
records written out, in some order; the held names increase, each names a revision the store has
reached, and each record reads back from its text. -/
structure Holds (r : String) (m : MemoryStore) (records : List (String × Json)) : Prop where
  children : ((m.children r).map fun c => (c.1, c.2.value)).Perm
    (records.map fun x => (x.1, Json.write x.2))
  sorted : records.Pairwise fun a b => a.1 < b.1
  named : ∀ x ∈ records, ∃ k ≤ m.revision, x.1 = inOrderName k
  reads : ∀ x ∈ records, Json.read (Json.write x.2) = .ok x.2

namespace Holds

variable {r : String} {m m' : MemoryStore} {records : List (String × Json)}

theorem nil (h : m.children r = []) : Holds r m [] where
  children := by rw [h]; rfl
  sorted := List.Pairwise.nil
  named := by simp
  reads := by simp

theorem mem_records (hH : Holds r m records) {name : String} {n : Node} (h : (name, n) ∈ m.children r) :
    ∃ x ∈ records, x.1 = name ∧ Json.write x.2 = n.value := by
  have hmem : (name, n.value) ∈ records.map fun x => (x.1, Json.write x.2) :=
    hH.children.mem_iff.mp (List.mem_map.mpr ⟨(name, n), h, rfl⟩)
  obtain ⟨x, hx, he⟩ := List.mem_map.mp hmem
  exact ⟨x, hx, congrArg Prod.fst he, congrArg Prod.snd he⟩

/-- Below the ceiling, every held name comes before the name of the next revision. -/
theorem lt_next (hH : Holds r m records) (hroom : m.revision < revisionBound) :
    ∀ x ∈ records, x.1 < inOrderName (m.revision + 1) := by
  intro x hx
  obtain ⟨k, hk, hn⟩ := hH.named x hx
  rw [hn]
  exact inOrderName_lt (by omega) (lt_of_le_revisionBound (by omega))

/-- Below the ceiling, no node is at the path of the next revision's name: its child would be a
held record of a later name. -/
theorem fresh (hH : Holds r m records) (hroom : m.revision < revisionBound) :
    r ++ "/" ++ inOrderName (m.revision + 1) ∉ m.nodes.map (·.1) := by
  have hslash : '/' ∉ (inOrderName (m.revision + 1)).toList := fun h =>
    (inOrderName_chars (lt_of_le_revisionBound (by omega)) '/' h).1 rfl
  intro hmem
  obtain ⟨⟨p, n⟩, he, hp⟩ := List.mem_map.mp hmem
  simp only at hp
  subst hp
  have hchild : (inOrderName (m.revision + 1), n) ∈ m.children r :=
    List.mem_filterMap.mpr ⟨_, he, by simp [childEntry, childName?_below r hslash]⟩
  obtain ⟨x, hx, hxn, -⟩ := hH.mem_records hchild
  exact lt_irrefl _ (hxn ▸ hH.lt_next hroom x hx)

/-- A name that is no valid segment names no held record. -/
theorem filter_of_invalid (hH : Holds r m records) (hbound : m.revision ≤ revisionBound) {name : String}
    {e : KvError} (hv : Identity.validateSegment name = .error e) : records.filter (·.1 != name) = records := by
  refine List.filter_eq_self.mpr fun x hx => ?_
  obtain ⟨k, hk, hn⟩ := hH.named x hx
  have hvalid : Identity.validateSegment x.1 = .ok () := by
    rw [hn]
    exact validateSegment_inOrderName (lt_of_le_revisionBound (by omega))
  have hne : x.1 ≠ name := by
    intro h
    rw [h, hv] at hvalid
    cases hvalid
  simpa using hne

theorem keep (hH : Holds r m records) (hc : m'.children r = m.children r)
    (hrev : m.revision ≤ m'.revision) : Holds r m' records where
  children := hc ▸ hH.children
  sorted := hH.sorted
  named x hx := by
    obtain ⟨k, hk, hn⟩ := hH.named x hx
    exact ⟨k, hk.trans hrev, hn⟩
  reads := hH.reads

theorem filter (hH : Holds r m records) (name : String)
    (hc : m'.children r = (m.children r).filter (·.1 != name)) (hrev : m.revision ≤ m'.revision) :
    Holds r m' (records.filter (·.1 != name)) where
  children := by
    have h := hH.children.filter (·.1 != name)
    rw [hc]
    simpa [List.filter_map, Function.comp_def] using h
  sorted := hH.sorted.filter _
  named x hx := by
    obtain ⟨k, hk, hn⟩ := hH.named x (List.mem_filter.mp hx).1
    exact ⟨k, hk.trans hrev, hn⟩
  reads x hx := hH.reads x (List.mem_filter.mp hx).1

/-- Below the ceiling, writing a record under the name of the next revision puts it after the
held ones. -/
theorem write (hH : Holds r m records) (hroom : m.revision < revisionBound) {v : Json}
    (hv : Json.read (Json.write v) = .ok v) :
    Holds r (m.write (r ++ "/" ++ inOrderName m.bump.revision) (Json.write v)).2
      (records ++ [(inOrderName m.bump.revision, v)]) := by
  have hbump : m.bump.revision = m.revision + 1 := by
    simp only [bump]
    omega
  rw [hbump]
  set name := inOrderName (m.revision + 1)
  have hslash : '/' ∉ name.toList := fun h =>
    (inOrderName_chars (lt_of_le_revisionBound (by omega)) '/' h).1 rfl
  have hnew := children_write_perm hslash (hH.fresh hroom) (Json.write v)
  have hrev : (m.write (r ++ "/" ++ name) (Json.write v)).2.revision = m.revision + 1 := hbump
  refine ⟨?_, ?_, ?_, ?_⟩
  · calc List.Perm (((m.write (r ++ "/" ++ name) (Json.write v)).2.children r).map fun c => (c.1, c.2.value))
          ((name, Json.write v) :: (m.children r).map fun c => (c.1, c.2.value)) := hnew.map _
      List.Perm _ ((name, Json.write v) :: records.map fun x => (x.1, Json.write x.2)) :=
          hH.children.cons _
      List.Perm _ ((records.map fun x => (x.1, Json.write x.2)) ++ [(name, Json.write v)]) :=
          (List.perm_append_singleton _ _).symm
      _ = (records ++ [(name, v)]).map fun x => (x.1, Json.write x.2) := by simp
  · refine List.pairwise_append.mpr ⟨hH.sorted, List.pairwise_singleton _ _, ?_⟩
    intro a ha b hb
    rw [List.mem_singleton] at hb
    subst hb
    exact hH.lt_next hroom a ha
  · intro x hx
    rcases List.mem_append.mp hx with hx | hx
    · obtain ⟨k, hk, hn⟩ := hH.named x hx
      exact ⟨k, by omega, hn⟩
    · rw [List.mem_singleton] at hx
      subst hx
      exact ⟨m.revision + 1, hrev.ge, rfl⟩
  · intro x hx
    rcases List.mem_append.mp hx with hx | hx
    · exact hH.reads x hx
    · rw [List.mem_singleton] at hx
      subst hx
      exact hv

/-- One allowed call with room for its revision keeps what the queue holds, as
`QueueCall.held` says. -/
theorem step {root : Identity} (hr : root.encode = .ok r) (hseg : root.segments ≠ [])
    (hH : Holds r m records) {c : QueueCall} (hc : c.Allowed r)
    (hroom : m.revision + (c.op root).increments m ≤ revisionBound) :
    Holds r ((c.op root).next m) (c.held m records) := by
  have hrev : m.revision ≤ ((c.op root).next m).revision := by
    rw [Op.revision_next hroom]
    omega
  cases c with
  | add v =>
    have hinc : (Op.append root (Json.write v)).increments m = 1 := by
      simp [Op.increments, Op.apply, Op.bumps, MemoryStore.append, hr, bind, Except.bind, Except.map]
    rw [QueueCall.op, hinc] at hroom
    rw [QueueCall.op, Op.next_append hr, QueueCall.held]
    exact hH.write (by omega) hc
  | deleteKey name =>
    rcases hv : Identity.validateSegment name with e | u
    · -- an invalid name names no record, and removing it fails
      have hk : (root.child name).encode = .error e := by
        rw [Identity.encode_child hr hseg, hv]
        rfl
      have hnext : (Op.delete (root.child name)).next m = m := by
        simp [Op.next, Op.apply, MemoryStore.delete, hk, bind, Except.bind]
      have hkeep := hH.filter_of_invalid (by omega) hv
      rw [QueueCall.op, QueueCall.held, hnext, hkeep]
      exact hH
    · have hk : (root.child name).encode = .ok (r ++ "/" ++ name) := by
        rw [Identity.encode_child hr hseg, hv]
        rfl
      refine hH.filter name ?_ hrev
      rw [QueueCall.op, MemoryStore.children, Op.nodes_next_delete hk, filterMap_filter_ne]
      rfl
  | delete => exact Holds.nil (Op.children_next_deleteTree hr m)
  | other op => exact hH.keep (hc m) hrev

/-- A run of allowed calls with room for its revisions keeps what the queue holds, as
`QueueCall.queued` says. -/
theorem run {root : Identity} (hr : root.encode = .ok r) (hseg : root.segments ≠ [])
    {calls : List QueueCall} (hcalls : ∀ c ∈ calls, c.Allowed r) (hH : Holds r m records)
    (hroom : m.revision + MemoryStore.increments m (calls.map (·.op root)) ≤ revisionBound) :
    Holds r (MemoryStore.run m (calls.map (·.op root))) (QueueCall.queued root m records calls) := by
  induction calls generalizing m records with
  | nil => exact hH
  | cons c cs ih =>
    simp only [List.map_cons, MemoryStore.increments] at hroom
    have hnext : ((c.op root).next m).revision = m.revision + (c.op root).increments m :=
      Op.revision_next (by omega)
    rw [List.map_cons, MemoryStore.run_cons, QueueCall.queued]
    refine ih (fun c' hc' => hcalls c' (List.mem_cons_of_mem c hc'))
      (hH.step hr hseg (hcalls c (List.mem_cons_self ..)) (by omega)) ?_
    rw [hnext]
    omega

end Holds

theorem exists_mapM_ok {β γ ε : Type} {f : β → Except ε γ} {l : List β} (h : ∀ a ∈ l, ∃ b, f a = .ok b) :
    ∃ bs, l.mapM f = .ok bs ∧ List.Forall₂ (fun a b => f a = .ok b) l bs := by
  induction l with
  | nil => exact ⟨[], rfl, List.Forall₂.nil⟩
  | cons a l ih =>
    obtain ⟨b, hb⟩ := h a (List.mem_cons_self ..)
    obtain ⟨bs, hbs, hall⟩ := ih fun a ha => h a (List.mem_cons_of_mem _ ha)
    refine ⟨b :: bs, ?_, List.Forall₂.cons hb hall⟩
    simp [List.mapM_cons, hb, hbs, bind, Except.bind, pure, Except.pure]

theorem exists_run_liftExcept_mapM {β γ : Type} {f : β → Except KvError γ} {l : List β} {s : Store}
    {P : List γ → Prop} (h : ∀ a ∈ l, ∃ b, f a = .ok b)
    (hP : ∀ bs, List.Forall₂ (fun a b => f a = .ok b) l bs → P bs) :
    ∃ bs, (Kv.liftExcept (l.mapM f)).run s = (.ok bs, s) ∧ P bs := by
  obtain ⟨bs, hbs, hall⟩ := exists_mapM_ok h
  refine ⟨bs, ?_, hP bs hall⟩
  show (l.mapM f, s) = (.ok bs, s)
  rw [hbs]

namespace Holds

variable {r : String} {m : MemoryStore} {records : List (String × Json)}

/-- The children of a queue that holds records read back as those records, in some order. -/
theorem listAs (hH : Holds r m records) {key : Identity} (hr : key.encode = .ok r) :
    ∃ items, (Kv.listAs .ok key).run ⟨.memory m, []⟩ = (.ok items, ⟨.memory m, []⟩) ∧
      (items.map fun x => (x.1, x.2.2)).Perm records := by
  have hkids : (Kv.listChildren key).run ⟨.memory m, []⟩ = (.ok (m.children r), ⟨.memory m, []⟩) := by
    rw [Kv.listChildren_run_memory rfl, listChildren_eq_children hr]
  rw [Kv.listAs, run_bind_ok hkids]
  apply exists_run_liftExcept_mapM
  · rintro ⟨name, n⟩ hc
    obtain ⟨x, hx, -, hval⟩ := hH.mem_records hc
    refine ⟨(name, n.version, x.2), ?_⟩
    simp [Kv.decodeAs, Kv.decodeRaw, ← hval, hH.reads x hx, bind, Except.bind, pure, Except.pure]
  · intro items hall
    have hpoint : List.Forall₂ (fun (c : String × Node) (x : String × Nat × Json) =>
        (c.1, (Json.read c.2.value).toOption) = (x.1, some x.2.2)) (m.children r) items := by
      refine hall.imp fun c item hab => ?_
      obtain ⟨name, n⟩ := c
      rcases hv : Json.read n.value with e | v <;>
        simp [Kv.decodeAs, Kv.decodeRaw, hv, bind, Except.bind, pure, Except.pure] at hab
      subst hab
      simp [Except.toOption]
    have hread : List.Forall₂ (· = ·) ((m.children r).map fun c => (c.1, (Json.read c.2.value).toOption))
        (items.map fun x => (x.1, some x.2.2)) :=
      List.forall₂_map_left_iff.mpr (List.forall₂_map_right_iff.mpr hpoint)
    rw [List.forall₂_eq_eq_eq] at hread
    have hrecords : (records.map fun x => (x.1, (Json.read (Json.write x.2)).toOption)) =
        records.map fun x => (x.1, some x.2) :=
      List.map_congr_left fun x hx => by rw [hH.reads x hx]; rfl
    have htexts := hH.children.map fun t : String × String => (t.1, (Json.read t.2).toOption)
    simp only [List.map_map, Function.comp_def, hrecords, hread] at htexts
    have hitems := htexts.map fun t : String × Option Json => (t.1, t.2.getD .null)
    simpa [List.map_map, Function.comp_def] using hitems

/-- A queue lists the records it holds, in their order, and the listing changes nothing. -/
theorem list (hH : Holds r m records) {q : Queue} (hr : q.root.encode = .ok r) :
    q.list.run ⟨.memory m, []⟩ = (.ok (records.map (·.2)), ⟨.memory m, []⟩) := by
  obtain ⟨items, hitems, hperm⟩ := hH.listAs hr
  have hwith : q.listWithNames.run ⟨.memory m, []⟩ = (.ok records, ⟨.memory m, []⟩) := by
    rw [listWithNames, run_bind_ok hitems,
      foldl_insertByName_eq _ (fun x : String × Nat × Json => (x.1, x.2.2)) ?hg hperm hH.sorted]
    · rfl
    · intro acc x
      rfl
  rw [Queue.list, run_bind_ok hwith]
  rfl

end Holds

/-- An add answers the name of the next revision, the name its record is held under. -/
theorem add_run {q : Queue} {r : String} (hr : q.root.encode = .ok r) (v : Json) (m : MemoryStore) :
    (q.add v).run ⟨.memory m, []⟩ =
      (.ok (inOrderName m.bump.revision), ⟨.memory (((QueueCall.add v).op q.root).next m), []⟩) := by
  simp [Queue.add, Kv.appendJson, Kv.append, Kv.write, Backend.append, Backend.onMemory, MemoryStore.append,
    QueueCall.op, Op.next, Op.apply, hr, bind, Except.bind, Except.map, ExceptT.run, ExceptT.bind,
    ExceptT.mk, ExceptT.bindCont, StateT.bind, pure, ExceptT.pure, StateT.pure]

end Queue

end MapReduce
