import MapReduce.Data.KeyOrder
import Mathlib

/-! # The key order

Keys compare first by kind, then within a kind; two numbers compare exactly when both are signed
64-bit integers and as binary64 numbers otherwise. The order is reflexive and antisymmetric on all
keys. It is transitive on keys whose numbers are all signed 64-bit integers, but not on all keys:
an integer compared with a float is rounded first, so `2 ^ 53 + 1` and `2 ^ 53` both equal the
float `2 ^ 53` while the first is greater than the second. -/

namespace MapReduce

namespace Binary64

theorem compare_swap (x y : Binary64) : compare y x = (compare x y).swap := by
  simp only [compare]
  exact Std.OrientedOrd.eq_swap

end Binary64

namespace Json

theorem compareNumbers_swap (x y : Number) : compareNumbers y x = (compareNumbers x y).swap := by
  unfold compareNumbers
  rcases x.toInt64? with _ | i <;> rcases y.toInt64? with _ | j
  · exact Binary64.compare_swap _ _
  · exact Binary64.compare_swap _ _
  · exact Binary64.compare_swap _ _
  · exact Std.OrientedOrd.eq_swap

theorem compareKeys_of_kindRank_ne {a b : Json} (h : a.kindRank ≠ b.kindRank) :
    compareKeys a b = compare a.kindRank b.kindRank := by
  cases a <;> cases b <;> simp_all [kindRank, compareKeys]


theorem compareKeyLists_swap_of {xs : List Json}
    (h : ∀ x ∈ xs, ∀ y, compareKeys y x = (compareKeys x y).swap) (ys : List Json) :
    compareKeyLists ys xs = (compareKeyLists xs ys).swap := by
  induction xs generalizing ys with
  | nil => cases ys <;> rfl
  | cons x xs ih =>
    cases ys with
    | nil => rfl
    | cons y ys =>
      simp only [compareKeyLists]
      rw [h x (List.mem_cons_self ..) y]
      cases compareKeys x y
      · rfl
      · exact ih (fun x' hx' => h x' (List.mem_cons_of_mem _ hx')) ys
      · rfl

/-- The key order turns around with its arguments. -/
theorem compareKeys_swap (a b : Json) : compareKeys b a = (compareKeys a b).swap := by
  induction hn : sizeOf a using Nat.strong_induction_on generalizing a b with
  | _ n ih =>
  by_cases h : a.kindRank = b.kindRank
  · cases a <;> cases b <;> simp [kindRank] at h
    case null.null => rfl
    case bool.bool x y =>
      simp only [compareKeys]
      exact Std.OrientedOrd.eq_swap
    case num.num x y =>
      simp only [compareKeys]
      exact compareNumbers_swap x y
    case str.str x y =>
      simp only [compareKeys]
      exact Std.OrientedOrd.eq_swap
    case arr.arr xs ys =>
      simp only [compareKeys]
      refine compareKeyLists_swap_of (fun x hx y => ih (sizeOf x) ?_ x y rfl) ys
      have hlt := List.sizeOf_lt_of_mem hx
      simp only [Json.arr.sizeOf_spec] at hn
      omega
    case obj.obj x y =>
      simp only [compareKeys]
      exact Std.OrientedOrd.eq_swap
  · rw [compareKeys_of_kindRank_ne h, compareKeys_of_kindRank_ne (Ne.symm h)]
    exact Std.OrientedOrd.eq_swap

theorem compareKeys_refl (a : Json) : compareKeys a a = .eq := by
  have hs := compareKeys_swap a a
  cases h : compareKeys a a with
  | eq => rfl
  | lt =>
    rw [h] at hs
    cases hs
  | gt =>
    rw [h] at hs
    cases hs

theorem compareKeys_eq_of_le_of_le {a b : Json} (hab : compareKeys a b ≠ .gt)
    (hba : compareKeys b a ≠ .gt) : compareKeys a b = .eq := by
  rw [compareKeys_swap] at hba
  cases h : compareKeys a b with
  | eq => rfl
  | gt => exact absurd h hab
  | lt =>
    rw [h] at hba
    exact absurd rfl hba

theorem compareKeys_swap_ne_gt {a b : Json} (h : compareKeys a b ≠ .lt) :
    compareKeys b a ≠ .gt := by
  rw [compareKeys_swap]
  cases hc : compareKeys a b with
  | lt => exact absurd hc h
  | eq => decide
  | gt => decide

/-! ## Transitivity on exact keys -/

/-- Keys whose numbers, outside objects, are all signed 64-bit integers, so that every two of them
compare on the exact path; objects compare by their text, whatever they hold. -/
inductive ExactKey : Json → Prop
  | null : ExactKey .null
  | bool (b : Bool) : ExactKey (.bool b)
  | num {x : Number} (h : x.toInt64?.isSome) : ExactKey (.num x)
  | str (s : String) : ExactKey (.str s)
  | arr {xs : List Json} (h : ∀ x ∈ xs, ExactKey x) : ExactKey (.arr xs)
  | obj (kvs : List (String × Json)) : ExactKey (.obj kvs)

/-- Two signed 64-bit integers compare exactly, so the order of such numbers is transitive. -/
theorem compareNumbers_trans {x y z : Number} (hx : x.toInt64?.isSome) (hy : y.toInt64?.isSome)
    (hz : z.toInt64?.isSome) (hxy : compareNumbers x y ≠ .gt) (hyz : compareNumbers y z ≠ .gt) :
    compareNumbers x z ≠ .gt := by
  obtain ⟨i, hi⟩ := Option.isSome_iff_exists.mp hx
  obtain ⟨j, hj⟩ := Option.isSome_iff_exists.mp hy
  obtain ⟨k, hk⟩ := Option.isSome_iff_exists.mp hz
  simp only [compareNumbers, hi, hj, hk] at hxy hyz ⊢
  exact Std.TransCmp.le_trans hxy hyz

theorem kindRank_le_of_compareKeys {a b : Json} (h : compareKeys a b ≠ .gt) :
    a.kindRank ≤ b.kindRank := by
  by_contra hlt
  rw [compareKeys_of_kindRank_ne (by omega)] at h
  exact h (Nat.compare_eq_gt.mpr (by omega))

theorem compareKeys_of_kindRank_lt {a b : Json} (h : a.kindRank < b.kindRank) :
    compareKeys a b = .lt := by
  rw [compareKeys_of_kindRank_ne (by omega)]
  exact Nat.compare_eq_lt.mpr h

section Lex

variable {S : Json → Prop}
  (hS : ∀ a b c, S a → S b → S c → compareKeys a b ≠ .gt → compareKeys b c ≠ .gt →
    compareKeys a c ≠ .gt)
include hS

/-- Among keys on which the order is transitive, a strict step followed by a weak one is strict:
were the ends equal, the order would close a loop through a greater key. -/
theorem compareKeys_lt_of_lt_of_le {a b c : Json} (ha : S a) (hb : S b) (hc : S c)
    (hab : compareKeys a b = .lt) (hbc : compareKeys b c ≠ .gt) : compareKeys a c = .lt := by
  have hac : compareKeys a c ≠ .gt := hS a b c ha hb hc (by rw [hab]; decide) hbc
  cases h : compareKeys a c with
  | lt => rfl
  | gt => exact absurd h hac
  | eq =>
    have hca : compareKeys c a ≠ .gt := by rw [compareKeys_swap, h]; decide
    have hba := hS b c a hb hc ha hbc hca
    rw [compareKeys_swap, hab] at hba
    exact absurd rfl hba

theorem compareKeys_lt_of_le_of_lt {a b c : Json} (ha : S a) (hb : S b) (hc : S c)
    (hab : compareKeys a b ≠ .gt) (hbc : compareKeys b c = .lt) : compareKeys a c = .lt := by
  have hac : compareKeys a c ≠ .gt := hS a b c ha hb hc hab (by rw [hbc]; decide)
  cases h : compareKeys a c with
  | lt => rfl
  | gt => exact absurd h hac
  | eq =>
    have hca : compareKeys c a ≠ .gt := by rw [compareKeys_swap, h]; decide
    have hcb := hS c a b hc ha hb hca hab
    rw [compareKeys_swap, hbc] at hcb
    exact absurd rfl hcb

theorem compareKeys_eq_of_eq_of_eq {a b c : Json} (ha : S a) (hb : S b) (hc : S c)
    (hab : compareKeys a b = .eq) (hbc : compareKeys b c = .eq) : compareKeys a c = .eq := by
  have hac := hS a b c ha hb hc (by rw [hab]; decide) (by rw [hbc]; decide)
  have hca := hS c b a hc hb ha (by rw [compareKeys_swap, hbc]; decide)
    (by rw [compareKeys_swap, hab]; decide)
  rw [compareKeys_swap] at hca
  cases h : compareKeys a c with
  | eq => rfl
  | gt => exact absurd h hac
  | lt =>
    rw [h] at hca
    exact absurd rfl hca

/-- The order of arrays is transitive on arrays of keys among which the order is. -/
theorem compareKeyLists_trans_of {xs ys zs : List Json} (hxs : ∀ x ∈ xs, S x)
    (hys : ∀ y ∈ ys, S y) (hzs : ∀ z ∈ zs, S z) (hxy : compareKeyLists xs ys ≠ .gt)
    (hyz : compareKeyLists ys zs ≠ .gt) : compareKeyLists xs zs ≠ .gt := by
  induction xs generalizing ys zs with
  | nil => cases zs <;> simp [compareKeyLists]
  | cons x xs ih =>
    cases ys with
    | nil => simp [compareKeyLists] at hxy
    | cons y ys =>
      cases zs with
      | nil => simp [compareKeyLists] at hyz
      | cons z zs =>
        have sx := hxs x (List.mem_cons_self ..)
        have sy := hys y (List.mem_cons_self ..)
        have sz := hzs z (List.mem_cons_self ..)
        simp only [compareKeyLists] at hxy hyz ⊢
        have hyz' : compareKeys y z ≠ .gt := fun h => by simp [h] at hyz
        cases h₁ : compareKeys x y with
        | gt => simp [h₁] at hxy
        | lt =>
          rw [compareKeys_lt_of_lt_of_le hS sx sy sz h₁ hyz']
          simp
        | eq =>
          simp only [h₁] at hxy
          cases h₂ : compareKeys y z with
          | gt => exact absurd h₂ hyz'
          | lt =>
            rw [compareKeys_lt_of_le_of_lt hS sx sy sz (by rw [h₁]; decide) h₂]
            simp
          | eq =>
            simp only [h₂] at hyz
            rw [compareKeys_eq_of_eq_of_eq hS sx sy sz h₁ h₂]
            exact ih (fun x' hx' => hxs x' (List.mem_cons_of_mem _ hx'))
              (fun y' hy' => hys y' (List.mem_cons_of_mem _ hy'))
              (fun z' hz' => hzs z' (List.mem_cons_of_mem _ hz')) hxy hyz

end Lex

/-- The key order is transitive on keys no larger than a bound, by induction on the bound: the
elements of three arrays below it are below one less. -/
theorem compareKeys_trans_below (n : Nat) :
    ∀ a b c : Json, ExactKey a → ExactKey b → ExactKey c →
      sizeOf a < n → sizeOf b < n → sizeOf c < n →
      compareKeys a b ≠ .gt → compareKeys b c ≠ .gt → compareKeys a c ≠ .gt := by
  induction n with
  | zero => intro a _ _ _ _ _ sa; omega
  | succ n ih =>
    intro a b c ha hb hc sa sb sc hab hbc
    have e₁ := kindRank_le_of_compareKeys hab
    have e₂ := kindRank_le_of_compareKeys hbc
    by_cases h₁ : a.kindRank < b.kindRank
    · rw [compareKeys_of_kindRank_lt (by omega)]
      decide
    by_cases h₂ : b.kindRank < c.kindRank
    · rw [compareKeys_of_kindRank_lt (by omega)]
      decide
    cases ha <;> cases hb <;> simp [kindRank] at h₁ e₁ <;>
      cases hc <;> simp [kindRank] at h₂ e₂
    case null.null.null => simp [compareKeys]
    case bool.bool.bool x y z =>
      simp only [compareKeys] at hab hbc ⊢
      exact Std.TransCmp.le_trans hab hbc
    case num.num.num x hx y hy z hz =>
      simp only [compareKeys] at hab hbc ⊢
      exact compareNumbers_trans hx hy hz hab hbc
    case str.str.str x y z =>
      simp only [compareKeys] at hab hbc ⊢
      exact Std.TransCmp.le_trans hab hbc
    case arr.arr.arr xs hx ys hy zs hz =>
      simp only [compareKeys] at hab hbc ⊢
      simp only [Json.arr.sizeOf_spec] at sa sb sc
      have below : ∀ {ts : List Json}, sizeOf ts < n → ∀ t ∈ ts, sizeOf t < n :=
        fun hts t ht => lt_trans (List.sizeOf_lt_of_mem ht) hts
      exact compareKeyLists_trans_of (S := fun t => ExactKey t ∧ sizeOf t < n)
        (fun a b c ha hb hc => ih a b c ha.1 hb.1 hc.1 ha.2 hb.2 hc.2)
        (fun x h => ⟨hx x h, below (by omega) x h⟩)
        (fun y h => ⟨hy y h, below (by omega) y h⟩)
        (fun z h => ⟨hz z h, below (by omega) z h⟩) hab hbc
    case obj.obj.obj x y z =>
      simp only [compareKeys] at hab hbc ⊢
      exact Std.TransCmp.le_trans hab hbc

/-- The key order is transitive on exact keys. -/
theorem compareKeys_trans {a b c : Json} (ha : ExactKey a) (hb : ExactKey b) (hc : ExactKey c)
    (hab : compareKeys a b ≠ .gt) (hbc : compareKeys b c ≠ .gt) : compareKeys a c ≠ .gt :=
  compareKeys_trans_below (sizeOf a + sizeOf b + sizeOf c + 1) a b c ha hb hc (by omega) (by omega)
    (by omega) hab hbc


theorem compareKeys_eq_trans {a b c : Json} (ha : ExactKey a) (hb : ExactKey b) (hc : ExactKey c)
    (hab : compareKeys a b = .eq) (hbc : compareKeys b c = .eq) : compareKeys a c = .eq :=
  compareKeys_eq_of_eq_of_eq (fun _ _ _ => compareKeys_trans) ha hb hc hab hbc

/-- The key order is a total preorder on exact keys: every key equals itself, the order turns
around with its arguments, and it is transitive when no number is compared across the exact and
the binary64 paths. -/
theorem compareKeys_total_preorder_on_exact_keys (a b c : Json) :
    compareKeys a a = .eq ∧ compareKeys b a = (compareKeys a b).swap ∧
    (ExactKey a → ExactKey b → ExactKey c →
      compareKeys a b ≠ .gt → compareKeys b c ≠ .gt → compareKeys a c ≠ .gt) :=
  ⟨compareKeys_refl a, compareKeys_swap a b, compareKeys_trans⟩

theorem compareKeys_trans_through_integer_array :
    compareKeys (.arr [.num (.int 1)]) (.arr [.num (.int 2), .null]) ≠ .gt :=
  (compareKeys_total_preorder_on_exact_keys _ (.arr [.num (.int 1), .str "b"]) _).2.2
    (.arr (by simp only [List.mem_singleton, forall_eq]; exact .num rfl))
    (.arr (by
      simp only [List.forall_mem_cons]
      exact ⟨.num rfl, .str "b", List.forall_mem_nil _⟩))
    (.arr (by simp only [List.forall_mem_cons]; exact ⟨.num rfl, .null, List.forall_mem_nil _⟩))
    (by decide) (by decide)

/-- Across the two paths the order is not transitive: `2 ^ 53 + 1` and `2 ^ 53` both equal the
float `2 ^ 53`, which they round to, yet compare exactly as integers. -/
theorem compareKeys_not_transitive :
    ¬ ∀ a b c : Json,
      compareKeys a b ≠ .gt → compareKeys b c ≠ .gt → compareKeys a c ≠ .gt := by
  intro h
  exact h (.num (.int 9007199254740993)) (.num (.float ⟨false, 4503599627370496, 1⟩))
    (.num (.int 9007199254740992)) (by decide) (by decide) (by decide)

end Json

end MapReduce
