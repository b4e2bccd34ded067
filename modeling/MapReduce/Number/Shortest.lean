import MapReduce.Number.Binary64

/-! The shortest decimal that reads back as a given binary64 number. A decimal reads back when it
lies in the interval of reals that round to the number, ends included iff the mantissa is even.
For one, two, … seventeen significant digits the two neighbours of the number on that decimal grid
are tested; the first grid with a hit wins, of two hits the nearer, of two equally near the even one.
Seventeen digits always hit, so the search is finite. -/

namespace MapReduce

/-- A decimal `digits · 10 ^ exp10`. -/
structure Decimal where
  digits : Nat
  exp10 : Int
  deriving DecidableEq, Repr

namespace Binary64

/-- Compares `j · 10 ^ s` with `x · 2 ^ t`. -/
def compareDecBin (j : Nat) (s : Int) (x : Nat) (t : Int) : Ordering :=
  Ord.compare (j * Nat.pow 10 s.toNat * Nat.pow 2 (-t).toNat) (x * Nat.pow 2 t.toNat * Nat.pow 10 (-s).toNat)

/-- Raises an estimate `e` of the decimal exponent of `x · 2 ^ t` until `10 ^ (e + 1)` exceeds it. -/
def raiseExp10 (x : Nat) (t : Int) : Nat → Int → Int
  | 0, e => e
  | fuel + 1, e => if compareDecBin 1 (e + 1) x t == .gt then e else raiseExp10 x t fuel (e + 1)

/-- Lowers an estimate `e` of the decimal exponent of `x · 2 ^ t` until `10 ^ e` is at most it. -/
def lowerExp10 (x : Nat) (t : Int) : Nat → Int → Int
  | 0, e => e
  | fuel + 1, e => if compareDecBin 1 e x t == .gt then lowerExp10 x t fuel (e - 1) else e

/-- The decimal exponent `E` with `10 ^ E ≤ x · 2 ^ t < 10 ^ (E + 1)`, for positive `x`. -/
def exp10Of (x : Nat) (t : Int) : Int :=
  let bits : Int := (Nat.log2 x : Int) + t
  let guess : Int := (bits * 30103) / 100000
  raiseExp10 x t 4 (lowerExp10 x t 4 guess)

/-- Removes trailing zero digits, moving them into the exponent. -/
def Decimal.trim : Nat → Decimal → Decimal
  | 0, d => d
  | fuel + 1, d =>
    if d.digits ≠ 0 ∧ d.digits % 10 = 0 then Decimal.trim fuel ⟨d.digits / 10, d.exp10 + 1⟩ else d

/-- The shortest decimal that reads back as the positive magnitude `mant · 2 ^ exp`, nearest to it
among those of that length. -/
def shortestMagnitude (mant : Nat) (exp : Int) : Decimal :=
  let t := exp - 2
  let v := 4 * mant
  let hi := 4 * mant + 2
  let lo := if mant = Nat.pow 2 52 ∧ exp > minExp then 4 * mant - 1 else 4 * mant - 2
  let closed := mant % 2 == 0
  let inside (j : Nat) (s : Int) : Bool :=
    let cl := compareDecBin j s lo t
    let ch := compareDecBin j s hi t
    (cl == .gt || (closed && cl == .eq)) && (ch == .lt || (closed && ch == .eq))
  let e := exp10Of v t
  let attempt (n : Nat) : Option Decimal :=
    let s : Int := e - n + 1
    let j := (v * Nat.pow 2 t.toNat * Nat.pow 10 (-s).toNat) / (Nat.pow 2 (-t).toNat * Nat.pow 10 s.toNat)
    match inside j s, inside (j + 1) s with
    | true, true =>
      match compareDecBin (2 * j + 1) s (2 * v) t with
      | .gt => some ⟨j, s⟩
      | .lt => some ⟨j + 1, s⟩
      | .eq => some (if j % 2 = 0 then ⟨j, s⟩ else ⟨j + 1, s⟩)
    | true, false => some ⟨j, s⟩
    | false, true => some ⟨j + 1, s⟩
    | false, false => none
  let found := (List.range 17).findSome? fun n => attempt (n + 1)
  Decimal.trim 20 (found.getD ⟨mant, exp⟩)

/-- The shortest decimal that reads back as the magnitude of a nonzero number. -/
def shortest (x : Binary64) : Decimal := shortestMagnitude x.mant x.exp

end Binary64

end MapReduce
