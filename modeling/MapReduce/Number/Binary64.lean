/-! Finite binary64 numbers held as exact integers: a sign and a magnitude `mant · 2 ^ exp` in the
canonical layout of the format. Every operation is the exact operation on the rationals followed
by one rounding to the nearest representable magnitude, ties going to the even mantissa; a result
too large for the format is reported as an overflow instead of an infinity. -/

namespace MapReduce

/-- A finite binary64 number. Its magnitude is `mant · 2 ^ exp`. A normal number has
`2 ^ 52 ≤ mant < 2 ^ 53` and `-1074 ≤ exp ≤ 971`; a subnormal number, zero included, has
`mant < 2 ^ 52` and `exp = -1074`. The sign is kept for zero as well. -/
structure Binary64 where
  neg : Bool
  mant : Nat
  exp : Int
  deriving DecidableEq, Repr, Inhabited

namespace Binary64

/-- The exponent of the least unit of the format. -/
def minExp : Int := -1074

/-- The exponent of the least unit of the largest binade. -/
def maxExp : Int := 971

/-- Positive zero. -/
def zero : Binary64 := ⟨false, 0, minExp⟩

/-- `2 ^ e` as a pair numerator, denominator. -/
def powTwo (e : Int) : Nat × Nat :=
  if 0 ≤ e then (Nat.pow 2 e.toNat, 1) else (1, Nat.pow 2 (-e).toNat)

/-- Whether `num / den < 2 ^ k`. -/
def quotLtPowTwo (num den : Nat) (k : Int) : Bool :=
  let (a, b) := powTwo k
  decide (num * b < den * a)

/-- The binary exponent `e` with `2 ^ e ≤ num / den < 2 ^ (e + 1)`, for positive `num`, `den`. -/
def log2Quot (num den : Nat) : Int :=
  let k : Int := (Nat.log2 num : Int) - (Nat.log2 den : Int)
  if quotLtPowTwo num den k then k - 1 else k

/-- The nearest natural number to `num / den`, a tie going to the even one. -/
def roundHalfEven (num den : Nat) : Nat :=
  let q := num / den
  let r := num % den
  if 2 * r > den then q + 1
  else if 2 * r = den then q + q % 2
  else q

/-- The magnitude nearest to `num / den` as a pair `(mant, exp)` in the canonical layout,
or `none` when it lies beyond the largest finite magnitude. -/
def roundQuot (num den : Nat) : Option (Nat × Int) :=
  if num = 0 ∨ den = 0 then some (0, minExp)
  else
    let unit := max (log2Quot num den - 52) minExp
    let (a, b) := powTwo unit
    let m := roundHalfEven (num * b) (den * a)
    let (m, unit) := if m = Nat.pow 2 53 then (Nat.pow 2 52, unit + 1) else (m, unit)
    if unit > maxExp then none else some (m, unit)

/-- The number nearest to `num / den` with the given sign. -/
def ofQuot (neg : Bool) (num den : Nat) : Option Binary64 :=
  (roundQuot num den).map fun (m, e) => ⟨neg, m, e⟩

/-- The magnitude as a pair numerator, denominator. -/
def magnitude (x : Binary64) : Nat × Nat :=
  let (a, b) := powTwo x.exp
  (x.mant * a, b)

/-- The nearest number to an integer; integers of the sizes used here never overflow. -/
def ofInt (i : Int) : Binary64 :=
  (ofQuot (decide (i < 0)) i.natAbs 1).getD zero

/-- The product, rounded. -/
def mul (x y : Binary64) : Option Binary64 :=
  let (a, b) := x.magnitude
  let (c, d) := y.magnitude
  ofQuot (x.neg != y.neg) (a * c) (b * d)

/-- The quotient, rounded; the divisor is nonzero wherever it is used. -/
def div (x y : Binary64) : Option Binary64 :=
  let (a, b) := x.magnitude
  let (c, d) := y.magnitude
  ofQuot (x.neg != y.neg) (a * d) (b * c)

/-- The same magnitude with the other sign. -/
def negate (x : Binary64) : Binary64 := { x with neg := !x.neg }

/-- Whether the number is a zero of either sign. -/
def isZero (x : Binary64) : Bool := x.mant == 0

/-- The value as a signed numerator over a positive denominator. -/
def signedMagnitude (x : Binary64) : Int × Nat :=
  let (a, b) := x.magnitude
  (if x.neg then -(a : Int) else a, b)

/-- The order of the values; both zeros are equal. -/
def compare (x y : Binary64) : Ordering :=
  let (a, b) := x.signedMagnitude
  let (c, d) := y.signedMagnitude
  Ord.compare (a * d) (c * b)

/-- The value of an integer compared with this number's value. -/
def compareInt (i : Int) (y : Binary64) : Ordering :=
  let (c, d) := y.signedMagnitude
  Ord.compare (i * d) c

/-- The powers of ten `10 ^ k` rounded to the format, for `k ≤ 308`. -/
def powTen (k : Nat) : Binary64 :=
  (ofQuot false (Nat.pow 10 k) 1).getD zero

/-- The value as a signed multiple of `2 ^ minExp`, exact for every number of the format. -/
def units (x : Binary64) : Int :=
  let m : Int := (x.mant * Nat.pow 2 (x.exp - minExp).toNat : Nat)
  if x.neg then -m else m

/-- The number nearest to `n · 2 ^ minExp`; a zero takes the sign `zeroNeg`. Answers none past
the largest finite magnitude. -/
def ofUnits (n : Int) (zeroNeg : Bool) : Option Binary64 :=
  if n = 0 then some ⟨zeroNeg, 0, minExp⟩
  else ofQuot (decide (n < 0)) n.natAbs (Nat.pow 2 (-minExp).toNat)

/-- The exact sum as a multiple of `2 ^ minExp`. -/
def sumUnits (x y : Binary64) : Int := x.units + y.units

/-- The sum, rounded; none past the largest finite magnitude. An exact zero sum is negative
only when both terms are. -/
def add (x y : Binary64) : Option Binary64 :=
  ofUnits (sumUnits x y) (x.neg && y.neg)

/-- The integer part, rounded toward zero. -/
def truncate (x : Binary64) : Int :=
  let (a, b) := x.magnitude
  let t : Int := (a / b : Nat)
  if x.neg then -t else t

/-- Whether the value is an integer. -/
def isIntegral (x : Binary64) : Bool :=
  let (a, b) := x.magnitude
  a % b == 0

end Binary64

end MapReduce
