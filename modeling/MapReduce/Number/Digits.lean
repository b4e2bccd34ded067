import MapReduce.Number.Shortest

/-! Significant decimal digits of a binary64 magnitude. The value `x` lies in `[10 ^ E, 10 ^ (E + 1))`;
its first `n` significant digits are the integer part of `x · 10 ^ (n - 1 - E)`, computed exactly
from the rational magnitude, and rounding looks at the exact remainder. -/

namespace MapReduce

namespace Binary64

/-- `x · 10 ^ k` as its integer part, the remainder's numerator and the common denominator. -/
def scaledQuot (x : Binary64) (k : Int) : Nat × Nat × Nat :=
  let (a, b) := x.magnitude
  let num := a * Nat.pow 10 k.toNat
  let den := b * Nat.pow 10 (-k).toNat
  (num / den, num % den, den)

/-- The first `n` significant digits of a nonzero magnitude, the rest cut off. -/
def truncatedDigits (x : Binary64) (n : Nat) : Decimal :=
  let k : Int := (n : Int) - 1 - exp10Of x.mant x.exp
  ⟨(x.scaledQuot k).1, -k⟩

/-- A nonzero magnitude rounded to `n` significant digits, a remainder of one half or more
going up. -/
def roundedDigits (x : Binary64) (n : Nat) : Decimal :=
  let k : Int := (n : Int) - 1 - exp10Of x.mant x.exp
  let (q, r, den) := x.scaledQuot k
  if 2 * r ≥ den then
    if q + 1 = Nat.pow 10 n then ⟨Nat.pow 10 (n - 1), 1 - k⟩ else ⟨q + 1, -k⟩
  else ⟨q, -k⟩

end Binary64

end MapReduce
