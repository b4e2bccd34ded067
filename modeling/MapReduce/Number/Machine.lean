import MapReduce.Number.Arith

/-! # Machine numbers

The exact binary64 values of this library and the machine's `Float` hold the same numbers; they
meet in the 64-bit interchange layout: a sign bit, eleven bits of biased exponent and fifty-two
bits of fraction. A normal number `mant · 2 ^ exp` has the biased exponent `exp + 1075` and the
fraction `mant - 2 ^ 52`; a subnormal number has the biased exponent zero and the fraction
`mant`. The biased exponent `2047` holds the infinities (fraction zero) and NaN. -/

namespace MapReduce

namespace Binary64

/-- The bits of a finite number in the interchange layout. -/
def toBits (x : Binary64) : UInt64 :=
  let biased : Nat := if x.mant ≥ Nat.pow 2 52 then (x.exp + 1075).toNat else 0
  UInt64.ofNat ((if x.neg then Nat.pow 2 63 else 0) + biased * Nat.pow 2 52 + x.mant % Nat.pow 2 52)

end Binary64

namespace Float64

/-- The bits of a value in the interchange layout; NaN is the quiet NaN. -/
def toBits : Float64 → UInt64
  | .finite x => x.toBits
  | .infinite neg => if neg then 0xFFF0000000000000 else 0x7FF0000000000000
  | .nan => 0x7FF8000000000000

/-- The value of bits in the interchange layout. -/
def ofBits (bits : UInt64) : Float64 :=
  let b := bits.toNat
  let neg := decide (b ≥ Nat.pow 2 63)
  let e : Nat := (b / Nat.pow 2 52) % 2048
  let m : Nat := b % Nat.pow 2 52
  if e = 2047 then (if m = 0 then .infinite neg else .nan)
  else if e = 0 then .finite ⟨neg, m, Binary64.minExp⟩
  else .finite ⟨neg, m + Nat.pow 2 52, (e : Int) - 1075⟩

/-- The machine number of a value. -/
def toFloat (x : Float64) : Float := Float.ofBits x.toBits

/-- The value of a machine number. -/
def ofFloat (f : Float) : Float64 := ofBits f.toBits

/-- The remainder of `x / y` truncated toward zero, exactly, with the sign of `x`: NaN when `x`
is not finite, `y` is NaN or zero; `x` itself when `y` is infinite. -/
def fmod : Float64 → Float64 → Float64
  | .finite x, .finite y =>
    if y.isZero then .nan
    else
      let (a, b) := x.magnitude
      let (c, d) := y.magnitude
      let q := (a * d) / (b * c)
      match Binary64.ofQuot x.neg (a * d - q * c * b) (b * d) with
      | some r => .finite r
      | none => .nan
  | .finite x, .infinite _ => .finite x
  | _, _ => .nan

end Float64

end MapReduce
