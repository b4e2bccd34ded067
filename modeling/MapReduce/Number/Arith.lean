import MapReduce.Number.Reading

/-! Arithmetic on binary64 values of every kind, as the format defines it: each finite result is
the exact result rounded once, a result past the largest finite magnitude is an infinity of its
sign, and the undefined forms (`∞ - ∞`, `0 · ∞`, `0 / 0`, `∞ / ∞`) give NaN. -/

namespace MapReduce

namespace Float64

/-- The value of an integer, rounded. -/
def ofInt (i : Int) : Float64 :=
  match Binary64.ofQuot (decide (i < 0)) i.natAbs 1 with
  | some x => .finite x
  | none => .infinite (decide (i < 0))

/-- Positive zero. -/
def zero : Float64 := .finite Binary64.zero

/-- The same value with the other sign. -/
def neg : Float64 → Float64
  | .finite x => .finite x.negate
  | .infinite n => .infinite (!n)
  | .nan => .nan

/-- Whether the value is NaN. -/
def isNaN : Float64 → Bool
  | .nan => true
  | _ => false

/-- Whether the value is a zero of either sign. -/
def isZero : Float64 → Bool
  | .finite x => x.isZero
  | _ => false

/-- The sum. -/
def add : Float64 → Float64 → Float64
  | .nan, _ => .nan
  | _, .nan => .nan
  | .infinite a, .infinite b => if a = b then .infinite a else .nan
  | .infinite a, .finite _ => .infinite a
  | .finite _, .infinite b => .infinite b
  | .finite x, .finite y =>
    match x.add y with
    | some z => .finite z
    | none => .infinite (decide (Binary64.sumUnits x y < 0))

/-- The difference. -/
def sub (a b : Float64) : Float64 := add a b.neg

/-- The product. -/
def mul : Float64 → Float64 → Float64
  | .nan, _ => .nan
  | _, .nan => .nan
  | .infinite a, .infinite b => .infinite (a != b)
  | .infinite a, .finite y => if y.isZero then .nan else .infinite (a != y.neg)
  | .finite x, .infinite b => if x.isZero then .nan else .infinite (x.neg != b)
  | .finite x, .finite y =>
    match x.mul y with
    | some z => .finite z
    | none => .infinite (x.neg != y.neg)

/-- The quotient. -/
def div : Float64 → Float64 → Float64
  | .nan, _ => .nan
  | _, .nan => .nan
  | .infinite _, .infinite _ => .nan
  | .infinite a, .finite y => .infinite (a != y.neg)
  | .finite x, .infinite b => .finite ⟨x.neg != b, 0, Binary64.minExp⟩
  | .finite x, .finite y =>
    if y.isZero then (if x.isZero then .nan else .infinite (x.neg != y.neg))
    else
      match x.div y with
      | some z => .finite z
      | none => .infinite (x.neg != y.neg)

/-- The order of two values that are not NaN: the infinities at the ends, both zeros equal. -/
def compare : Float64 → Float64 → Ordering
  | .infinite a, .infinite b => if a = b then .eq else if a then .lt else .gt
  | .infinite a, _ => if a then .lt else .gt
  | _, .infinite b => if b then .gt else .lt
  | .finite x, .finite y => x.compare y
  | _, _ => .eq

/-- An integer compared with a value that is not NaN. -/
def compareInt (i : Int) : Float64 → Ordering
  | .infinite n => if n then .gt else .lt
  | .finite y => Binary64.compareInt i y
  | .nan => .eq

/-- Whether a value equals an integer exactly. -/
def equalsInt (x : Float64) (i : Int) : Bool := compareInt i x == .eq && !x.isNaN

/-- The value rounded toward zero to a 64-bit integer, held at the nearest end when it lies
beyond; NaN gives the least integer. -/
def toInt64 : Float64 → Int
  | .nan => -9223372036854775808
  | .infinite n => if n then -9223372036854775808 else 9223372036854775807
  | .finite x => max (-9223372036854775808) (min 9223372036854775807 x.truncate)

end Float64

end MapReduce
