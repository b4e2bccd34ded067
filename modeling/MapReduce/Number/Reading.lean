import MapReduce.Number.Binary64

/-! Numbers read from text. An unsigned integer is an optional plus sign and decimal digits, and
must fit its width. A floating-point number is an optional sign, then `inf`, `infinity` or `nan`
in any case, or decimal digits with at most one point and at least one digit, and an optional
exponent; its value is the decimal rounded once to the nearest binary64 number, ties to even,
with infinity beyond the largest finite number. -/

namespace MapReduce

/-- A binary64 value of any kind. -/
inductive Float64 where
  | finite (x : Binary64)
  | infinite (neg : Bool)
  | nan
  deriving DecidableEq, Repr, Inhabited

namespace NumberText

/-- The value of decimal digits. -/
def digitsValue (cs : List Char) : Nat := cs.foldl (fun acc c => acc * 10 + (c.toNat - 48)) 0

/-- The number of decimal digits of a positive number. -/
def decimalLength (n : Nat) : Nat := (Nat.toDigits 10 n).length

/-- An unsigned integer below `2 ^ bits`. -/
def unsigned (bits : Nat) (s : String) : Option Nat :=
  let cs := match s.toList with
    | '+' :: rest => rest
    | cs => cs
  if cs.isEmpty || !cs.all Char.isDigit then none
  else
    let n := digitsValue cs
    if n < Nat.pow 2 bits then some n else none

/-- The binary64 value of `digits · 10 ^ exponent` with a sign: zero for no digits, infinite past
the largest finite number. Far beyond either end the value is fixed without computing the power. -/
def scaled (neg : Bool) (digits : Nat) (exponent : Int) : Float64 :=
  if digits = 0 then .finite ⟨neg, 0, Binary64.minExp⟩
  else
    let size := (decimalLength digits : Int) + exponent
    if size > 310 then .infinite neg
    else if size < -330 then .finite ⟨neg, 0, Binary64.minExp⟩
    else
      let r := if 0 ≤ exponent then Binary64.ofQuot neg (digits * Nat.pow 10 exponent.toNat) 1
        else Binary64.ofQuot neg digits (Nat.pow 10 (-exponent).toNat)
      match r with
      | some x => .finite x
      | none => .infinite neg

/-- The exponent part after the digits: nothing, or `e` or `E`, an optional sign and digits. -/
def exponentPart : List Char → Option Int
  | [] => some 0
  | e :: rest =>
    if e = 'e' || e = 'E' then
      let (neg, ds) := match rest with
        | '+' :: r => (false, r)
        | '-' :: r => (true, r)
        | r => (false, r)
      if ds.isEmpty || !ds.all Char.isDigit then none
      else
        let v : Int := digitsValue ds
        some (if neg then -v else v)
    else none

/-- A decimal number without its sign. -/
def decimal (neg : Bool) (cs : List Char) : Option Float64 :=
  let whole := cs.takeWhile Char.isDigit
  let rest := cs.dropWhile Char.isDigit
  let (frac, rest) := match rest with
    | '.' :: r => (r.takeWhile Char.isDigit, r.dropWhile Char.isDigit)
    | r => ([], r)
  if whole.isEmpty && frac.isEmpty then none
  else (exponentPart rest).map fun e =>
    scaled neg (digitsValue (whole ++ frac)) (e - frac.length)

/-- A floating-point number. -/
def float (s : String) : Option Float64 :=
  let (neg, cs) := match s.toList with
    | '+' :: r => (false, r)
    | '-' :: r => (true, r)
    | cs => (false, cs)
  let word := String.ofList (cs.map Char.toLower)
  if word = "inf" || word = "infinity" then some (.infinite neg)
  else if word = "nan" then some .nan
  else decimal neg cs

end NumberText

end MapReduce
