import MapReduce.Number.Arith
import MapReduce.Number.Digits

/-! Numbers in texts, as the relational store reads and writes them.

A real number is read as blanks, a sign, digits with at most one point, an optional exponent and
blanks. The reading also reports what it found: `1` for an integer alone, `2` for a number with a
point or an exponent and `3` with both, `-1` when a number with a point or an exponent is followed
by other text, and `0` otherwise; the value of the longest readable prefix is computed in every
case. At most nineteen or twenty significant digits are kept, as in a 64-bit significand.

An integer is read as blanks, a sign and digits; its value is held at the 64-bit ends, and the
reading reports `0` for an exact integer, `1` when other text follows, `2` beyond the 64-bit range
and `3` for exactly `2 ^ 63`.

A real number is written with up to seventeen significant digits, fifteen when those read back
as the same number and the sixteenth and seventeenth digits are both `0` or both `9`. It is written
positionally, with at least one digit after the point, when its decimal exponent lies in
`[-4, 16]`, and otherwise as a mantissa and an exponent with a sign and at least two digits. -/

namespace MapReduce.Sql

/-- The blanks of the number readers: space, tab, line feed, vertical tab, form feed and carriage
return. -/
def isBlank (c : Char) : Bool :=
  c = ' ' || c = '\t' || c = '\n' || c.toNat = 11 || c.toNat = 12 || c = '\r'

/-- The value of a decimal digit. -/
def digitOf (c : Char) : Nat := c.toNat - 48

/-- The significand beyond which no further digit is kept. -/
def sigLimit : Nat := (Nat.pow 2 64 - 1 - 9) / 10

/-- What a number reader found in a text. -/
structure RealScan where
  code : Int
  value : Float64
  deriving Repr

/-- Reads integer digits into a significand: `(significand, digits kept, digits dropped, rest)`. -/
def wholeDigits : List Char → Nat → Nat → Nat → Nat × Nat × Nat × List Char
  | c :: cs, s, kept, dropped =>
    if c.isDigit then
      if s ≥ sigLimit then wholeDigits cs s kept (dropped + 1)
      else wholeDigits cs (s * 10 + digitOf c) (kept + 1) dropped
    else (s, kept, dropped, c :: cs)
  | [], s, kept, dropped => (s, kept, dropped, [])

/-- Reads fraction digits into a significand: `(significand, digits kept, rest)`; digits past the
limit are skipped. -/
def fractionDigits : List Char → Nat → Nat → Nat × Nat × List Char
  | c :: cs, s, kept =>
    if c.isDigit then
      if s < sigLimit then fractionDigits cs (s * 10 + digitOf c) (kept + 1)
      else fractionDigits cs s kept
    else (s, kept, c :: cs)
  | [], s, kept => (s, kept, [])

/-- Reads exponent digits, the value held at 10000: `(value, whether any digit, rest)`. -/
def exponentDigits : List Char → Nat → Bool → Nat × Bool × List Char
  | c :: cs, e, any =>
    if c.isDigit then exponentDigits cs (if e < 10000 then e * 10 + digitOf c else 10000) true
    else (e, any, c :: cs)
  | [], e, any => (e, any, [])

/-- Reads a real number from a text. -/
def scanReal (text : String) : RealScan :=
  let cs := text.toList.dropWhile isBlank
  if cs.isEmpty then ⟨0, Float64.zero⟩
  else
    let (neg, cs) := match cs with
      | '-' :: r => (true, r)
      | '+' :: r => (false, r)
      | r => (false, r)
    let (s, n1, dropped, cs) := wholeDigits cs 0 0 0
    let (s, n2, point, cs) := match cs with
      | '.' :: r =>
        let (s', k, r') := fractionDigits r s 0
        (s', k, true, r')
      | r => (s, 0, false, r)
    let nDigit := n1 + n2
    let (exp, expMark, expValid, cs) : Int × Bool × Bool × List Char := match cs with
      | e :: r =>
        if e = 'e' || e = 'E' then
          let (eneg, r) := match r with
            | '-' :: r' => (true, r')
            | '+' :: r' => (false, r')
            | r' => (false, r')
          let (ev, any, r) := exponentDigits r 0 false
          ((if eneg then -(ev : Int) else ev), true, any, r)
        else (0, false, true, e :: r)
      | [] => (0, false, true, [])
    let cs := cs.dropWhile isBlank
    let eType : Int := 1 + (if point then 1 else 0) + (if expMark then 1 else 0)
    let value := if s = 0 then .finite ⟨neg, 0, Binary64.minExp⟩
      else NumberText.scaled neg s (exp + dropped - n2)
    let code : Int :=
      if cs.isEmpty && nDigit > 0 && expValid then eType
      else if eType ≥ 2 && (eType = 3 || expValid) && nDigit > 0 then -1
      else 0
    ⟨code, value⟩

/-- The least 64-bit integer. -/
def int64Min : Int := -9223372036854775808

/-- The greatest 64-bit integer. -/
def int64Max : Int := 9223372036854775807

/-- An integer held at the 64-bit ends. -/
def clampInt64 (i : Int) : Int := max int64Min (min int64Max i)

/-- Reads an integer from a text: the outcome code and the value. -/
def scanInt (text : String) : Int × Int :=
  let cs := text.toList.dropWhile isBlank
  let (neg, cs) := match cs with
    | '-' :: r => (true, r)
    | '+' :: r => (false, r)
    | r => (false, r)
  let afterZeros := cs.dropWhile (· = '0')
  let zeros := cs.length - afterZeros.length
  let ds := afterZeros.takeWhile Char.isDigit
  let rest := afterZeros.dropWhile Char.isDigit
  let u : Nat := ds.foldl (fun acc c => acc * 10 + digitOf c) 0
  let value := clampInt64 (if neg then -(u : Int) else u)
  let code : Int :=
    if ds.isEmpty && zeros = 0 then -1
    else if rest.any (fun c => !isBlank c) then 1
    else 0
  if ds.length < 19 then (code, value)
  else if ds.length > 19 then (2, value)
  else if u < Nat.pow 2 63 then (code, value)
  else if u > Nat.pow 2 63 then (2, value)
  else (if neg then code else 3, value)

/-- Whether a real number equals an integer so exactly that it may be stored as that integer:
zero, or the same number with the integer below `2 ^ 51` in magnitude. -/
def realSameAsInt (r : Float64) (i : Int) : Bool :=
  r.isZero || (r.equalsInt i && -2251799813685248 ≤ i && i < 2251799813685248)

/-- A decimal that reads back as the positive number `x`. -/
def readsBack (d : Decimal) (x : Binary64) : Bool :=
  NumberText.scaled false d.digits d.exp10 == .finite x

/-- The significant digits a positive number is written with. -/
def writtenDigits (x : Binary64) : Decimal :=
  let t := x.truncatedDigits 16
  let d15 := (t.digits / 10) % 10
  let d16 := t.digits % 10
  let full := x.roundedDigits 17
  if (d15 = 9 ∧ d16 = 9) ∨ (d15 = 0 ∧ d16 = 0) then
    let short := x.roundedDigits 15
    if readsBack short x then short else full
  else full

/-- A run of zero digits. -/
def zeroRun (n : Nat) : String := String.ofList (List.replicate n '0')

/-- An exponent with its sign and at least two digits. -/
def exponentText (e : Int) : String :=
  let sign := if e < 0 then "-" else "+"
  let ds := toString e.natAbs
  sign ++ (if ds.length < 2 then "0" ++ ds else ds)

/-- The text of a positive decimal `d` in the general style of `precision` significant digits:
positional when its decimal exponent lies between -4 and `precision - 1`, otherwise one digit, a
point, the other digits and a signed exponent of at least two digits. A point always has a digit
on each side. -/
def layoutGeneral (d : Decimal) (precision : Nat) : String :=
  let d := Binary64.Decimal.trim 30 d
  let ds := (toString d.digits).toList
  let n := ds.length
  let point : Int := n + d.exp10
  let e := point - 1
  if e < -4 ∨ e ≥ precision then
    let rest := ds.drop 1
    String.ofList (ds.take 1) ++ "." ++ (if rest.isEmpty then "0" else String.ofList rest) ++
      "e" ++ exponentText e
  else if point ≤ 0 then "0." ++ zeroRun (-point).toNat ++ String.ofList ds
  else if (n : Int) ≤ point then String.ofList ds ++ zeroRun (point - n).toNat ++ ".0"
  else String.ofList (ds.take point.toNat) ++ "." ++ String.ofList (ds.drop point.toNat)

/-- The text of a positive decimal in exponent form: one digit, a point, the other digits
without trailing zeros (at least one) and a signed exponent of at least two digits. -/
def layoutExponent (d : Decimal) : String :=
  let d := Binary64.Decimal.trim 30 d
  let ds := (toString d.digits).toList
  let rest := ds.drop 1
  String.ofList (ds.take 1) ++ "." ++ (if rest.isEmpty then "0" else String.ofList rest) ++
    "e" ++ exponentText (ds.length + d.exp10 - 1)

/-- The text of a real number: seventeen significant digits, or fifteen when those read back
and the sixteenth and seventeenth digits suggest a shorter value. -/
def renderReal : Float64 → String
  | .nan => "NaN"
  | .infinite n => if n then "-Inf" else "Inf"
  | .finite x =>
    if x.isZero then "0.0"
    else (if x.neg then "-" else "") ++ layoutGeneral (writtenDigits { x with neg := false }) 17

end MapReduce.Sql
