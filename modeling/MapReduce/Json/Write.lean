import MapReduce.Json.Value
import MapReduce.Number.Shortest

/-! The compact text of a JSON value: no blanks, members in key order, strings with the short
escapes and `\u00XX` for the other control characters, integers in decimal and other numbers as the
shortest decimal that reads back. -/

namespace MapReduce

/-- How a binary64 number is written. With the decimal point after `p` significant digits, the
number is written positionally when `lowPoint < p ≤ highPoint`, and in scientific notation
otherwise. -/
structure FloatStyle where
  lowPoint : Int
  highPoint : Int
  /-- Whether an integral positional number keeps a `.0`. -/
  pointZero : Bool
  expMark : String
  /-- Whether a nonnegative exponent carries a plus sign. -/
  plusExponent : Bool

namespace FloatStyle

/-- Numbers are positional from `1e-5` up to below `1e16`, keep `.0` when integral, and otherwise
have an exponent after `e` with its sign always written. -/
def json : FloatStyle := ⟨-5, 16, true, "e", true⟩

/-- Numbers are always positional, with every digit of their place written out, and keep `.0`
when integral: the form in which messages about a value's kind show a number. -/
def positional : FloatStyle := ⟨-400, 400, true, "e", false⟩

/-- A run of `n` zero digits. -/
def zeros (n : Nat) : String := String.ofList (List.replicate n '0')

/-- The text of a binary64 number in this style. -/
def render (st : FloatStyle) (x : Binary64) : String :=
  let sign := if x.neg then "-" else ""
  let tail := if st.pointZero then ".0" else ""
  if x.mant = 0 then sign ++ "0" ++ tail
  else
    let d := x.shortest
    let ds := toString d.digits
    let len : Int := ds.length
    let p := len + d.exp10
    if 0 < p ∧ p ≤ st.highPoint then
      if len ≤ p then sign ++ ds ++ zeros (p - len).toNat ++ tail
      else sign ++ String.ofList (ds.toList.take p.toNat) ++ "." ++
        String.ofList (ds.toList.drop p.toNat)
    else if st.lowPoint < p ∧ p ≤ 0 then sign ++ "0." ++ zeros (-p).toNat ++ ds
    else
      let e := p - 1
      let first := String.ofList (ds.toList.take 1)
      let rest := String.ofList (ds.toList.drop 1)
      let mantissa := if rest.isEmpty then first else first ++ "." ++ rest
      let expSign := if e < 0 then "-" else if st.plusExponent then "+" else ""
      sign ++ mantissa ++ st.expMark ++ expSign ++ toString e.natAbs

end FloatStyle

namespace Number

/-- The text of a number. -/
def render : Number → String
  | .int i => toString i
  | .float f => FloatStyle.json.render f

end Number

namespace Json

/-- The lowercase hexadecimal digit of a value below sixteen. -/
def hexDigit (n : Nat) : Char :=
  if n < 10 then Char.ofNat (48 + n) else Char.ofNat (87 + n)

/-- The escaped form of one character inside a string literal. -/
def escapeChar (acc : String) (c : Char) : String :=
  if c = '"' then acc ++ "\\\""
  else if c = '\\' then acc ++ "\\\\"
  else if c.toNat < 32 then
    if c = '\n' then acc ++ "\\n"
    else if c = '\t' then acc ++ "\\t"
    else if c = '\r' then acc ++ "\\r"
    else if c.toNat = 8 then acc ++ "\\b"
    else if c.toNat = 12 then acc ++ "\\f"
    else (acc ++ "\\u00").push (hexDigit (c.toNat / 16)) |>.push (hexDigit (c.toNat % 16))
  else acc.push c

/-- Appends a quoted string literal. -/
def writeStr (acc : String) (s : String) : String :=
  (s.toList.foldl escapeChar (acc.push '"')).push '"'

/-- The quoted string literal. -/
def quote (s : String) : String := writeStr "" s

mutual

/-- Appends the compact text of a value. -/
def writeTo (acc : String) : Json → String
  | .null => acc ++ "null"
  | .bool true => acc ++ "true"
  | .bool false => acc ++ "false"
  | .num n => acc ++ n.render
  | .str s => writeStr acc s
  | .arr xs => (writeElems (acc.push '[') true xs).push ']'
  | .obj kvs => (writeMembers (acc.push '{') true kvs).push '}'

/-- Appends array elements separated by commas. -/
def writeElems (acc : String) (first : Bool) : List Json → String
  | [] => acc
  | x :: xs => writeElems (writeTo (if first then acc else acc.push ',') x) false xs

/-- Appends object members separated by commas. -/
def writeMembers (acc : String) (first : Bool) : List (String × Json) → String
  | [] => acc
  | (k, v) :: rest =>
    writeMembers (writeTo ((writeStr (if first then acc else acc.push ',') k).push ':') v) false rest

end

/-- The compact text of a value: its canonical string. -/
def write (j : Json) : String := writeTo "" j

/-- A line break followed by two spaces per level of indentation. -/
def newline (acc : String) (level : Nat) : String :=
  (List.replicate (2 * level) ' ').foldl String.push (acc.push '\n')

mutual

/-- Appends the indented text of a value at a level of nesting: each element and member on a line
of its own, a member's key followed by a colon and a space, empty arrays and objects as `[]` and
`\x7b\x7d`. -/
def prettyTo (acc : String) (level : Nat) : Json → String
  | .arr [] => acc ++ "[]"
  | .obj [] => acc ++ "\x7b\x7d"
  | .arr xs => (newline (prettyElems (acc.push '[') (level + 1) true xs) level).push ']'
  | .obj kvs => (newline (prettyMembers (acc.push '\x7b') (level + 1) true kvs) level).push '\x7d'
  | v => writeTo acc v

/-- Appends indented array elements. -/
def prettyElems (acc : String) (level : Nat) (first : Bool) : List Json → String
  | [] => acc
  | x :: xs =>
    prettyElems (prettyTo (newline (if first then acc else acc.push ',') level) level x) level false xs

/-- Appends indented object members. -/
def prettyMembers (acc : String) (level : Nat) (first : Bool) : List (String × Json) → String
  | [] => acc
  | (k, v) :: rest =>
    let keyed := writeStr (newline (if first then acc else acc.push ',') level) k ++ ": "
    prettyMembers (prettyTo keyed level v) level false rest

end

/-- The indented text of a value, as written to result files. -/
def writePretty (j : Json) : String := prettyTo "" 0 j

end Json

end MapReduce
