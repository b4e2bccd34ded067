import MapReduce.Json.Value

/-! Reading JSON text. Blanks are space, tab, line feed and carriage return; nesting deeper than
127 arrays or objects is refused; a repeated object key keeps its last value.

Numbers follow a fixed procedure. The digits are gathered into an unsigned 64-bit significand and
a decimal exponent; digits beyond what the significand holds are dropped (an integral part counts
them into the exponent). A plain integer is kept exact: `-0` and negative integers below `-2 ^ 63`
become binary64 numbers. Any other number is the significand rounded to binary64, then multiplied
or divided once by the binary64 number nearest to the power of ten; an exponent past 308 divides by
`1e308` first. A number that overflows is refused. -/

namespace MapReduce

/-- Why a text is no JSON value. -/
inductive ReadError.Code where
  | eofWhileParsingList
  | eofWhileParsingObject
  | eofWhileParsingString
  | eofWhileParsingValue
  | expectedColon
  | expectedListCommaOrEnd
  | expectedObjectCommaOrEnd
  | expectedSomeIdent
  | expectedSomeValue
  | invalidEscape
  | invalidNumber
  | numberOutOfRange
  | controlCharacterWhileParsingString
  | keyMustBeAString
  | loneLeadingSurrogateInHexEscape
  | unexpectedEndOfHexEscape
  | trailingComma
  | trailingCharacters
  | recursionLimitExceeded
  deriving DecidableEq, Repr

/-- A reading failure: its cause and where it was found, as the number of characters of the text
that follow that point and the number of bytes of the next character already read. The reader
looks at a text byte by byte, so a failure on a character written in several bytes lies one byte
into it. -/
structure ReadError where
  code : ReadError.Code
  remaining : Nat
  extra : Nat := 0
  deriving DecidableEq, Repr

namespace ReadError

/-- The wording of a cause. -/
def Code.text : Code → String
  | .eofWhileParsingList => "EOF while parsing a list"
  | .eofWhileParsingObject => "EOF while parsing an object"
  | .eofWhileParsingString => "EOF while parsing a string"
  | .eofWhileParsingValue => "EOF while parsing a value"
  | .expectedColon => "expected `:`"
  | .expectedListCommaOrEnd => "expected `,` or `]`"
  | .expectedObjectCommaOrEnd => "expected `,` or `\x7d`"
  | .expectedSomeIdent => "expected ident"
  | .expectedSomeValue => "expected value"
  | .invalidEscape => "invalid escape"
  | .invalidNumber => "invalid number"
  | .numberOutOfRange => "number out of range"
  | .controlCharacterWhileParsingString =>
    "control character (\\u0000-\\u001F) found while parsing a string"
  | .keyMustBeAString => "key must be a string"
  | .loneLeadingSurrogateInHexEscape => "lone leading surrogate in hex escape"
  | .unexpectedEndOfHexEscape => "unexpected end of hex escape"
  | .trailingComma => "trailing comma"
  | .trailingCharacters => "trailing characters"
  | .recursionLimitExceeded => "recursion limit exceeded"

/-- The message for a failure in the text `src`, with its line, and its column counted in bytes. -/
def message (e : ReadError) (src : String) : String :=
  let consumed := src.toList.take (src.length - e.remaining)
  let line := (consumed.filter (· == '\n')).length + 1
  let column := (String.ofList (consumed.reverse.takeWhile (· != '\n'))).utf8ByteSize + e.extra
  e.code.text ++ " at line " ++ toString line ++ " column " ++ toString column

end ReadError

namespace JsonRead

/-- A step of reading: the failure, or the value read and the rest of the text. -/
abbrev Step (α : Type) := Except ReadError (α × List Char)

/-- Fails with a cause after everything before the given rest of the text. -/
def fail {α : Type} (code : ReadError.Code) (rest : List Char) : Except ReadError α :=
  .error ⟨code, rest.length, 0⟩

/-- Fails with a cause at the first character of the given rest, which counts as read by one
byte; at the end of the text, after all of it. -/
def failAt {α : Type} (code : ReadError.Code) (rest : List Char) : Except ReadError α :=
  .error ⟨code, rest.length, if rest.isEmpty then 0 else 1⟩

/-- Drops leading blanks. -/
def skipBlank : List Char → List Char
  | c :: cs => if c = ' ' ∨ c = '\n' ∨ c = '\t' ∨ c = '\r' then skipBlank cs else c :: cs
  | [] => []

/-- The greatest unsigned 64-bit integer. -/
def u64Max : Nat := Nat.pow 2 64 - 1

/-- The value of a decimal digit. -/
def digitVal (c : Char) : Nat := c.toNat - 48

/-- The value of a hexadecimal digit. -/
def hexVal? (c : Char) : Option Nat :=
  if '0' ≤ c ∧ c ≤ '9' then some (c.toNat - 48)
  else if 'a' ≤ c ∧ c ≤ 'f' then some (c.toNat - 87)
  else if 'A' ≤ c ∧ c ≤ 'F' then some (c.toNat - 55)
  else none

/-- The binary64 number `± significand · 10 ^ exponent`, computed as the significand rounded to
binary64 and then multiplied or divided by a rounded power of ten. -/
def fromParts (neg : Bool) (significand : Nat) (exponent : Int) (rest : List Char) :
    Step Json :=
  let base := Binary64.ofInt significand
  let rec go : Nat → Binary64 → Int → Except ReadError Binary64
    | 0, _, _ => .ok Binary64.zero
    | fuel + 1, f, e =>
      if e.natAbs ≤ 308 then
        if 0 ≤ e then
          match f.mul (Binary64.powTen e.natAbs) with
          | some g => .ok g
          | none => fail .numberOutOfRange rest
        else .ok ((f.div (Binary64.powTen e.natAbs)).getD Binary64.zero)
      else if f.isZero then .ok f
      else if 0 ≤ e then fail .numberOutOfRange rest
      else go fuel ((f.div (Binary64.powTen 308)).getD Binary64.zero) (e + 308)
  match go 8 base exponent with
  | .ok f => .ok (.num (.float (if neg then f.negate else f)), rest)
  | .error err => .error err

/-- Skips the remaining digits of an exponent that does not fit 32 bits. -/
def skipDigits : List Char → List Char
  | c :: cs => if c.isDigit then skipDigits cs else c :: cs
  | [] => []

/-- The largest 32-bit signed integer. -/
def i32Max : Int := 2147483647

/-- Clamps to the 32-bit signed range. -/
def saturate32 (i : Int) : Int := max (-2147483648) (min i32Max i)

/-- Reads the digits of an exponent into `acc`; when it overflows 32 bits, the text after the digit
that overflowed. -/
def exponentDigits : Int → List Char → Except (List Char) (Int × List Char)
  | acc, c :: cs =>
    if c.isDigit then
      let next := acc * 10 + digitVal c
      if next > i32Max then .error cs else exponentDigits next cs
    else .ok (acc, c :: cs)
  | acc, [] => .ok (acc, [])

/-- Reads an exponent after its `e`, finishing the number. -/
def readExponent (neg : Bool) (significand : Nat) (start : Int) (cs : List Char) : Step Json :=
  let (positive, cs) := match cs with
    | '+' :: r => (true, r)
    | '-' :: r => (false, r)
    | r => (true, r)
  match cs with
  | [] => fail .eofWhileParsingValue []
  | c :: r =>
    if !c.isDigit then failAt .invalidNumber (c :: r)
    else
      match exponentDigits (digitVal c) r with
      | .error after =>
        if significand ≠ 0 ∧ positive then fail .numberOutOfRange after
        else .ok (.num (.float (if neg then Binary64.zero.negate else Binary64.zero)), skipDigits after)
      | .ok (e, rest) =>
        fromParts neg significand (saturate32 (if positive then start + e else start - e)) rest

/-- Reads the digits after a decimal point. -/
def fractionDigits : Nat → Int → List Char → Nat × Int × Bool × List Char
  | sig, e, c :: cs =>
    if c.isDigit then
      if sig * 10 + digitVal c > u64Max then (sig, e, true, skipDigits (c :: cs))
      else fractionDigits (sig * 10 + digitVal c) (e - 1) cs
    else (sig, e, false, c :: cs)
  | sig, e, [] => (sig, e, false, [])

/-- Reads a fraction after its point, finishing the number. -/
def readFraction (neg : Bool) (significand : Nat) (before : Int) (cs : List Char) : Step Json :=
  let (sig, e, overflowed, rest) := fractionDigits significand before cs
  if !overflowed ∧ e = before then
    match rest with
    | [] => fail .eofWhileParsingValue []
    | _ => failAt .invalidNumber rest
  else
    match rest with
    | c :: r => if c = 'e' ∨ c = 'E' then readExponent neg sig e r else fromParts neg sig e rest
    | [] => fromParts neg sig e rest

/-- Continues after the integral digits that fit the significand. -/
def afterInteger (neg : Bool) (significand : Nat) (exponent : Int) (long : Bool)
    (cs : List Char) : Step Json :=
  match cs with
  | '.' :: r => readFraction neg significand exponent r
  | c :: r =>
    if c = 'e' ∨ c = 'E' then readExponent neg significand exponent r
    else if long then fromParts neg significand exponent cs
    else if !neg then .ok (.num (.int significand), cs)
    else if significand ≠ 0 ∧ significand ≤ Nat.pow 2 63 then .ok (.num (.int (-(significand : Int))), cs)
    else fromParts true significand 0 cs
  | [] =>
    if long then fromParts neg significand exponent []
    else if !neg then .ok (.num (.int significand), [])
    else if significand ≠ 0 ∧ significand ≤ Nat.pow 2 63 then .ok (.num (.int (-(significand : Int))), [])
    else fromParts true significand 0 []

/-- Counts the integral digits that no longer fit the significand. -/
def countDigits : Nat → List Char → Nat × List Char
  | n, c :: cs => if c.isDigit then countDigits (n + 1) cs else (n, c :: cs)
  | n, [] => (n, [])

/-- Reads integral digits into the significand. -/
def integerDigits (neg : Bool) : Nat → List Char → Step Json
  | sig, c :: cs =>
    if c.isDigit then
      if sig * 10 + digitVal c > u64Max then
        let (n, rest) := countDigits 0 (c :: cs)
        afterInteger neg sig n true rest
      else integerDigits neg (sig * 10 + digitVal c) cs
    else afterInteger neg sig 0 false (c :: cs)
  | sig, [] => afterInteger neg sig 0 false []

/-- Reads a number whose sign, if any, has been read. -/
def readNumber (neg : Bool) : List Char → Step Json
  | [] => fail .eofWhileParsingValue []
  | '0' :: cs =>
    match cs with
    | c :: r => if c.isDigit then fail .invalidNumber r else afterInteger neg 0 0 false cs
    | [] => afterInteger neg 0 0 false []
  | c :: cs => if c.isDigit then integerDigits neg (digitVal c) cs else failAt .invalidNumber (c :: cs)

/-- The failure for four bytes of an escape that are no hexadecimal digits: after the fourth byte,
or at the end of the text when fewer are left. -/
def badHex : Nat → List Char → Except ReadError (Nat × List Char)
  | _, [] => fail .eofWhileParsingString []
  | bytes, c :: cs =>
    let total := bytes + c.utf8Size
    if total < 4 then badHex total cs
    else if total = 4 then fail .invalidEscape cs
    else .error ⟨.invalidEscape, cs.length + 1, 4 - bytes⟩

/-- Reads four hexadecimal digits of an escape. -/
def hex4 (cs : List Char) : Except ReadError (Nat × List Char) :=
  match cs with
  | a :: b :: c :: d :: rest =>
    match hexVal? a, hexVal? b, hexVal? c, hexVal? d with
    | some w, some x, some y, some z => .ok (((w * 16 + x) * 16 + y) * 16 + z, rest)
    | _, _, _, _ => badHex 0 cs
  | _ => badHex 0 cs

/-- Reads the rest of a `\u` escape, pairing a leading surrogate with its trailing one. -/
def unicodeEscape (cs : List Char) : Except ReadError (Char × List Char) := do
  let (n, rest) ← hex4 cs
  if 0xDC00 ≤ n ∧ n ≤ 0xDFFF then fail .loneLeadingSurrogateInHexEscape rest
  else if n < 0xD800 ∨ n > 0xDBFF then .ok (Char.ofNat n, rest)
  else
    match rest with
    | '\\' :: 'u' :: r =>
      let (m, r') ← hex4 r
      if m < 0xDC00 ∨ m > 0xDFFF then fail .loneLeadingSurrogateInHexEscape r'
      else .ok (Char.ofNat ((n - 0xD800) * 1024 + (m - 0xDC00) + 0x10000), r')
    | '\\' :: r => match r with
      | [] => fail .eofWhileParsingString []
      | _ => failAt .unexpectedEndOfHexEscape r
    | [] => fail .eofWhileParsingString []
    | r => failAt .unexpectedEndOfHexEscape r

/-- Reads the characters of a string literal after its opening quote; each round reads at least
one character, so the fuel is the length of the text. -/
def stringBody : Nat → String → List Char → Except ReadError (String × List Char)
  | 0, _, cs => fail .eofWhileParsingString cs
  | _ + 1, _, [] => fail .eofWhileParsingString []
  | fuel + 1, acc, c :: rest =>
    if c = '"' then .ok (acc, rest)
    else if c = '\\' then
      match rest with
      | [] => fail .eofWhileParsingString []
      | e :: r =>
        if e = 'u' then
          match unicodeEscape r with
          | .ok (d, r') => stringBody fuel (acc.push d) r'
          | .error err => .error err
        else
          let decoded : Option Char :=
            if e = '"' then some '"' else if e = '\\' then some '\\' else if e = '/' then some '/'
            else if e = 'b' then some (Char.ofNat 8) else if e = 'f' then some (Char.ofNat 12)
            else if e = 'n' then some '\n' else if e = 'r' then some '\r'
            else if e = 't' then some '\t' else none
          match decoded with
          | some d => stringBody fuel (acc.push d) r
          | none => failAt .invalidEscape (e :: r)
    else if c.toNat < 32 then fail .controlCharacterWhileParsingString rest
    else stringBody fuel (acc.push c) rest

/-- Reads one of the words `true`, `false`, `null` after its first letter. -/
def readWord (word : List Char) (v : Json) : List Char → Step Json
  | cs =>
    let rec go : List Char → List Char → Step Json
      | [], rest => .ok (v, rest)
      | _ :: _, [] => fail .eofWhileParsingValue []
      | w :: ws, c :: rest => if w = c then go ws rest else failAt .expectedSomeIdent (c :: rest)
    go word cs

mutual

/-- Reads a value after blanks. The fuel bounds the number of nested reading steps, each of which
consumes at least one character; `depth` is the nesting still allowed. With `keep`, an object's
members stay in written order with repeated keys kept; otherwise they are sorted and a repeated
key keeps its last value. -/
def readValue (keep : Bool) : Nat → Nat → List Char → Step Json
  | 0, _, cs => fail .eofWhileParsingValue cs
  | fuel + 1, depth, cs =>
    match skipBlank cs with
    | [] => fail .eofWhileParsingValue []
    | c :: rest =>
      if c = 'n' then readWord ['u', 'l', 'l'] .null rest
      else if c = 't' then readWord ['r', 'u', 'e'] (.bool true) rest
      else if c = 'f' then readWord ['a', 'l', 's', 'e'] (.bool false) rest
      else if c = '-' then readNumber true rest
      else if c.isDigit then readNumber false (c :: rest)
      else if c = '"' then
        match stringBody (rest.length + 1) "" rest with
        | .ok (s, r) => .ok (.str s, r)
        | .error e => .error e
      else if c = '[' then
        if depth ≤ 1 then fail .recursionLimitExceeded rest
        else
          match skipBlank rest with
          | ']' :: r => .ok (.arr [], r)
          | [] => fail .eofWhileParsingList []
          | _ => readElems keep fuel (depth - 1) [] rest
      else if c = '\x7b' then
        if depth ≤ 1 then fail .recursionLimitExceeded rest
        else
          match skipBlank rest with
          | '\x7d' :: r => .ok (.obj [], r)
          | _ => readMembers keep fuel (depth - 1) [] rest
      else failAt .expectedSomeValue (c :: rest)

/-- Reads array elements, the opening bracket or a comma having been read. -/
def readElems (keep : Bool) : Nat → Nat → List Json → List Char → Step Json
  | 0, _, _, cs => fail .eofWhileParsingList cs
  | fuel + 1, depth, acc, cs =>
    match readValue keep fuel depth cs with
    | .error e => .error e
    | .ok (v, rest) =>
      match skipBlank rest with
      | [] => fail .eofWhileParsingList []
      | c :: r =>
        if c = ',' then
          match skipBlank r with
          | ']' :: r' => fail .trailingComma r'
          | [] => fail .eofWhileParsingValue []
          | _ => readElems keep fuel depth (v :: acc) r
        else if c = ']' then .ok (.arr (v :: acc).reverse, r)
        else failAt .expectedListCommaOrEnd (c :: r)

/-- Reads object members, the opening brace or a comma having been read. -/
def readMembers (keep : Bool) : Nat → Nat → List (String × Json) → List Char → Step Json
  | 0, _, _, cs => fail .eofWhileParsingObject cs
  | fuel + 1, depth, acc, cs =>
    match skipBlank cs with
    | [] => fail .eofWhileParsingObject []
    | c :: r =>
      if c ≠ '"' then failAt .keyMustBeAString (c :: r)
      else
        match stringBody (r.length + 1) "" r with
        | .error e => .error e
        | .ok (key, r) =>
          match skipBlank r with
          | [] => fail .eofWhileParsingObject []
          | c :: r =>
            if c ≠ ':' then failAt .expectedColon (c :: r)
            else
              match readValue keep fuel depth r with
              | .error e => .error e
              | .ok (v, rest) =>
                let acc := if keep then (key, v) :: acc else Json.insertMember key v acc
                match skipBlank rest with
                | [] => fail .eofWhileParsingObject []
                | c :: r =>
                  if c = ',' then
                    match skipBlank r with
                    | '\x7d' :: r' => fail .trailingComma r'
                    | [] => fail .eofWhileParsingValue []
                    | _ => readMembers keep fuel depth acc r
                  else if c = '\x7d' then .ok (.obj (if keep then acc.reverse else acc), r)
                  else failAt .expectedObjectCommaOrEnd (c :: r)

end

end JsonRead

namespace Json

/-- Reads a whole text as one value, blanks around it allowed; with `keep`, objects keep their
members as written (see `JsonRead.readValue`). -/
def readWith (keep : Bool) (src : String) : Except ReadError Json :=
  let cs := src.toList
  match JsonRead.readValue keep (cs.length + 1) 128 cs with
  | .error e => .error e
  | .ok (v, rest) =>
    match JsonRead.skipBlank rest with
    | [] => .ok v
    | r => JsonRead.failAt .trailingCharacters r

/-- Reads a whole text as one value, blanks around it allowed. -/
def read (src : String) : Except ReadError Json := readWith false src

/-- Reads a whole text as one value whose objects list their members as written, repeated keys
included: the form in which a record's fields are checked for repetition. -/
def readMembersAsWritten (src : String) : Except ReadError Json := readWith true src

/-- Reads a whole text as one value, or nothing when it is no JSON text. -/
def read? (src : String) : Option Json :=
  match read src with
  | .ok v => some v
  | .error _ => none

end Json


end MapReduce
