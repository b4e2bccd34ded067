import MapReduce.Sql.Value

/-! JSON documents as the relational store's JSON functions read them. A number keeps the text it
was written with, and a string written in standard form keeps its text too, so that a document
written back comes out as it came in, only without blanks. A string may also hold raw control
characters; it is then written back with them escaped. A path is `$` followed by steps `.key`,
`."key"`, `[n]`, `[#]` and `[#-n]`, the last two counting from the end of an array. -/

namespace MapReduce.Sql

/-- A string of a document: its value and, when it was written in standard form, the text
between its quotes. -/
structure JsonString where
  value : String
  raw : Option String
  deriving DecidableEq, Repr, Inhabited

/-- A JSON document. -/
inductive JsonDoc where
  | null
  | bool (b : Bool)
  | num (text : String)
  | str (s : JsonString)
  | arr (items : List JsonDoc)
  | obj (members : List (JsonString × JsonDoc))
  deriving Repr, Inhabited

namespace JsonDoc

/-- Whether a character is a blank between tokens. -/
def isBlank (c : Char) : Bool := c = ' ' || c = '\t' || c = '\n' || c = '\r'

/-- Whether a character is one of the further blanks JSON5 allows: vertical tab, form feed and
the Unicode spaces U+00A0, U+1680, U+2000 to U+200A, U+2028, U+2029, U+202F, U+205F, U+3000 and
U+FEFF. -/
def isWideBlank (c : Char) : Bool :=
  let n := c.toNat
  n = 0x0b || n = 0x0c || n = 0xa0 || n = 0x1680 || (0x2000 ≤ n && n ≤ 0x200a) || n = 0x2028 ||
    n = 0x2029 || n = 0x202f || n = 0x205f || n = 0x3000 || n = 0xfeff

/-- The text after the end of a block comment, given the character before it: none when the
comment is not closed. -/
def afterBlockComment : Char → List Char → Option (List Char)
  | _, [] => none
  | prev, c :: rest => if c = '/' && prev = '*' then some rest else afterBlockComment c rest

/-- The text after a line comment: after its first line break (a line feed, a carriage return,
U+2028 or U+2029), or nothing. -/
def afterLineComment (cs : List Char) : List Char :=
  (cs.dropWhile fun c => !(c = '\n' || c = '\r' || c.toNat = 0x2028 || c.toNat = 0x2029)).drop 1

/-- Skips blanks, wide blanks and comments; a block comment that is not closed is not skipped.
Each round skips at least one character. -/
def skipSpace : Nat → List Char → List Char
  | 0, cs => cs
  | _ + 1, [] => []
  | fuel + 1, c :: rest =>
    if isBlank c || isWideBlank c then skipSpace fuel rest
    else if c = '/' then
      match rest with
      | '*' :: d :: r =>
        match afterBlockComment d r with
        | some after => skipSpace fuel after
        | none => c :: rest
      | '/' :: r => skipSpace fuel (afterLineComment r)
      | _ => c :: rest
    else c :: rest

/-- The text after its blanks, wide blanks and comments. -/
def space (cs : List Char) : List Char := skipSpace (cs.length + 1) cs

/-- The value of a hexadecimal digit. -/
def hexValue (c : Char) : Option Nat :=
  if c.isDigit then some (c.toNat - 48)
  else if 'a' ≤ c ∧ c ≤ 'f' then some (c.toNat - 87)
  else if 'A' ≤ c ∧ c ≤ 'F' then some (c.toNat - 55)
  else none

/-- Whether a character is a hexadecimal digit. -/
def isHexDigit (c : Char) : Bool := (hexValue c).isSome

/-- Four hexadecimal digits. -/
def hex4 : List Char → Option (Nat × List Char)
  | a :: b :: c :: d :: rest => do
    let w ← hexValue a
    let x ← hexValue b
    let y ← hexValue c
    let z ← hexValue d
    some (((w * 16 + x) * 16 + y) * 16 + z, rest)
  | _ => none

/-- Two hexadecimal digits. -/
def hex2 : List Char → Option (Nat × List Char)
  | a :: b :: rest => do
    let x ← hexValue a
    let y ← hexValue b
    some (x * 16 + y, rest)
  | _ => none

/-- The character of a code point; the replacement character for a surrogate or a number past
the last code point. -/
def charOf (n : Nat) : Char :=
  if n < 0xD800 || (0xE000 ≤ n && n ≤ 0x10FFFF) then Char.ofNat n else Char.ofNat 0xFFFD

/-- The character an escape that cannot be decoded stands for. -/
def invalidChar : Char := Char.ofNat 0x99999

/-- Whether a character is a line break that a backslash continues a string over. -/
def isLineBreak (c : Char) : Bool := c = '\n' || c = '\r' || c.toNat = 0x2028 || c.toNat = 0x2029

/-- The text after backslashes that each continue a string over a line break. -/
def bypassBreaks : Nat → List Char → List Char
  | 0, cs => cs
  | fuel + 1, '\\' :: '\r' :: '\n' :: rest => bypassBreaks fuel rest
  | fuel + 1, '\\' :: c :: rest => if isLineBreak c then bypassBreaks fuel rest else '\\' :: c :: rest
  | _ + 1, cs => cs

/-- Decodes the escapes of a string body: the standard ones, and JSON5's `\'`, `\v`, `\0`, `\xHH`
and a backslash before a line break, which continues the string (a string that ends there gains a
NUL character). An escape that cannot be decoded stands for a private-use character. -/
def decodeBody : Nat → List Char → String → String
  | 0, _, acc => acc
  | _ + 1, [], acc => acc
  | fuel + 1, '\\' :: rest, acc =>
    match rest with
    | [] => acc.push invalidChar
    | e :: r =>
      if e = 'u' then
        match hex4 r with
        | some (v, r') =>
          if v / 1024 = 0xD800 / 1024 then
            match r' with
            | '\\' :: 'u' :: r2 =>
              match hex4 r2 with
              | some (lo, r3) =>
                if lo / 1024 = 0xDC00 / 1024 then
                  decodeBody fuel r3 (acc.push (charOf ((v % 1024) * 1024 + lo % 1024 + 0x10000)))
                else decodeBody fuel r' (acc.push (charOf v))
              | none => decodeBody fuel r' (acc.push (charOf v))
            | _ => decodeBody fuel r' (acc.push (charOf v))
          else decodeBody fuel r' (acc.push (charOf v))
        | none => acc.push invalidChar
      else if e = 'x' then
        match hex2 r with
        | some (v, r') => decodeBody fuel r' (acc.push (charOf v))
        | none => acc.push invalidChar
      else if isLineBreak e then
        match bypassBreaks (rest.length + 1) ('\\' :: rest) with
        | [] => acc.push (Char.ofNat 0)
        | after => decodeBody fuel after acc
      else
        let d : Char :=
          if e = 'b' then Char.ofNat 8 else if e = 'f' then Char.ofNat 12
          else if e = 'n' then '\n' else if e = 'r' then '\r' else if e = 't' then '\t'
          else if e = 'v' then Char.ofNat 11 else if e = '0' then Char.ofNat 0
          else if e = '\'' || e = '"' || e = '/' || e = '\\' then e
          else invalidChar
        decodeBody fuel r (acc.push d)
  | fuel + 1, c :: rest, acc => decodeBody fuel rest (acc.push c)

/-- The lowercase hexadecimal digit of a value below sixteen. -/
def hexDigit (n : Nat) : Char := if n < 10 then Char.ofNat (48 + n) else Char.ofNat (87 + n)

/-- Appends one character of a string value, escaped where standard form needs it. -/
def escapeInto (acc : String) (c : Char) : String :=
  if c = '"' then acc ++ "\\\""
  else if c = '\\' then acc ++ "\\\\"
  else if c.toNat < 32 then
    if c.toNat = 8 then acc ++ "\\b" else if c = '\t' then acc ++ "\\t"
    else if c = '\n' then acc ++ "\\n" else if c.toNat = 12 then acc ++ "\\f"
    else if c = '\r' then acc ++ "\\r"
    else (acc ++ "\\u00").push (hexDigit (c.toNat / 16)) |>.push (hexDigit (c.toNat % 16))
  else acc.push c

/-- The body of a string in standard form, from a body with JSON5 escapes or raw control
characters: `\'` becomes a quote, `\xHH` and `\0` become `\u` escapes, `\v` becomes `\u0009`, a
backslash before a line break goes, and a raw quote or control character is escaped. -/
def standardBody : Nat → List Char → String → String
  | 0, _, acc => acc
  | _ + 1, [], acc => acc
  | fuel + 1, '\\' :: rest, acc =>
    match rest with
    | [] => acc
    | e :: r =>
      if e = '\'' then standardBody fuel r (acc.push '\'')
      else if e = 'v' then standardBody fuel r (acc ++ "\\u0009")
      else if e = 'x' then
        match r with
        | a :: b :: r' => standardBody fuel r' (((acc ++ "\\u00").push a).push b)
        | _ => acc
      else if e = '0' then standardBody fuel r (acc ++ "\\u0000")
      else if e = '\r' then standardBody fuel (match r with | '\n' :: r' => r' | _ => r) acc
      else if isLineBreak e then standardBody fuel r acc
      else standardBody fuel r ((acc.push '\\').push e)
  | fuel + 1, c :: rest, acc =>
    if c = '"' || c.toNat < 32 then standardBody fuel rest (escapeInto acc c)
    else standardBody fuel rest (acc.push c)

/-- How a string was written: without escapes, with standard escapes only, or with JSON5 escapes,
raw control characters or a raw double quote. -/
inductive StringForm where
  | plain | escaped | extended
  deriving DecidableEq, Repr

/-- A string of a document from its body as written. -/
def stringOf (body : List Char) : StringForm → JsonString
  | .plain => ⟨String.ofList body, some (String.ofList body)⟩
  | .escaped => ⟨decodeBody (body.length + 1) body "", some (String.ofList body)⟩
  | .extended => ⟨decodeBody (body.length + 1) body "", some (standardBody (body.length + 1) body "")⟩

/-- Reads a string body up to the closing delimiter `q`: the body as written, its form and the
text after the delimiter; none when the string is not closed or has an escape JSON5 does not
know. -/
def stringBody : Nat → Char → List Char → List Char → StringForm →
    Option (List Char × StringForm × List Char)
  | 0, _, _, _, _ => none
  | _ + 1, _, [], _, _ => none
  | fuel + 1, q, c :: rest, acc, form =>
    if c = q then some (acc.reverse, form, rest)
    else if c = '\\' then
      match rest with
      | [] => none
      | e :: r =>
        if e = '"' || e = '\\' || e = '/' || e = 'b' || e = 'f' || e = 'n' || e = 'r' ||
            e = 't' || (e = 'u' && (hex4 r).isSome) then
          stringBody fuel q r (e :: c :: acc) (if form = .plain then .escaped else form)
        else if e = '\r' then
          match r with
          | '\n' :: r' => stringBody fuel q r' ('\n' :: e :: c :: acc) .extended
          | _ => stringBody fuel q r (e :: c :: acc) .extended
        else if e = '\'' || e = 'v' || e = '0' || isLineBreak e || (e = 'x' && (hex2 r).isSome) then
          stringBody fuel q r (e :: c :: acc) .extended
        else none
    else if c.toNat < 32 || c = '"' then stringBody fuel q rest (c :: acc) .extended
    else stringBody fuel q rest (c :: acc) form

/-- Whether a character may start a bare key of JSON5: a letter, `_`, `$` or any character past
ASCII. -/
def isKeyStart (c : Char) : Bool := c.isAlpha || c = '_' || c = '$' || c.toNat ≥ 0x80

/-- Reads the rest of a bare key: characters that may start one, digits, and `\u` escapes, up to
a wide blank. -/
def keyRest : Nat → List Char → List Char → Bool → List Char × Bool × List Char
  | 0, cs, acc, esc => (acc.reverse, esc, cs)
  | _ + 1, [], acc, esc => (acc.reverse, esc, [])
  | fuel + 1, c :: rest, acc, esc =>
    if c = '\\' then
      match rest with
      | 'u' :: r =>
        match hex4 r with
        | some _ => keyRest fuel r ('u' :: c :: acc) true
        | none => (acc.reverse, esc, c :: rest)
      | _ => (acc.reverse, esc, c :: rest)
    else if (isKeyStart c || c.isDigit) && !isWideBlank c then keyRest fuel rest (c :: acc) esc
    else (acc.reverse, esc, c :: rest)

/-- Reads a bare key: its string and the text after it. -/
def bareKey (cs : List Char) : Option (JsonString × List Char) :=
  let start : Bool := match cs with
    | '\\' :: 'u' :: r => (hex4 r).isSome
    | c :: _ => isKeyStart c
    | [] => false
  if !start then none
  else
    let (body, esc, rest) := keyRest (cs.length + 1) cs [] false
    some (stringOf body (if esc then .escaped else .plain), rest)

/-- Reads a number: a sign, digits with at most one point and an optional exponent, and JSON5's
leading `+`, hexadecimal digits after `0x`, a point with no digit before or after it, and
`Infinity` or `Inf` in any case after a sign. The text kept drops a leading `+`; an infinity is
kept as `9e999`. Also whether an extension was used and the text after the number. -/
def number (cs : List Char) : Option (String × Bool × List Char) :=
  let (sign, body, plus) : List Char × List Char × Bool := match cs with
    | '+' :: r => ([], r, true)
    | '-' :: r => (['-'], r, false)
    | r => ([], r, false)
  let hexAt : List Char → Option (List Char × List Char) := fun
    | '0' :: x :: h :: r =>
      if (x = 'x' || x = 'X') && isHexDigit h then
        some ('0' :: x :: h :: r.takeWhile isHexDigit, r.dropWhile isHexDigit)
      else none
    | _ => none
  let infinity (r : List Char) : Option (String × Bool × List Char) :=
    let lower := r.map Char.toLower
    if (['i', 'n', 'f'] : List Char).isPrefixOf lower then
      let rest := if (['i', 'n', 'f', 'i', 'n', 'i', 't', 'y'] : List Char).isPrefixOf lower then r.drop 8
        else r.drop 3
      some ((if sign.isEmpty then "9e999" else "-9e999"), true, rest)
    else none
  match hexAt body with
  | some (hx, rest) => some (String.ofList (sign ++ hx), true, rest)
  | none =>
    match body with
    | '0' :: d :: _ => if d.isDigit then none else decimal sign body plus
    | c :: r =>
      if c.isDigit then decimal sign body plus
      else if c = '.' then
        if (r.head?.any Char.isDigit) || !(sign.isEmpty && !plus) then decimal sign body true
        else none
      else if sign.isEmpty && !plus then none
      else infinity body
    | [] => none
where
  /-- Digits, a point and an exponent, with the checks on where a point may stand. -/
  decimal (sign body : List Char) (ext : Bool) : Option (String × Bool × List Char) :=
    let whole := body.takeWhile Char.isDigit
    let r := body.dropWhile Char.isDigit
    let (frac, r) : List Char × List Char := match r with
      | '.' :: r' => ('.' :: r'.takeWhile Char.isDigit, r'.dropWhile Char.isDigit)
      | r' => ([], r')
    if whole.isEmpty && frac.length ≤ 1 then none
    else
      let bare := frac = ['.'] || whole.isEmpty
      let expo : Option (List Char × List Char) := match r with
        | e :: r' =>
          if e = 'e' || e = 'E' then
            let (sg, r'') : List Char × List Char := match r' with
              | '+' :: x => (['+'], x)
              | '-' :: x => (['-'], x)
              | x => ([], x)
            let ds := r''.takeWhile Char.isDigit
            if ds.isEmpty || (frac = ['.'] && whole.isEmpty) then none
            else some (e :: sg ++ ds, r''.dropWhile Char.isDigit)
          else some ([], r)
        | [] => some ([], [])
      match expo with
      | none => none
      | some (ex, rest) =>
        match rest with
        | '.' :: _ => none
        | _ => some (String.ofList (sign ++ whole ++ frac ++ ex), ext || bare, rest)

/-- Reads a word of letters that must not be followed by a letter or a digit. -/
def wordAt (w : String) (cs : List Char) : Option (List Char) :=
  if w.toList.isPrefixOf cs && !((cs.drop w.length).head?.any Char.isAlphanum) then some (cs.drop w.length)
  else none

/-- The values JSON5 names with words, matched in any case: infinities and not-a-numbers, which
become `9e999` and null. -/
def namedValue (cs : List Char) : Option (JsonDoc × List Char) :=
  let lower := cs.map Char.toLower
  let try1 (w : String) (v : JsonDoc) : Option (JsonDoc × List Char) :=
    (wordAt w lower).map fun r => (v, cs.drop (cs.length - r.length))
  (try1 "inf" (.num "9e999")).orElse fun _ =>
  (try1 "infinity" (.num "9e999")).orElse fun _ =>
  (try1 "nan" .null).orElse fun _ =>
  (try1 "qnan" .null).orElse fun _ =>
  try1 "snan" .null

/-- What reading at a position finds: a value and the text after it, a closing or separating
mark (`]`, `}`, `,` or `:`) and the text after it, the end of the text, or text that starts no
value. A value and a mark carry whether a JSON5 extension was used so far. -/
inductive Scan where
  | value (d : JsonDoc) (rest : List Char) (ext : Bool)
  | mark (c : Char) (rest : List Char) (ext : Bool)
  | stop
  | fail

/-- The greatest depth of nested arrays and objects. -/
def maxDepth : Nat := 1000

mutual

/-- Reads a value after blanks and comments, in arrays and objects nested `depth` deep. -/
def scanValue : Nat → Nat → Bool → List Char → Scan
  | 0, _, _, _ => .fail
  | _ + 1, _, _, [] => .stop
  | fuel + 1, depth, ext, c :: rest =>
    if isBlank c then scanValue fuel depth ext (rest.dropWhile isBlank)
    else if c = '/' || isWideBlank c then
      let after := space (c :: rest)
      if after.length ≤ rest.length then scanValue fuel depth true after else .fail
    else if c = '{' then
      if depth ≥ maxDepth then .fail else scanObject fuel (depth + 1) ext rest []
    else if c = '[' then
      if depth ≥ maxDepth then .fail else scanArray fuel (depth + 1) ext rest []
    else if c = '"' || c = '\'' then
      match stringBody (rest.length + 1) c rest [] .plain with
      | some (body, form, after) =>
        .value (.str (stringOf body form)) after (ext || c = '\'' || form = .extended)
      | none => .fail
    else if c = 't' then
      match wordAt "true" (c :: rest) with
      | some r => .value (.bool true) r ext
      | none => .fail
    else if c = 'f' then
      match wordAt "false" (c :: rest) with
      | some r => .value (.bool false) r ext
      | none => .fail
    else if c = '+' || c = '-' || c = '.' || c.isDigit then
      match number (c :: rest) with
      | some (t, e, r) => .value (.num t) r (ext || e)
      | none => .fail
    else if c = '}' || c = ']' || c = ',' || c = ':' then .mark c rest ext
    else
      match (if c = 'n' then (wordAt "null" (c :: rest)).map (JsonDoc.null, ·) else none) with
      | some (d, r) => .value d r ext
      | none =>
        match namedValue (c :: rest) with
        | some (d, r) => .value d r true
        | none => .fail

/-- Reads the elements of an array after its opening bracket or a comma. A comma may follow the
last element. -/
def scanArray : Nat → Nat → Bool → List Char → List JsonDoc → Scan
  | 0, _, _, _, _ => .fail
  | fuel + 1, depth, ext, cs, acc =>
    match scanValue fuel depth ext cs with
    | .mark ']' rest e => .value (.arr acc.reverse) rest (e || !acc.isEmpty)
    | .value v rest e =>
      let next (r : List Char) (e : Bool) : Scan := scanArray fuel depth e r (v :: acc)
      let done (r : List Char) (e : Bool) : Scan := .value (.arr (v :: acc).reverse) r e
      match rest with
      | ',' :: r => next r e
      | ']' :: r => done r e
      | _ =>
        let r := rest.dropWhile isBlank
        match r with
        | ',' :: r' => next r' e
        | ']' :: r' => done r' e
        | _ =>
          match scanValue fuel depth e r with
          | .mark ',' r' e' => next r' e'
          | .mark ']' r' e' => done r' e'
          | _ => .fail
    | _ => .fail

/-- Reads the members of an object after its opening brace or a comma. A key may be a string or,
in JSON5, a bare name; a comma may follow the last member. -/
def scanObject : Nat → Nat → Bool → List Char → List (JsonString × JsonDoc) → Scan
  | 0, _, _, _, _ => .fail
  | fuel + 1, depth, ext, cs, acc =>
    let key : Option (JsonString × List Char × Bool) ⊕ Scan :=
      match scanValue fuel depth ext cs with
      | .mark '}' rest e => .inr (.value (.obj acc.reverse) rest (e || !acc.isEmpty))
      | .value (.str k) rest e => .inl (some (k, rest, e))
      | .value _ _ _ => .inl none
      | _ => .inl ((bareKey (space cs)).map fun (k, r) => (k, r, true))
    match key with
    | .inr done => done
    | .inl none => .fail
    | .inl (some (k, rest, e)) =>
      let colon : Option (List Char × Bool) :=
        match rest with
        | ':' :: r => some (r, e)
        | _ =>
          match rest.dropWhile isBlank with
          | ':' :: r => some (r, e)
          | r =>
            match scanValue fuel depth e r with
            | .mark ':' r' e' => some (r', e')
            | _ => none
      match colon with
      | none => .fail
      | some (r, e) =>
        match scanValue fuel depth e r with
        | .value v rest e =>
          let next (r : List Char) (e : Bool) : Scan := scanObject fuel depth e r ((k, v) :: acc)
          let done (r : List Char) (e : Bool) : Scan := .value (.obj ((k, v) :: acc).reverse) r e
          match rest with
          | ',' :: r => next r e
          | '}' :: r => done r e
          | _ =>
            let r := rest.dropWhile isBlank
            match r with
            | ',' :: r' => next r' e
            | '}' :: r' => done r' e
            | _ =>
              match scanValue fuel depth e r with
              | .mark ',' r' e' => next r' e'
              | .mark '}' r' e' => done r' e'
              | _ => .fail
        | _ => .fail

end

/-- Reads a whole document, which ends at the text's first NUL character, with whether it used
a JSON5 extension; none when it is not well formed. -/
def parse (text : String) : Option (JsonDoc × Bool) :=
  let cs := text.toList.takeWhile (·.toNat ≠ 0)
  match scanValue (2 * cs.length + 2) 0 false cs with
  | .value d rest ext =>
    let rest := rest.dropWhile isBlank
    if rest.isEmpty then some (d, ext)
    else if (space rest).isEmpty then some (d, true)
    else none
  | _ => none

/-- Reads a whole document; none when it is not well formed. -/
def read (text : String) : Option JsonDoc := (parse text).map (·.1)

/-- Whether a text is a document in standard JSON, without JSON5 extensions. -/
def isStandard (text : String) : Bool :=
  match parse text with
  | some (_, false) => true
  | _ => false

/-- Digits with a zero added before a leading point and after a point no digit follows. -/
def fixPoints (cs : List Char) : List Char :=
  (if cs.head? = some '.' then ['0'] else []) ++ go cs
where
  /-- Adds the zero after each bare point. -/
  go : List Char → List Char
    | [] => []
    | '.' :: rest => '.' :: (if rest.head?.any Char.isDigit then go rest else '0' :: go rest)
    | c :: rest => c :: go rest

/-- The text of a number in standard JSON: hexadecimal digits in decimal (`9.0e999` once they pass
sixty bits), and a zero added before a leading point and after a trailing one. -/
def numberText (t : String) : String :=
  let (sign, body) : String × List Char := match t.toList with
    | '-' :: r => ("-", r)
    | r => ("", r)
  match body with
  | '0' :: x :: ds =>
    if x = 'x' || x = 'X' then
      let (u, overflowed) := ds.foldl (fun (acc : Nat × Bool) c =>
        if acc.2 || acc.1 / Nat.pow 2 60 != 0 then (acc.1, true)
        else (acc.1 * 16 + (hexValue c).getD 0, false)) (0, false)
      sign ++ (if overflowed then "9.0e999" else toString u)
    else sign ++ String.ofList (fixPoints body)
  | _ => sign ++ String.ofList (fixPoints body)

/-- Appends a string in standard form. -/
def writeString (acc : String) (s : JsonString) : String :=
  match s.raw with
  | some r => acc ++ "\"" ++ r ++ "\""
  | none => (s.value.toList.foldl escapeInto (acc.push '"')).push '"'

mutual

/-- Appends the text of a value without blanks. -/
def writeTo (acc : String) : JsonDoc → String
  | .null => acc ++ "null"
  | .bool b => acc ++ (if b then "true" else "false")
  | .num t => acc ++ numberText t
  | .str s => writeString acc s
  | .arr xs => (writeItems (acc.push '[') true xs).push ']'
  | .obj kvs => (writeMembers (acc.push '{') true kvs).push '}'

/-- Appends array elements separated by commas. -/
def writeItems (acc : String) (first : Bool) : List JsonDoc → String
  | [] => acc
  | x :: xs => writeItems (writeTo (if first then acc else acc.push ',') x) false xs

/-- Appends object members separated by commas. -/
def writeMembers (acc : String) (first : Bool) : List (JsonString × JsonDoc) → String
  | [] => acc
  | (k, v) :: rest =>
    writeMembers (writeTo ((writeString (if first then acc else acc.push ',') k).push ':') v) false rest

end

/-- The text of a document without blanks. -/
def write (d : JsonDoc) : String := writeTo "" d

/-- What a path finds in a document: an element, nothing, or a malformed step on the way. -/
inductive Found where
  | at (d : JsonDoc)
  | missing
  | badPath
  deriving Repr, Inhabited

/-- The value of decimal digits. -/
def digitsValue (ds : List Char) : Nat := ds.foldl (fun acc d => acc * 10 + digitOf d) 0

/-- The text of a quoted key of a path, with its escapes decoded when it has any. -/
def pathKey (k : List Char) : String :=
  if k.contains '\\' then decodeBody (k.length + 1) k "" else String.ofList k

/-- Follows the steps of a path, read one at a time as the walk reaches them: `.key` or `."key"`
into an object, `[n]`, `[#]` or `[#-n]` into an array. A key is read before the element's kind is
looked at, an index after it, so a step that cannot apply hides a malformed step after it. -/
def lookupSteps : Nat → JsonDoc → List Char → Found
  | _, d, [] => .at d
  | 0, _, _ :: _ => .badPath
  | fuel + 1, d, '.' :: rest =>
    let key : Option (String × List Char) := match rest with
      | '"' :: r =>
        match r.dropWhile (· ≠ '"') with
        | '"' :: after => some (pathKey (r.takeWhile (· ≠ '"')), after)
        | _ => none
      | _ =>
        let k := rest.takeWhile fun c => c ≠ '.' ∧ c ≠ '['
        if k.isEmpty then none
        else some (String.ofList k, rest.dropWhile fun c => c ≠ '.' ∧ c ≠ '[')
    match key, d with
    | none, _ => .badPath
    | some (k, after), .obj kvs =>
      match kvs.find? fun (key, _) => key.value == k with
      | some (_, v) => lookupSteps fuel v after
      | none => .missing
    | some _, _ => .missing
  | fuel + 1, .arr xs, '[' :: rest =>
    let ds := rest.takeWhile Char.isDigit
    let element (k : Nat) (after : List Char) : Found :=
      match xs[k]? with
      | some v => lookupSteps fuel v after
      | none => .missing
    match ds, rest.dropWhile Char.isDigit with
    | _ :: _, ']' :: after => element (digitsValue ds) after
    | _, _ =>
      match rest with
      | '#' :: '-' :: d :: r =>
        if d.isDigit then
          let nn := digitsValue (d :: r.takeWhile Char.isDigit)
          if nn > xs.length then .missing
          else match r.dropWhile Char.isDigit with
            | ']' :: after => element (xs.length - nn) after
            | _ => .badPath
        else .badPath
      | '#' :: ']' :: after => element xs.length after
      | _ => .badPath
  | _ + 1, _, '[' :: _ => .missing
  | _ + 1, _, _ :: _ => .badPath

/-- Follows a path written without its leading `$`. -/
def lookup (d : JsonDoc) (steps : List Char) : Found := lookupSteps (steps.length + 1) d steps

/-- The value of hexadecimal digits as a 64-bit pattern; none when more than sixteen digits
follow the leading zeros. -/
def hexPattern (ds : List Char) : Option Int :=
  let sig := ds.dropWhile (· = '0')
  if sig.length > 16 then none
  else
    let n := sig.foldl (fun acc c => acc * 16 + (hexValue c).getD 0) 0
    some (if n ≥ Nat.pow 2 63 then (n : Int) - 18446744073709551616 else n)

/-- Whether a number's text is hexadecimal. -/
def isHexNumber (t : String) : Bool :=
  match t.toList with
  | '-' :: '0' :: x :: _ | '0' :: x :: _ => x = 'x' || x = 'X'
  | _ => false

/-- The value of a number's text: a hexadecimal number as its 64-bit pattern, negated after a
sign; an integer when it is written as one and fits in 64 bits; otherwise a binary64 number. None
for hexadecimal digits past 64 bits. -/
def numberValue (t : String) : Option Value :=
  if isHexNumber t then
    let (neg, ds) : Bool × List Char := match t.toList with
      | '-' :: _ :: _ :: ds => (true, ds)
      | _ :: _ :: ds => (false, ds)
      | ds => (false, ds)
    (hexPattern ds).map fun v => .int (if neg && v != int64Min then -v else v)
  else if t.toList.any fun c => c = '.' || c = 'e' || c = 'E' then some (.real (scanReal t).value)
  else
    let (rc, v) := scanInt t
    if rc = 0 || (rc = 3 && t.startsWith "-") then some (.int v)
    else some (.real (scanReal t).value)

/-- A value of a document as a store value: null, 1 or 0 for a boolean, a number, the value of a
string, or the text of an array or object; none for a number past 64 bits in hexadecimal. -/
def toValue : JsonDoc → Option Value
  | .null => some .null
  | .bool b => some (.int (if b then 1 else 0))
  | .num t => numberValue t
  | .str s => some (.text s.value)
  | d => some (.text d.write)

/-- The type name of a value of a document. -/
def typeName : JsonDoc → String
  | .null => "null"
  | .bool true => "true"
  | .bool false => "false"
  | .num t =>
    if isHexNumber t then "integer"
    else if t.toList.any fun c => c = '.' || c = 'e' || c = 'E' then "real" else "integer"
  | .str _ => "text"
  | .arr _ => "array"
  | .obj _ => "object"

end JsonDoc

end MapReduce.Sql
