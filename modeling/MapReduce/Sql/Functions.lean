import MapReduce.Sql.JsonText
import MapReduce.Sql.Format
import MapReduce.Sql.Elementary
import MapReduce.Sql.JsonEdit
import MapReduce.Sql.Calendar

/-! The scalar functions and the pattern matches of the relational store.

`LIKE` matches `%` against any run of characters and `_` against one character, compares ASCII
letters without regard to case, and may name an escape character that makes the next pattern
character literal. `GLOB` compares characters exactly: `*` matches any run of characters, `?` one
character, and `[...]` one character of a class, where `^` first inverts the class, `]` first is
a member, and `a-z` is a range unless the `-` stands first or last. The text functions count
characters, not bytes, and change the case of ASCII letters only. -/

namespace MapReduce.Sql

/-- Whether a text matches a `LIKE` pattern with an optional escape character. The fuel is the
sum of both lengths, enough because each round consumes a pattern character or a text
character. -/
def likeChars (esc : Option Char) : Nat → List Char → List Char → Bool
  | 0, _, _ => false
  | _ + 1, [], text => text.isEmpty
  | fuel + 1, p :: ps, text =>
    if some p = esc then
      match ps, text with
      | q :: qs, t :: ts => foldCase q == foldCase t && likeChars esc fuel qs ts
      | _, _ => false
    else if p = '%' then
      match text with
      | [] => likeChars esc fuel ps []
      | _ :: ts => likeChars esc fuel ps text || likeChars esc fuel (p :: ps) ts
    else if p = '_' then
      match text with
      | [] => false
      | _ :: ts => likeChars esc fuel ps ts
    else
      match text with
      | [] => false
      | t :: ts => foldCase p == foldCase t && likeChars esc fuel ps ts

/-- Whether `text` matches `pattern` under `LIKE`. -/
def like (text pattern : String) (esc : Option Char := none) : Bool :=
  likeChars esc (text.length + pattern.length + 1) pattern.toList text.toList

/-- Scans the rest of a bracketed class for `c`: `prior` is the last single member read, which may
start a range. Answers whether `c` was seen and the pattern after the closing `]`, or none when
the class is not closed. -/
def classRest (c : Char) (prior : Option Char) (seen : Bool) : List Char → Option (Bool × List Char)
  | [] => none
  | ']' :: rest => some (seen, rest)
  | '-' :: hi :: rest =>
    match prior with
    | some lo =>
      if hi = ']' then classRest c (some '-') (seen || c == '-') (hi :: rest)
      else classRest c none (seen || (lo ≤ c && c ≤ hi)) rest
    | none => classRest c (some '-') (seen || c == '-') (hi :: rest)
  | d :: rest => classRest c (some d) (seen || c == d) rest

/-- Whether `c` belongs to the bracketed class at the start of the pattern (after its `[`), and the
pattern after the class. -/
def classMatch (c : Char) (ps : List Char) : Option (Bool × List Char) :=
  let (invert, ps) := match ps with
    | '^' :: r => (true, r)
    | r => (false, r)
  let (seen, ps) := match ps with
    | ']' :: r => (c == ']', r)
    | r => (false, r)
  (classRest c none seen ps).map fun (s, rest) => (s != invert, rest)

/-- Whether a text matches a `GLOB` pattern. The fuel is the sum of both lengths, enough because
each round consumes a pattern character or a text character. -/
def globChars : Nat → List Char → List Char → Bool
  | 0, _, _ => false
  | _ + 1, [], text => text.isEmpty
  | fuel + 1, '*' :: ps, text =>
    match text with
    | [] => globChars fuel ps []
    | _ :: ts => globChars fuel ps text || globChars fuel ('*' :: ps) ts
  | fuel + 1, '?' :: ps, text =>
    match text with
    | [] => false
    | _ :: ts => globChars fuel ps ts
  | fuel + 1, '[' :: ps, text =>
    match text with
    | [] => false
    | t :: ts =>
      match classMatch t ps with
      | some (true, rest) => globChars fuel rest ts
      | _ => false
  | fuel + 1, p :: ps, text =>
    match text with
    | [] => false
    | t :: ts => p == t && globChars fuel ps ts

/-- Whether `text` matches `pattern` under `GLOB`. -/
def glob (text pattern : String) : Bool :=
  globChars (text.length + pattern.length + 1) pattern.toList text.toList

/-- The skip and the length of `substr(x, start, count)` over `len` items: positions count from 1,
a negative start counts from the end, and a negative count takes the items before the start;
without a count every item to the end is taken. -/
def substrSpan (len start : Int) (count : Option Int) : Nat × Nat :=
  let (negCount, p2) : Bool × Int := match count with
    | some c => if c < 0 then (true, -c) else (false, c)
    | none => (false, 1000000000)
  let (p1, p2) : Int × Int :=
    if start < 0 then
      let p1 := start + len
      if p1 < 0 then (0, max 0 (p2 + p1)) else (p1, p2)
    else if start > 0 then (start - 1, p2)
    else if p2 > 0 then (0, p2 - 1)
    else (0, p2)
  let (p1, p2) : Int × Int :=
    if negCount then
      let q := p1 - p2
      if q < 0 then (0, max 0 (p2 + q)) else (q, p2)
    else (p1, p2)
  (p1.toNat, p2.toNat)

/-- `substr(x, start, count)` with the start and count as 32-bit numbers: characters of a text,
bytes of a blob. -/
def substrValue (x : Value) (start : Int) (count : Option Int) : Value :=
  let start := wrap32 start
  let count := count.map wrap32
  match x with
  | .blob [] => .null
  | .blob bs =>
    let (p1, p2) := substrSpan bs.length start count
    .blob ((bs.drop p1).take p2)
  | v =>
    let cs := v.leadingText.toList
    let (p1, p2) := substrSpan cs.length start count
    .text (String.ofList ((cs.drop p1).take p2))

/-- `like(pattern, text)`, `like(pattern, text, escape)` and `glob(pattern, text)`: a pattern of
more than 50000 bytes fails; then an escape that is null gives null and one that is not a single
character fails, before the pattern and the text are looked at; then null unless both are
known. -/
def matchValue (isGlob : Bool) (p x : Value) (esc : Option Value) : Except String Value :=
  if p.toText.utf8ByteSize > 50000 then .error "LIKE or GLOB pattern too complex"
  else match esc with
    | some .null => .ok .null
    | some e =>
      match e.leadingText.toList with
      | [c] => result (some c)
      | _ => .error "ESCAPE expression must be a single character"
    | none => result none
where
  /-- The outcome once the escape is known. -/
  result (c : Option Char) : Except String Value :=
    if p.isNull || x.isNull then .ok .null
    else
      let t := x.leadingText
      let q := p.leadingText
      .ok (Value.ofTruth (some (if isGlob then glob t q else like t q c)))

/-- The position, counted from 1, of the first occurrence of `needle` in `hay`, or 0. -/
def instrText (hay needle : String) : Nat :=
  let ns := needle.toList
  let rec go : Nat → List Char → Nat
    | _, [] => if ns.isEmpty then 1 else 0
    | i, c :: cs => if ns.isPrefixOf (c :: cs) then i else go (i + 1) cs
  go 1 hay.toList

/-- The type name of a value. -/
def typeName : Value → String
  | .null => "null"
  | .int _ => "integer"
  | .real _ => "real"
  | .text _ => "text"
  | .blob _ => "blob"

/-- ASCII letters of a text in lower case. -/
def asciiLower (s : String) : String := String.map foldCase s

/-- ASCII letters of a text in upper case. -/
def asciiUpper (s : String) : String :=
  String.map (fun c => if 'a' ≤ c ∧ c ≤ 'z' then Char.ofNat (c.toNat - 32) else c) s

/-- The uppercase hexadecimal digits of bytes. -/
def hexText (bs : List UInt8) : String :=
  let digit (n : Nat) : Char := if n < 10 then Char.ofNat (48 + n) else Char.ofNat (55 + n)
  String.ofList (bs.flatMap fun b => [digit (b.toNat / 16), digit (b.toNat % 16)])

/-- The bytes written in hexadecimal digits, two to a byte; characters of `pass` may stand
between the pairs. None when another character stands there or a pair is incomplete. -/
def unhexChars (pass : List Char) : List Char → Option (List UInt8)
  | [] => some []
  | c :: rest =>
    match JsonDoc.hexValue c with
    | some hi =>
      match rest with
      | d :: r =>
        match JsonDoc.hexValue d with
        | some lo => (unhexChars pass r).map ((hi * 16 + lo).toUInt8 :: ·)
        | none => none
      | [] => none
    | none => if pass.contains c then unhexChars pass rest else none

/-- Removes characters of a set from the start of a list. -/
def dropSet (set : List Char) (cs : List Char) : List Char := cs.dropWhile (set.contains ·)

/-- Replaces every occurrence of a nonempty text. The fuel is the length of the text. -/
def replaceAll (pat rep : List Char) : Nat → List Char → List Char
  | 0, cs => cs
  | _ + 1, [] => []
  | fuel + 1, c :: cs =>
    if pat.isPrefixOf (c :: cs) then rep ++ replaceAll pat rep fuel ((c :: cs).drop pat.length)
    else c :: replaceAll pat rep fuel cs

/-- The text of a value quoted as a literal of the store's language. -/
def quoteValue : Value → String
  | .null => "NULL"
  | .int i => toString i
  | .real x => quoteReal x
  | .text s => "'" ++ String.ofList ((s.toList.takeWhile (· != '\x00')).flatMap fun c => if c = '\'' then ['\'', '\''] else [c]) ++ "'"
  | .blob b => "X'" ++ hexText b ++ "'"

/-- The value rounded to `digits` places after the point, a half going away from zero. -/
def roundReal (x : Float64) (digits : Nat) : Float64 :=
  match x with
  | .finite b =>
    let bound : Int := 4503599627370496
    if Binary64.compareInt bound b != .lt && Binary64.compareInt (-bound) b != .gt then
      let (num, den) := b.magnitude
      let scaled := num * Nat.pow 10 digits
      let q := (2 * scaled + den) / (2 * den)
      let r := NumberText.scaled b.neg q (-(digits : Int))
      if digits = 0 && q = 0 then .finite ⟨b.neg, 0, Binary64.minExp⟩ else r
    else x
  | other => other

/-- The failure for a call with the wrong number of arguments. -/
def wrongArity (fn : String) : String := "wrong number of arguments to function " ++ fn ++ "()"

/-- Whether a scalar function of this name, in any case, takes this many arguments: none when it
does, the failure otherwise, which names the function as it was written. -/
def arityError (fn : String) (n : Nat) : Option String :=
  let ok : Option Bool := ((mathArity fn.toLower n).orElse fun _ => calendarArity fn.toLower n)
    |>.orElse fun _ => match fn.toLower with
    | "length" | "lower" | "upper" | "typeof" | "abs" | "hex" | "unicode" | "quote" | "json"
    | "likely" | "unlikely" | "zeroblob" | "sign" | "octet_length" | "json_quote" => some (n = 1)
    | "json_valid" => some (n = 1 || n = 2)
    | "json_patch" => some (n = 2)
    | "json_array" | "json_object" | "json_insert" | "json_replace" | "json_set"
    | "json_remove" => some true
    | "concat" => some (n ≥ 1)
    | "concat_ws" => some (n ≥ 2)
    | "unhex" => some (n = 1 || n = 2)
    | "substr" | "substring" => some (n = 2 || n = 3)
    | "instr" | "ifnull" | "nullif" | "glob" | "likelihood" => some (n = 2)
    | "like" => some (n = 2 || n = 3)
    | "iif" | "replace" => some (n = 3)
    | "coalesce" => some (n ≥ 2)
    | "max" | "min" => some (n ≥ 1)
    | "char" | "printf" | "format" => some true
    | "trim" | "ltrim" | "rtrim" | "round" => some (n = 1 || n = 2)
    | "json_extract" => some (n ≥ 2)
    | "json_type" | "json_array_length" => some (n = 1 || n = 2)
    | _ => none
  match ok with
  | some true => none
  | some false => some (wrongArity fn)
  | none => some ("no such function: " ++ fn)

/-- The document held by a value, or the failure of a malformed one. -/
def docOf (v : Value) : Except String JsonDoc :=
  match JsonDoc.read v.toText with
  | some d => .ok d
  | none => .error "malformed JSON"

/-- The store value of an element of a document, or the failure of a number it cannot hold. -/
def valueOf (d : JsonDoc) : Except String Value :=
  match d.toValue with
  | some v => .ok v
  | none => .error "malformed JSON"

/-- The failure of a malformed path, naming the path as it was given. -/
def badPath (p : String) : String := "bad JSON path: " ++ quoteValue (.text p)

/-- The element of a document at a path that starts with `$`: the element or none, or the
failure of a malformed path. -/
def lookupPath (d : JsonDoc) (p : String) : Except String (Option JsonDoc) :=
  match p.toList with
  | '$' :: steps =>
    match JsonDoc.lookup d steps with
    | .at e => .ok (some e)
    | .missing => .ok none
    | .badPath => .error (badPath p)
  | _ => .error (badPath p)

/-- The elements of a document at several paths, as the text of a JSON array with `null` for a
path that finds nothing; null as soon as a path is null. -/
def extractEach (d : JsonDoc) : List Value → List String → Except String Value
  | [], acc => .ok (.text ("[" ++ ",".intercalate acc.reverse ++ "]"))
  | p :: ps, acc =>
    if p.isNull then .ok .null
    else do
      let found ← lookupPath d p.leadingText
      extractEach d ps ((found.map JsonDoc.write).getD "null" :: acc)

/-- The largest (`wantMax`) or least of values under the store's order; null when one is null. -/
def extreme (wantMax : Bool) : List Value → Value
  | [] => .null
  | v :: vs =>
    if (v :: vs).any Value.isNull then .null
    else vs.foldl (fun best w =>
      let o := w.compare best
      if (wantMax && o == .gt) || (!wantMax && o == .lt) then w else best) v

/-- Calls a scalar function, named in lower case, on argument values of the right number. -/
def callFunction (fn : String) (args : List Value) : Except String Value :=
  match fn, args with
  | "length", [x] => .ok <| match x with
    | .null => .null
    | .blob b => .int b.length
    | v => .int v.leadingText.length
  | "lower", [x] => .ok (if x.isNull then .null else .text (asciiLower x.toText))
  | "upper", [x] => .ok (if x.isNull then .null else .text (asciiUpper x.toText))
  | "typeof", [x] => .ok (.text (typeName x))
  | "substr", [x, s] | "substring", [x, s] =>
    .ok (if x.isNull || s.isNull then .null else substrValue x s.toInt64 none)
  | "substr", [x, s, n] | "substring", [x, s, n] =>
    .ok (if x.isNull || s.isNull || n.isNull then .null else substrValue x s.toInt64 (some n.toInt64))
  | "instr", [x, y] => .ok (if x.isNull || y.isNull then .null else .int (instrText x.toText y.toText))
  | "ifnull", [x, y] => .ok (if x.isNull then y else x)
  | "coalesce", xs => .ok ((xs.find? (!·.isNull)).getD .null)
  | "nullif", [x, y] => .ok (if x.compare y == .eq then .null else x)
  | "iif", [c, a, b] => .ok (if c.truth == some true then a else b)
  | "likely", [x] | "unlikely", [x] | "likelihood", [x, _] => .ok x
  | "abs", [x] => match x with
    | .null => .ok .null
    | .int i =>
      if i = int64Min then .error "integer overflow" else .ok (.int i.natAbs)
    | v =>
      let r := v.toReal
      .ok (.real (if Float64.compare r Float64.zero == .lt then r.neg else r))
  | "sign", [x] => .ok <| match x.compareForm .numeric with
    | .int i => .int (if i > 0 then 1 else if i < 0 then -1 else 0)
    | .real r => .int (match Float64.compare r Float64.zero with | .gt => 1 | .lt => -1 | .eq => 0)
    | _ => .null
  | "hex", [x] => .ok (.text (hexText x.toBytes))
  | "unicode", [x] => .ok <| match x.leadingText.toList with
    | c :: _ => if x.isNull then .null else .int c.toNat
    | [] => .null
  | "char", xs => .ok (.text (String.ofList (xs.map fun v =>
      let n := v.toInt64
      if n < 0 || n > 0x10FFFF || (0xD800 ≤ n && n ≤ 0xDFFF) then Char.ofNat 0xFFFD else Char.ofNat n.toNat)))
  | "quote", [x] => .ok (.text (quoteValue x))
  | "printf", xs | "format", xs => .ok (formatValue xs)
  | "concat", xs => .ok (.text (String.join (xs.map Value.toText)))
  | "concat_ws", sep :: xs =>
    .ok (if sep.isNull then .null
      else .text (sep.toText.intercalate ((xs.map Value.toText).filter (!·.isEmpty))))
  | "octet_length", [x] => .ok <| match x with
    | .null => .null
    | .blob b => .int b.length
    | v => .int v.toText.utf8ByteSize
  | "unhex", [x] | "unhex", [x, _] =>
    let pass := match args with
      | [_, p] => if p.isNull then none else some p.toText.toList
      | _ => some []
    .ok <| match pass with
      | some pass =>
        if x.isNull then .null
        else ((unhexChars pass x.leadingText.toList).map Value.blob).getD .null
      | none => .null
  | "zeroblob", [n] =>
    if n.toInt64 > 1000000000 then .error "string or blob too big"
    else .ok (.blob (List.replicate n.toInt64.toNat 0))
  | "trim", [x] | "ltrim", [x] | "rtrim", [x] =>
    trimWith fn x (.text " ")
  | "trim", [x, y] | "ltrim", [x, y] | "rtrim", [x, y] => trimWith fn x y
  | "replace", [x, y, z] =>
    if x.isNull || y.isNull || z.isNull then .ok .null
    else
      let pat := y.toText.toList
      if pat.isEmpty then .ok (.text x.toText)
      else
        let cs := x.toText.toList
        .ok (.text (String.ofList (replaceAll pat z.toText.toList (cs.length + 1) cs)))
  | "round", [x] => .ok (if x.isNull then .null else .real (roundReal x.toReal 0))
  | "round", [x, n] =>
    .ok (if x.isNull || n.isNull then .null
      else .real (roundReal x.toReal (min 30 (max 0 n.toInt64)).toNat))
  | "max", [x] | "min", [x] => .ok x
  | "max", xs => .ok (extreme true xs)
  | "min", xs => .ok (extreme false xs)
  | "like", [p, x] => matchValue false p x none
  | "like", [p, x, e] => matchValue false p x (some e)
  | "glob", [p, x] => matchValue true p x none
  | "json", [x] =>
    if x.isNull then .ok .null else do
      let d ← docOf x
      .ok (.text d.write)
  | "json_valid", [x] => .ok (if x.isNull then .null else .int (if JsonDoc.isStandard x.toText then 1 else 0))
  | "json_valid", [x, f] =>
    let flags := f.toInt64
    if flags < 1 || flags > 15 then .error "FLAGS parameter to json_valid() must be between 1 and 15"
    else if x.isNull then .ok .null
    else if flags % 4 == 0 then .ok (.int 0)
    else .ok <| match JsonDoc.parse x.toText with
      | some (_, extended) => .int (if (flags / 2) % 2 == 1 || !extended then 1 else 0)
      | none => .int 0
  | "json_remove", xs => jsonRemove xs
  | "json_patch", [x, p] => jsonPatch x p
  | "json_extract", [x, p] =>
    if x.isNull then .ok .null
    else do
      let d ← docOf x
      if p.isNull then .ok .null
      else do
        let found ← lookupPath d p.leadingText
        match found with
        | some e => valueOf e
        | none => .ok .null
  | "json_extract", x :: ps =>
    if x.isNull then .ok .null
    else do
      let d ← docOf x
      extractEach d ps []
  | "json_type", [x] =>
    if x.isNull then .ok .null else do
      let d ← docOf x
      .ok (.text d.typeName)
  | "json_type", [x, p] =>
    if x.isNull then .ok .null else do
      let d ← docOf x
      if p.isNull then .ok .null
      else do
        let found ← lookupPath d p.leadingText
        .ok ((found.map fun e => Value.text e.typeName).getD .null)
  | "json_array_length", [x] =>
    if x.isNull then .ok .null else do
      let d ← docOf x
      .ok (.int (match d with | .arr xs => xs.length | _ => 0))
  | "json_array_length", [x, p] =>
    if x.isNull then .ok .null else do
      let d ← docOf x
      if p.isNull then .ok .null
      else do
        let found ← lookupPath d p.leadingText
        .ok (match found with
          | some (.arr xs) => .int xs.length
          | some _ => .int 0
          | none => .null)
  | _, _ => match (mathFunction fn args).orElse fun _ => calendarFunction fn args with
    | some v => .ok v
    | none => match arityError fn args.length with
      | some e => .error e
      | none => .error ("no such function: " ++ fn)
where
  /-- `trim`, `ltrim` or `rtrim` of a text by a set of characters. -/
  trimWith (fn : String) (x y : Value) : Except String Value :=
    if x.isNull || y.isNull then .ok .null
    else
      let set := y.toText.toList
      let cs := x.toText.toList
      let cs := if fn = "rtrim" then cs else dropSet set cs
      let cs := if fn = "ltrim" then cs else (dropSet set cs.reverse).reverse
      .ok (.text (String.ofList cs))

/-- The functions that read a JSON mark on their arguments. -/
def jsonBuilders : List String :=
  ["json_quote", "json_array", "json_object", "json_insert", "json_replace", "json_set"]

/-- The functions whose results carry a JSON mark. -/
def jsonMarking : List String :=
  ["json", "json_quote", "json_array", "json_object", "json_insert", "json_replace", "json_set",
    "json_remove", "json_patch"]

/-- Whether `json_extract(x, p)` finds an array or an object. -/
def extractsContainer (x p : Value) : Bool :=
  match docOf x with
  | .ok d =>
    match lookupPath d p.leadingText with
    | .ok (some (.arr _)) | .ok (some (.obj _)) => !p.isNull
    | _ => false
  | .error _ => false

/-- Calls a function that reads a JSON mark on its arguments: each argument comes with whether
it carries the mark. -/
def callJson (fn : String) (args : List (Value × Bool)) : Except String Value :=
  match fn, args with
  | "json_quote", [(v, m)] => do
    let t ← appendJson "" v m
    .ok (.text t)
  | "json_array", xs => jsonArray xs
  | "json_object", xs => jsonObject xs
  | "json_insert", xs => jsonEdit "insert" .insert xs
  | "json_replace", xs => jsonEdit "replace" .replace xs
  | "json_set", xs => jsonEdit "set" .set xs
  | _, xs => callFunction fn (xs.map (·.1))

/-- The steps a right operand of `->` or `->>` stands for: a path after its `$`; an integer `n`
the index `[n]`, or `[#n]` counting from the end when it is negative; a name of letters, digits
and `_` the key `.name`; a bracketed text itself; and any other text the quoted key `."text"`. -/
def arrowSteps (p : Value) : List Char :=
  match p, p.leadingText.toList with
  | _, '$' :: rest => rest
  | .int _, cs => '[' :: (if cs.head? == some '-' then '#' :: cs else cs) ++ [']']
  | _, cs =>
    if cs.all fun c => c.isAlphanum || c = '_' then '.' :: cs
    else if cs.head? == some '[' && cs.length ≥ 3 && cs.getLast? == some ']' then cs
    else '.' :: '"' :: cs ++ ['"']

/-- The value of `x -> p` (`asText` false) or `x ->> p`: the element at a path, as JSON text or as a
store value. -/
def jsonArrow (asText : Bool) (x p : Value) : Except String Value :=
  if x.isNull then .ok .null
  else do
    let d ← docOf x
    if p.isNull then .ok .null
    else
      match JsonDoc.lookup d (arrowSteps p) with
      | .at e => if asText then valueOf e else .ok (.text e.write)
      | .missing => .ok .null
      | .badPath => .error (badPath p.leadingText)

end MapReduce.Sql
