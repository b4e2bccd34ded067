import MapReduce.Sql.Value

/-! # Formatted text

`printf(format, ...)`, also called `format`, writes its arguments into a text as its format
says. The format is read as far as its first NUL character, and text outside conversions is
copied. A conversion is `%`, then flags, a width, a precision, an optional `l` or `ll` that
changes nothing, and the conversion character:

* flags: `-` pads on the right, `+` and a blank sign positive numbers, `#` asks for the
  alternate form, `!` for the alternate floating-point form and for widths and precisions of
  texts in characters, `0` pads numbers with zeros and `,` separates thousands;
* a width is decimal digits or `*`, which takes the next argument; a negative one pads on the
  right;
* a precision is `.` and decimal digits or `*`; a negative one counts as its magnitude.

Arguments are taken in order, and a missing one reads as null, zero or an empty text. An unknown
conversion character, or the end of the format inside a conversion, ends the output there. The
result is null when nothing was ever written, and when the text would reach the length limit of
a value.

Widths and precisions of texts count bytes unless `!` is given; a precision may then cut a
character of several bytes. Floating-point conversions take the number's first eighteen
significant digits (nineteen from `10 ^ 18` on), cut off, and round them to the precision, at
most sixteen digits (twenty-six with `!`), a digit of five or more going up. -/

namespace MapReduce.Sql

/-- The low 32 bits of an integer as a signed number: what a 32-bit argument receives. -/
def wrap32 (n : Int) : Int :=
  let m := n % 4294967296
  if m ≥ 2147483648 then m - 4294967296 else m

namespace Format

/-- The length a text must stay below, in bytes, counting a final NUL. -/
def maxLength : Nat := 1000000000

/-- The greatest precision of a floating-point conversion. -/
def maxRealPrecision : Nat := 100000000

/-- The flags, width and precision of one conversion. -/
structure Spec where
  leftJustify : Bool := false
  sign : Option Char := none
  alternate : Bool := false
  bang : Bool := false
  zeroPad : Bool := false
  thousands : Bool := false
  width : Nat := 0
  precision : Option Nat := none
  deriving Repr

/-- What a conversion character asks for. A radix conversion carries its base, whether its
digits are capitals and what the alternate form puts in front. -/
inductive Conversion where
  | decimal (signed : Bool)
  | radix (base : Nat) (upper : Bool) (lead : List Char)
  | ordinal
  | fixed
  | scientific (upper : Bool)
  | general (upper : Bool)
  | string
  | character
  | quoted (quote : Char) (enclose : Bool)
  | count
  | percent
  deriving Repr

/-- The conversion of a conversion character, none for an unknown one. -/
def conversionOf (c : Char) : Option Conversion :=
  match c with
  | 'd' | 'i' => some (.decimal true)
  | 'u' => some (.decimal false)
  | 'x' => some (.radix 16 false ['0', 'x'])
  | 'X' => some (.radix 16 true ['0', 'X'])
  | 'o' => some (.radix 8 false ['0'])
  | 'p' => some (.radix 16 true ['0', 'x'])
  | 'r' => some .ordinal
  | 'f' => some .fixed
  | 'e' => some (.scientific false)
  | 'E' => some (.scientific true)
  | 'g' => some (.general false)
  | 'G' => some (.general true)
  | 's' | 'z' => some .string
  | 'c' => some .character
  | 'q' => some (.quoted '\'' false)
  | 'Q' => some (.quoted '\'' true)
  | 'w' => some (.quoted '"' false)
  | 'n' => some .count
  | '%' => some .percent
  | _ => none

/-- The arguments not yet taken. -/
abbrev Args := List Value

/-- The next argument as an integer; zero when none is left. -/
def nextInt : Args → Int × Args
  | [] => (0, [])
  | v :: vs => (v.toInt64, vs)

/-- The next argument as a binary64 number; zero when none is left. -/
def nextReal : Args → Float64 × Args
  | [] => (Float64.zero, [])
  | v :: vs => (v.toReal, vs)

/-- The bytes of the next argument as far as its first NUL; none for null or when none is
left. -/
def nextBytes : Args → Option (List UInt8) × Args
  | [] => (none, [])
  | .null :: vs => (none, vs)
  | v :: vs => (some (v.toBytes.takeWhile (· != 0)), vs)

/-- Decimal digits read as a 32-bit unsigned number of which 31 bits are kept, and the
characters after them. -/
def readCount (cs : List Char) : Nat × List Char :=
  let ds := cs.takeWhile Char.isDigit
  let v := ds.foldl (fun acc c => (acc * 10 + (c.toNat - 48)) % 4294967296) 0
  (v % 2147483648, cs.dropWhile Char.isDigit)

/-- A width taken from an argument: whether it pads on the right, and its size. -/
def starWidth (n : Int) : Bool × Nat :=
  let w := wrap32 n
  if w < 0 then (true, if w ≥ -2147483647 then (-w).toNat else 0) else (false, w.toNat)

/-- A precision taken from an argument; the least 32-bit number counts as none. -/
def starPrecision (n : Int) : Option Nat :=
  let p := wrap32 n
  if p < 0 then (if p ≥ -2147483647 then some (-p).toNat else none) else some p.toNat

/-- What ends a width or a precision: an `l` or, after a width, a `.` goes on reading; another
character is the conversion character; the end of the format ends the conversion. -/
inductive SpecEnd where
  | more (cs : List Char)
  | conversion (c : Char) (rest : List Char)
  | stop

/-- How the characters after a width go on. -/
def afterWidth : List Char → SpecEnd
  | '.' :: r => .more ('.' :: r)
  | 'l' :: r => .more ('l' :: r)
  | c :: r => .conversion c r
  | [] => .stop

/-- How the characters after a precision go on. -/
def afterPrecision : List Char → SpecEnd
  | 'l' :: r => .more ('l' :: r)
  | c :: r => .conversion c r
  | [] => .stop

/-- Reads the flags, width and precision of a conversion from the character after `%`,
taking arguments for `*`. Gives them with the conversion character and the format after it,
or with none when the format ends first. -/
def readSpec : Nat → Spec → Args → List Char → Spec × Args × Option (Char × List Char)
  | 0, s, args, _ => (s, args, none)
  | _, s, args, [] => (s, args, none)
  | fuel + 1, s, args, c :: rest =>
    let next (s : Spec) (args : Args) : SpecEnd → Spec × Args × Option (Char × List Char)
      | .more cs => readSpec fuel s args cs
      | .conversion d r => (s, args, some (d, r))
      | .stop => (s, args, none)
    match c with
    | '-' => readSpec fuel { s with leftJustify := true } args rest
    | '+' => readSpec fuel { s with sign := some '+' } args rest
    | ' ' => readSpec fuel { s with sign := some ' ' } args rest
    | '#' => readSpec fuel { s with alternate := true } args rest
    | '!' => readSpec fuel { s with bang := true } args rest
    | '0' => readSpec fuel { s with zeroPad := true } args rest
    | ',' => readSpec fuel { s with thousands := true } args rest
    | 'l' =>
      let rest := match rest with
        | 'l' :: r => r
        | r => r
      match rest with
      | d :: r => (s, args, some (d, r))
      | [] => (s, args, none)
    | '*' =>
      let (n, args) := nextInt args
      let (left, w) := starWidth n
      next { s with width := w, leftJustify := s.leftJustify || left } args (afterWidth rest)
    | '.' =>
      match rest with
      | '*' :: r =>
        let (n, args) := nextInt args
        next { s with precision := starPrecision n } args (afterPrecision r)
      | r =>
        let (p, r) := readCount r
        next { s with precision := some p } args (afterPrecision r)
    | _ =>
      if c.isDigit then
        let (w, r) := readCount (c :: rest)
        next { s with width := w } args (afterWidth r)
      else (s, args, some (c, rest))

/-- What one conversion writes: its text and the blanks that pad it, on the right or on the
left. The blanks are kept as a count so that a wide field is measured before it is built. -/
structure Field where
  body : List UInt8
  pad : Nat
  left : Bool

/-- The UTF-8 bytes of characters. -/
def charBytes (cs : List Char) : List UInt8 := textBytes (String.ofList cs)

/-- The number of continuation bytes among UTF-8 bytes. -/
def continuations (bs : List UInt8) : Nat := (bs.filter fun b => b &&& 0xC0 == 0x80).length

/-- A field padded with blanks to a width counted in bytes. -/
def padded (s : Spec) (body : List UInt8) (width : Nat) : Field :=
  ⟨body, width - body.length, s.leftJustify⟩

/-- The digits of a number in a base, most significant first, in capitals or not. -/
def digitsIn (base : Nat) (upper : Bool) (n : Nat) : List Char :=
  let ds := Nat.toDigits base n
  if upper then ds.map Char.toUpper else ds

/-- Digits grouped by threes from the right, with commas between the groups. -/
def groupThousands (ds : List Char) : List Char :=
  let first := (ds.length + 2) % 3 + 1
  ds.take first ++ groups (ds.drop first)
where
  /-- Whole groups of three, each after a comma. -/
  groups : List Char → List Char
    | a :: b :: c :: r => ',' :: a :: b :: c :: groups r
    | r => r

/-- The English ordinal suffix of a number. -/
def ordinalSuffix (n : Nat) : List Char :=
  let x := n % 10
  if x ≥ 4 || (n / 10) % 10 == 1 then ['t', 'h']
  else if x == 1 then ['s', 't']
  else if x == 2 then ['n', 'd']
  else if x == 3 then ['r', 'd']
  else ['t', 'h']

/-- An integer conversion: the digits, zeros up to the precision (a zero-padded field asks for
its width, less a sign), thousands separators, the sign and the alternate form's lead. A
precision so large that its working space passes the length limit fails. -/
def integerField (conv : Conversion) (s : Spec) (args : Args) : Except Unit (Field × Args) :=
  let (v, args) := nextInt args
  let (signed, base, upper, lead, ordinal) : Bool × Nat × Bool × List Char × Bool :=
    match conv with
    | .decimal signed => (signed, 10, false, [], false)
    | .radix base upper lead => (false, base, upper, lead, false)
    | _ => (true, 10, false, [], true)
  let thousands := s.thousands && match conv with
    | .decimal _ => true
    | _ => false
  let (mag, signChar) : Nat × Option Char :=
    if signed then (if v < 0 then (v.natAbs, some '-') else (v.toNat, s.sign))
    else ((v % 18446744073709551616).toNat, none)
  let alternate := s.alternate && mag != 0
  let signLen : Int := if signChar.isSome then 1 else 0
  let precision : Int := match s.precision with
    | some p => p
    | none => -1
  let precision := if s.zeroPad && precision < s.width - signLen then s.width - signLen else precision
  if precision ≥ 37 && precision + 10 + (if thousands then precision / 3 else 0) > maxLength then
    .error ()
  else
    let ds := digitsIn base upper mag ++ (if ordinal then ordinalSuffix mag else [])
    let ds := List.replicate (precision.toNat - ds.length) '0' ++ ds
    let ds := if thousands then groupThousands ds else ds
    let ds := (if alternate then lead else []) ++ signChar.toList ++ ds
    .ok (padded s (charBytes ds) s.width, args)

/-- One more unit in the last of decimal digits, and whether it carried out of the first. -/
def bumpDigits (ds : List Nat) : List Nat × Bool :=
  let (r, carry) := go ds.reverse
  (r.reverse, carry)
where
  /-- The bump on digits from the last. -/
  go : List Nat → List Nat × Bool
    | [] => ([], true)
    | d :: rest =>
      if d + 1 ≤ 9 then ((d + 1) :: rest, false)
      else
        let (r, c) := go rest
        (0 :: r, c)

/-- Digits without their trailing zeros. -/
def dropTrailingZeros (ds : List Nat) : List Nat := (ds.reverse.dropWhile (· == 0)).reverse

/-- The significant digits of a magnitude as the floating-point conversions see them, and the
position of the decimal point among them: the first eighteen digits, nineteen from `10 ^ 18`
on, cut off. A round of `r > 0` keeps `r` digits and at most `limit`, a digit of five or more
after them going up; a round of `r ≤ 0` keeps the digits up to `-r` places after the point,
where a first digit of five or more just past them rounds up to a one. -/
def decodeDigits (x : Binary64) (round : Int) (limit : Nat) : List Nat × Int :=
  if x.isZero then ([0], 1)
  else
    let m := { x with neg := false }
    let n := if Binary64.compareInt 1000000000000000000 m != .gt then 19 else 18
    let d := m.truncatedDigits n
    let z := (Nat.toDigits 10 d.digits).map (·.toNat - 48)
    let point : Int := (n : Int) + d.exp10
    let (z, point, round) : List Nat × Int × Int :=
      if round ≤ 0 then
        let r := point - round
        if r = 0 && z.headD 0 ≥ 5 then (0 :: z, point + 1, 1) else (z, point, r)
      else (z, point, round)
    let (z, point) : List Nat × Int :=
      if round > 0 && (round < z.length || z.length > limit) then
        let r := min round.toNat limit
        if z.getD r 0 ≥ 5 then
          match bumpDigits (z.take r) with
          | (ds, false) => (ds, point)
          | (ds, true) => (1 :: ds, point + 1)
        else (z.take r, point)
      else (z, point)
    (dropTrailingZeros z, point)

/-- The character of a decimal digit. -/
def digitChar (d : Nat) : Char := Char.ofNat (48 + d)

/-- The integer part of a fixed-point text: the digits for the places `e` down to zero, zeros
once the digits run out, with a comma after the places `3k` above zero when separating
thousands; and the digits left. -/
def integerPart (thousands : Bool) : Nat → List Nat → List Char × List Nat
  | 0, ds => ([digitChar (ds.headD 0)], ds.drop 1)
  | e + 1, ds =>
    let (rest, left) := integerPart thousands e (ds.drop 1)
    let comma := if thousands && (e + 1) % 3 == 0 && e + 1 > 1 then [','] else []
    (digitChar (ds.headD 0) :: comma ++ rest, left)

/-- An exponent: its letter, its sign and at least two digits. -/
def exponentChars (letter : Char) (e : Int) : List Char :=
  let a := e.natAbs
  let sign := if e < 0 then '-' else '+'
  let hundreds := if a ≥ 100 then [digitChar (a / 100)] else []
  let a := a % 100
  letter :: sign :: hundreds ++ [digitChar (a / 10), digitChar (a % 10)]

/-- The text of decoded digits in fixed-point (`e2` is the place of the first digit, or zero in
the scientific form) or scientific form, before padding. -/
def realChars (s : Spec) (signChar : Option Char) (z : List Nat) (point e2 : Int)
    (precision : Nat) (scientific : Option Char) (trimZeros : Bool) : List Char :=
  let dp := precision > 0 || s.alternate || s.bang
  let (whole, left) : List Char × List Nat :=
    if e2 < 0 then (['0'], z) else integerPart s.thousands e2.toNat z
  let leading := if e2 < 0 then min (-(e2 + 1)).toNat precision else 0
  let precision := precision - leading
  let fraction := List.replicate leading '0' ++
    (List.range precision).map fun i => digitChar (left.getD i 0)
  let body := whole ++ (if dp then ['.'] else []) ++ fraction
  let body :=
    if trimZeros && dp then
      let t := (body.reverse.dropWhile (· == '0')).reverse
      if t.getLast? == some '.' then (if s.bang then t ++ ['0'] else t.dropLast) else t
    else body
  let body := match scientific with
    | some letter => body ++ exponentChars letter (point - 1)
    | none => body
  signChar.toList ++ body

/-- A floating-point conversion. Infinity is `Inf` with its sign, or with zero padding a nine
followed by a thousand places; NaN is `NaN`, or `null` with zero padding. Zero padding goes
between the sign and the digits. Working space past the length limit fails. -/
def realField (conv : Conversion) (s : Spec) (args : Args) : Except Unit (Field × Args) :=
  let (r, args) := nextReal args
  let precision := min (s.precision.getD 6) maxRealPrecision
  let (precision, round) : Nat × Int := match conv with
    | .fixed => (precision, -(precision : Int))
    | .general _ => let p := max precision 1; (p, p)
    | _ => (precision, precision + 1)
  let limit := if s.bang then 26 else 16
  let decoded : Sum (List Char) (Bool × List Nat × Int) := match r with
    | .nan => .inl (if s.zeroPad then ['n', 'u', 'l', 'l'] else ['N', 'a', 'N'])
    | .infinite neg =>
      if s.zeroPad then .inr (neg, [9], 1000)
      else .inl (if neg then ['-', 'I', 'n', 'f']
        else s.sign.toList ++ ['I', 'n', 'f'])
    | .finite x =>
      let (z, point) := decodeDigits x round limit
      .inr (x.neg && !x.isZero, z, point)
  match decoded with
  | .inl cs => .ok (padded s (charBytes cs) s.width, args)
  | .inr (neg, z, point) =>
    let signChar := if neg then some '-' else s.sign
    let exp := point - 1
    let (scientific, precision, trimZeros) : Option Char × Nat × Bool := match conv with
      | .general upper =>
        let precision := precision - 1
        if exp < -4 || exp > precision then
          (some (if upper then 'E' else 'e'), precision, !s.alternate)
        else (none, (precision - exp).toNat, !s.alternate)
      | .scientific upper => (some (if upper then 'E' else 'e'), precision, s.bang)
      | _ => (none, precision, s.bang)
    let e2 : Int := if scientific.isSome then 0 else exp
    let need : Int := max e2 0 + precision + s.width + 15 +
      (if s.thousands && e2 > 0 then (e2 + 2) / 3 else 0)
    if need > 70 && need > maxLength then .error ()
    else
      let cs := realChars s signChar z point e2 precision scientific trimZeros
      let cs :=
        if s.zeroPad && !s.leftJustify && cs.length < s.width then
          let k := if signChar.isSome then 1 else 0
          cs.take k ++ List.replicate (s.width - cs.length) '0' ++ cs.drop k
        else cs
      .ok (padded s (charBytes cs) s.width, args)

/-- The first `n` characters of UTF-8 bytes, a character being a byte and, when that byte
starts a sequence of several, the continuation bytes after it. -/
def takeCharacters : Nat → List UInt8 → List UInt8
  | 0, _ => []
  | _, [] => []
  | n + 1, b :: rest =>
    if b ≥ 0xC0 then
      let cont := rest.takeWhile fun c => c &&& 0xC0 == 0x80
      b :: cont ++ takeCharacters n (rest.drop cont.length)
    else b :: takeCharacters n rest

/-- The width of a text field in bytes: with `!` it counts characters, so it grows by the
continuation bytes of the text. -/
def textWidth (s : Spec) (body : List UInt8) : Nat :=
  if s.bang && s.width > 0 then s.width + continuations body else s.width

/-- `%s`: the text, cut to the precision. -/
def stringField (s : Spec) (args : Args) : Field × Args :=
  let (arg, args) := nextBytes args
  let bs := arg.getD []
  let bs := match s.precision with
    | none => bs
    | some p => if s.bang then takeCharacters p bs else bs.take p
  (padded s bs (textWidth s bs), args)

/-- `%c`: the first character of the text, a NUL byte for null or the empty text, repeated as
often as the precision says; the width counts characters. -/
def characterField (s : Spec) (args : Args) : Field × Args :=
  let (arg, args) := nextBytes args
  let one : List UInt8 := match arg with
    | some (b :: rest) =>
      if b &&& 0xC0 == 0xC0 then b :: (rest.takeWhile fun c => c &&& 0xC0 == 0x80).take 3 else [b]
    | _ => [0]
  let copies := match s.precision with
    | some p => if p > 1 then p else 1
    | none => 1
  (⟨(List.replicate copies one).flatten, s.width - copies, s.leftJustify⟩, args)

/-- The bytes a quoting conversion takes: a precision counts bytes, or characters with `!`. -/
def takeQuoted (bang : Bool) : Option Nat → List UInt8 → List UInt8
  | some 0, _ => []
  | _, [] => []
  | k, b :: rest =>
    let k' := k.map (· - 1)
    if bang && b &&& 0xC0 == 0xC0 then
      let cont := rest.takeWhile fun c => c &&& 0xC0 == 0x80
      b :: cont ++ takeQuoted bang k' (rest.drop cont.length)
    else b :: takeQuoted bang k' rest
termination_by _ bs => bs.length
decreasing_by
  all_goals simp only [List.length_drop, List.length_cons]
  all_goals omega

/-- `%q`, `%Q` and `%w`: the text with each quote doubled; `%Q` also encloses it in quotes. A
null is `NULL` for `%Q` and `(NULL)` otherwise, neither quoted. -/
def quotedField (quote : Char) (enclose : Bool) (s : Spec) (args : Args) : Field × Args :=
  let (arg, args) := nextBytes args
  let src := arg.getD (charBytes (if enclose then ['N', 'U', 'L', 'L'] else ['(', 'N', 'U', 'L', 'L', ')']))
  let q := quote.toNat.toUInt8
  let taken := takeQuoted s.bang s.precision src
  let doubled := taken.flatMap fun b => if b == q then [b, b] else [b]
  let body := if enclose && arg.isSome then q :: doubled ++ [q] else doubled
  (padded s body (textWidth s body), args)

/-- The field of a conversion and the arguments left, or a failure past the length limit. -/
def field (conv : Conversion) (s : Spec) (args : Args) : Except Unit (Field × Args) :=
  match conv with
  | .decimal _ | .radix _ _ _ | .ordinal => integerField conv s args
  | .fixed | .scientific _ | .general _ => realField conv s args
  | .string => .ok (stringField s args)
  | .character => .ok (characterField s args)
  | .quoted q e => .ok (quotedField q e s args)
  | .count => .ok (⟨[], 0, false⟩, args)
  | .percent => .ok (padded s [37] s.width, args)

/-- Output so far: none until something is written. -/
abbrev Output := Option (List UInt8)

/-- Writes bytes; past the length limit the whole text fails. -/
def write (out : Output) (bs : List UInt8) : Except Unit Output :=
  let cur := out.getD []
  if cur.length + bs.length + 1 > maxLength then .error () else .ok (some (cur ++ bs))

/-- Writes a field: the body and its padding, each measured before it is built. -/
def writeField (out : Output) (f : Field) : Except Unit Output := do
  let used := (out.getD []).length
  if used + f.body.length + f.pad + 1 > maxLength then .error ()
  else
    let blanks := List.replicate f.pad (32 : UInt8)
    let out ← if !f.left && f.pad > 0 then write out blanks else .ok out
    let out ← write out f.body
    if f.left && f.pad > 0 then write out blanks else .ok out

/-- Writes a format's characters with the arguments. -/
def render : Nat → Args → List Char → Output → Except Unit Output
  | 0, _, _, out => .ok out
  | _, _, [], out => .ok out
  | fuel + 1, args, '%' :: rest, out =>
    match rest with
    | [] => write out [37]
    | _ =>
      match readSpec (rest.length + 1) {} args rest with
      | (_, _, none) => .ok out
      | (s, args, some (c, after)) =>
        match conversionOf c with
        | none => .ok out
        | some conv => do
          let (f, args) ← field conv s args
          let out ← writeField out f
          render fuel args after out
  | fuel + 1, args, c :: rest, out => do
    let lit := c :: rest.takeWhile (· != '%')
    let out ← write out (charBytes lit)
    render fuel args (rest.dropWhile (· != '%')) out

end Format

/-- `printf(format, ...)`: null without a format or when the format is null. -/
def formatValue : List Value → Value
  | [] => .null
  | .null :: _ => .null
  | f :: args =>
    let cs := f.toText.toList.takeWhile (· != '\x00')
    match Format.render (cs.length + 1) args cs none with
    | .ok (some bs) => .text (bytesText bs)
    | _ => .null

/-- The text of a number written by a format of one conversion. -/
def formatReal (format : String) (x : Float64) : String :=
  match formatValue [.text format, .real x] with
  | .text t => t
  | _ => ""

/-- A binary64 number as a literal that reads back as the same number: fifteen significant
digits when they do, else the digits of the floating-point conversions in exponent form. -/
def quoteReal (x : Float64) : String :=
  let short := formatReal "%!0.15g" x
  if Float64.compare (scanReal short).value x == .eq then short else formatReal "%!0.20e" x

end MapReduce.Sql
