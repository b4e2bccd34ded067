import MapReduce.Text.Blank

/-! Timestamps in a relaxed RFC 3339 form: `YYYY-MM-DD`, then `T`, `t` or a space, then
`HH:MM:SS`, an optional fraction of a second and an offset, which is `Z`, `UTC` (in any case) or a
signed hour and minute. Numbers need not be padded; a year of more than four digits needs a sign,
and a year may be negative. Blanks may stand before every number, between a number and the
separator after it, before the offset, between the offset's hour and minute (where the colon may
also be missing) and at the end. The offset's sign may be the minus sign U+2212. The date must
exist in the proleptic Gregorian calendar, the time of day must be valid (a leap second `60` is
allowed), and the offset must be less than a day. A text that is no timestamp fails with the
reason found first (`TimeError`).

A valid timestamp is kept in one normal form: the same instant in UTC, written
`YYYY-MM-DDTHH:MM:SS`, with the fraction in the fewest of three, six or nine digits that hold it
and a final `Z`. -/

namespace MapReduce.Text

/-- Whether a year is a leap year of the proleptic Gregorian calendar. -/
def isLeapYear (y : Int) : Bool := (y % 4 == 0 && y % 100 != 0) || y % 400 == 0

/-- The number of days of a month of a year. -/
def daysInMonth (y : Int) (m : Nat) : Nat :=
  if m == 2 then (if isLeapYear y then 29 else 28)
  else if m == 4 || m == 6 || m == 9 || m == 11 then 30 else 31

/-- The day number of a date, counting from 1970-01-01. Division rounds down here, so the
400-year era of a negative year is the one before it. -/
def daysFromCivil (y : Int) (m d : Nat) : Int :=
  let y := if m ≤ 2 then y - 1 else y
  let era := y / 400
  let yoe := y - era * 400
  let mp : Int := if m > 2 then m - 3 else m + 9
  let doy := (153 * mp + 2) / 5 + d - 1
  let doe := yoe * 365 + yoe / 4 - yoe / 100 + doy
  era * 146097 + doe - 719468

/-- The date of a day number counted from 1970-01-01: year, month and day. -/
def civilFromDays (z : Int) : Int × Nat × Nat :=
  let z := z + 719468
  let era := z / 146097
  let doe := z - era * 146097
  let yoe := (doe - doe / 1460 + doe / 36524 - doe / 146096) / 365
  let y := yoe + era * 400
  let doy := doe - (365 * yoe + yoe / 4 - yoe / 100)
  let mp := (5 * doy + 2) / 153
  let d := doy - (153 * mp + 2) / 5 + 1
  let m := if mp < 10 then mp + 3 else mp - 9
  ((if m ≤ 2 then y + 1 else y), m.toNat, d.toNat)

/-- The smallest and greatest years a timestamp may have. -/
def minYear : Int := -262144

/-- The greatest year a timestamp may have. -/
def maxYear : Int := 262143

/-- A moment in UTC: the date, the time of day and the nanoseconds, which reach past a second
during a leap second. -/
structure Instant where
  year : Int
  month : Nat
  day : Nat
  hour : Nat
  minute : Nat
  second : Nat
  nano : Nat
  deriving DecidableEq, Repr

/-- Why a text is no timestamp. -/
inductive TimeError where
  /-- A number outside its range, a date that does not exist or an offset of a day or more. -/
  | outOfRange
  /-- An instant that falls outside the years a timestamp may have once moved to UTC. -/
  | impossible
  /-- A character where another was needed. -/
  | invalid
  /-- A text that ends inside a part. -/
  | tooShort
  /-- Characters after the offset. -/
  | tooLong
  deriving DecidableEq, Repr

/-- The wording of a failure. -/
def TimeError.message : TimeError → String
  | .outOfRange => "input is out of range"
  | .impossible => "no possible date and time matching input"
  | .invalid => "input contains invalid characters"
  | .tooShort => "premature end of input"
  | .tooLong => "trailing input"

/-- A number of at least one and at most `most` ASCII digits from the start of characters, as many
as there are; none at all is a failure. -/
def scanNumber (most : Nat) (cs : List Char) : Except TimeError (Nat × List Char) :=
  match cs with
  | [] => .error .tooShort
  | c :: _ =>
    if !c.isDigit then .error .invalid
    else
      let ds := (cs.takeWhile Char.isDigit).take most
      .ok (ds.foldl (fun acc c => acc * 10 + (c.toNat - 48)) 0, cs.drop ds.length)

/-- Characters without the blanks at their start. -/
def skipBlanks (cs : List Char) : List Char := cs.dropWhile isBlank

/-- Characters after a literal character. -/
def scanLiteral (c : Char) : List Char → Except TimeError (List Char)
  | [] => .error .tooShort
  | d :: rest => if d = c then .ok rest else .error .invalid

/-- A year after blanks: a sign and any number of digits, or up to four digits without a sign. It
must fit 32 bits. -/
def scanYear (cs : List Char) : Except TimeError (Int × List Char) := do
  let (y, rest) ← match skipBlanks cs with
    | '-' :: r => (scanNumber r.length r).map fun (n, r) => (-(n : Int), r)
    | '+' :: r => (scanNumber r.length r).map fun (n, r) => ((n : Int), r)
    | r => (scanNumber 4 r).map fun (n, r) => ((n : Int), r)
  if -2147483648 ≤ y && y < 2147483648 then .ok (y, rest) else .error .outOfRange

/-- A field of one or two digits after blanks, from `low` to `high`. -/
def scanField (low high : Nat) (cs : List Char) : Except TimeError (Nat × List Char) := do
  let (n, rest) ← scanNumber 2 (skipBlanks cs)
  if low ≤ n && n ≤ high then .ok (n, rest) else .error .outOfRange

/-- An optional fraction of a second: its nanoseconds, from up to nine digits, the digits after
the ninth skipped. -/
def scanFraction : List Char → Except TimeError (Nat × List Char)
  | '.' :: rest => do
    let (n, r) ← scanNumber 9 rest
    let used := rest.length - r.length
    .ok (n * Nat.pow 10 (9 - used), r.dropWhile Char.isDigit)
  | cs => .ok (0, cs)

/-- Two digits of an offset, given as the first of two characters and the rest: both must be
ASCII digits, and a text of fewer than two bytes ends too soon. -/
def offsetPair (cs : List Char) : Except TimeError (Char × Char × List Char) :=
  match cs with
  | [] => .error .tooShort
  | [c] => .error (if c.utf8Size ≥ 2 then .invalid else .tooShort)
  | a :: b :: rest => .ok (a, b, rest)

/-- An offset in seconds east of UTC: `UTC` in any case, `Z` or `z`, or a sign, two digits of
hours and two of minutes below 60, with any colons and blanks between them. -/
def scanOffset (cs : List Char) : Except TimeError (Int × List Char) :=
  match cs with
  | u :: t :: c :: rest =>
    if u.toLower = 'u' && t.toLower = 't' && c.toLower = 'c' then .ok (0, rest) else signed cs
  | _ => signed cs
where
  /-- An offset that is not `UTC`. -/
  signed (cs : List Char) : Except TimeError (Int × List Char) :=
    match cs with
    | 'Z' :: rest | 'z' :: rest => .ok (0, rest)
    | [] => .error .tooShort
    | s :: rest => do
      let negative := s = '-' || s.toNat = 0x2212
      if !(negative || s = '+') then throw .invalid
      let (h1, h2, rest) ← offsetPair rest
      if !(h1.isDigit && h2.isDigit) then throw .invalid
      let (m1, m2, rest) ← offsetPair (rest.dropWhile fun c => c = ':' || isBlank c)
      if !m2.isDigit || !m1.isDigit then throw .invalid
      if m1 > '5' then throw .outOfRange
      let secs : Int := ((h1.toNat - 48) * 10 + (h2.toNat - 48)) * 3600 +
        ((m1.toNat - 48) * 10 + (m2.toNat - 48)) * 60
      .ok ((if negative then -secs else secs), rest)

/-- Reads a timestamp as the instant it names in UTC. The parts are read from left to right and
the first that fails gives the failure; the date is checked to exist after the whole text is
read, and the instant to fit once moved to UTC. -/
def parseTimestamp (s : String) : Except TimeError Instant := do
  let cs := s.toList
  let (year, cs) ← scanYear cs
  let cs ← scanLiteral '-' (skipBlanks cs)
  let (month, cs) ← scanField 1 12 cs
  let cs ← scanLiteral '-' (skipBlanks cs)
  let (day, cs) ← scanField 1 31 cs
  let cs ← match cs with
    | c :: rest => if c = 'T' || c = 't' || c = ' ' then .ok rest else .error .invalid
    | [] => .error .tooShort
  let (hour, cs) ← scanField 0 23 cs
  let cs ← scanLiteral ':' (skipBlanks cs)
  let (minute, cs) ← scanField 0 59 cs
  let cs ← scanLiteral ':' (skipBlanks cs)
  let (second, cs) ← scanField 0 60 cs
  let (nano, cs) ← scanFraction cs
  let (offset, cs) ← scanOffset (skipBlanks cs)
  if !(skipBlanks cs).isEmpty then throw .tooLong
  if !(minYear ≤ year && year ≤ maxYear) || day > daysInMonth year month then throw .outOfRange
  if !(-86400 < offset && offset < 86400) then throw .outOfRange
  let (second, nano) := if second = 60 then (59, nano + 1000000000) else (second, nano)
  let wall := daysFromCivil year month day * 86400 + hour * 3600 + minute * 60 + second
  let utc := wall - offset
  let days := utc / 86400
  let rem := (utc - days * 86400).toNat
  let (y, m, d) := civilFromDays days
  if !(minYear ≤ y && y ≤ maxYear) then throw .impossible
  .ok ⟨y, m, d, rem / 3600, rem % 3600 / 60, rem % 60, nano⟩

/-- The nanoseconds from 1970-01-01 00:00:00 UTC to an instant. -/
def Instant.nanos (t : Instant) : Int :=
  (daysFromCivil t.year t.month t.day * 86400 + (t.hour * 3600 + t.minute * 60 + t.second : Nat)) *
    1000000000 + t.nano

/-- A number written with at least `width` digits. -/
def padded (width n : Nat) : String :=
  let s := toString n
  String.ofList (List.replicate (width - s.length) '0') ++ s

/-- The normal form of an instant. -/
def Instant.render (t : Instant) : String :=
  let year := if 0 ≤ t.year && t.year ≤ 9999 then padded 4 t.year.toNat
    else (if t.year < 0 then "-" else "+") ++ padded 4 t.year.natAbs
  let (second, nano) := if t.nano ≥ 1000000000 then (t.second + 1, t.nano - 1000000000)
    else (t.second, t.nano)
  let fraction :=
    if nano = 0 then ""
    else if nano % 1000000 = 0 then "." ++ padded 3 (nano / 1000000)
    else if nano % 1000 = 0 then "." ++ padded 6 (nano / 1000)
    else "." ++ padded 9 nano
  year ++ "-" ++ padded 2 t.month ++ "-" ++ padded 2 t.day ++ "T" ++ padded 2 t.hour ++ ":" ++
    padded 2 t.minute ++ ":" ++ padded 2 second ++ fraction ++ "Z"

/-- The normal form of a timestamp, or why the text is not one. -/
def normalTimestamp (s : String) : Except TimeError String := (parseTimestamp s).map Instant.render

end MapReduce.Text
