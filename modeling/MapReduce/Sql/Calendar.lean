import MapReduce.Sql.Format
import MapReduce.Text.Timestamp

/-! # Dates and times

The store's date and time functions read a time value, apply their modifiers to it one after
another, and write the result. A time value is a text `YYYY-MM-DD` with an optional time of day,
a text `HH:MM[:SS[.FFF]]` alone, `now`, or a number, which is a Julian day number unless a
modifier says it counts seconds since 1970.

A moment is held in up to three forms at once: its Julian day in milliseconds, its calendar date
and its time of day, each with a flag that says whether it is current. Each function brings the
form it needs up to date from the others, so a date written with a day past the end of its month,
such as `2023-02-31`, keeps that day until the Julian day is asked for, and then it runs over into
the next month. The calendar is the proleptic Gregorian one and the time is UTC; the clock reads
the fixed instant 2024-01-01 00:00:00, so that every result can be reproduced.

Every failure, an unreadable value or modifier or a moment outside the years 4713 BC to 9999,
gives null. -/

namespace MapReduce.Sql

/-! ## Numbers -/

/-- Milliseconds in a day. -/
def dayMillis : Int := 86400000

/-- The Julian day in milliseconds of 1970-01-01 00:00:00. -/
def unixEpochMillis : Int := 210866760000000

/-- The last Julian day in milliseconds that a moment may have: 9999-12-31 23:59:59.999. -/
def lastMillis : Int := 464269060799999

/-- Whether a Julian day in milliseconds lies in the years a moment may have. -/
def validMillis (jd : Int) : Bool := 0 ≤ jd && jd ≤ lastMillis

/-- The binary64 number nearest to the quotient of two integers. -/
def ratio (n : Int) (d : Nat) : Float64 := Float64.div (Float64.ofInt n) (Float64.ofInt d)

/-- Whether one binary64 number is below another; NaN is below nothing. -/
def realBelow (a b : Float64) : Bool := !a.isNaN && !b.isNaN && Float64.compare a b == .lt

/-- Whether one binary64 number is at least another; NaN is at least nothing. -/
def realAtLeast (a b : Float64) : Bool := !a.isNaN && !b.isNaN && Float64.compare a b != .lt

/-- A binary64 number rounded to the nearest integer, halves away from zero on the positive
side: `x + 0.5` truncated. -/
def roundedMillis (x : Float64) : Int := (Float64.add x (ratio 1 2)).toInt64

/-- The Julian day in milliseconds of a calendar date at midnight; the day may run past the end
of its month. -/
def dateMillis (y m d : Int) : Int :=
  (Text.daysFromCivil y m.toNat 1 + (d - 1) + 2440588) * dayMillis - dayMillis / 2

/-! ## Moments -/

/-- A moment as the date and time functions reckon it: the Julian day in milliseconds, the
calendar date, the time of day with its seconds as a binary64 number, and a zone offset in
minutes still to be taken off; `hasJd`, `hasDate` and `hasTime` say which forms are current.
`raw` marks a number not yet read as a moment, `floorDays` the days a date ran past the end of
its month, `failed` a moment that went out of range. -/
structure Moment where
  jd : Int := 0
  year : Int := 0
  month : Int := 0
  day : Int := 0
  hour : Int := 0
  minute : Int := 0
  second : Float64 := Float64.zero
  zone : Int := 0
  hasJd : Bool := false
  hasDate : Bool := false
  hasTime : Bool := false
  floorDays : Int := 0
  raw : Bool := false
  failed : Bool := false
  subsec : Bool := false
  utc : Bool := false
  isLocal : Bool := false

namespace Moment

/-- The moment that went out of range: every field cleared. -/
def broken : Moment := { failed := true }

/-- The moment with its date and time of day no longer current and no zone offset left. -/
def forgetFields (p : Moment) : Moment := { p with hasDate := false, hasTime := false, zone := 0 }

/-- The Julian day brought up to date from the date and time of day; a moment with no date is
on 2000-01-01. A year outside -4713 to 9999, or a number not yet read, breaks the moment. A zone
offset is taken off here, and the date and time of day are then no longer current. -/
def withJd (p : Moment) : Moment :=
  if p.hasJd then p
  else
    let (y, m, d) := if p.hasDate then (p.year, p.month, p.day) else (2000, 1, 1)
    if y < -4713 || y > 9999 || p.raw then broken
    else
      let base := dateMillis y m d
      if p.hasTime then
        let jd := base + p.hour * 3600000 + p.minute * 60000 +
          roundedMillis (Float64.mul p.second (Float64.ofInt 1000))
        if p.zone != 0 then
          { p with jd := jd - p.zone * 60000, hasJd := true, hasDate := false, hasTime := false,
                   zone := 0, utc := true, isLocal := false }
        else { p with jd := jd, hasJd := true }
      else { p with jd := base, hasJd := true }

/-- The calendar date brought up to date from the Julian day; a moment with neither is on
2000-01-01. -/
def withDate (p : Moment) : Moment :=
  if p.hasDate then p
  else if !p.hasJd then { p with year := 2000, month := 1, day := 1, hasDate := true }
  else if !validMillis p.jd then broken
  else
    let (y, m, d) := Text.civilFromDays ((p.jd + dayMillis / 2) / dayMillis - 2440588)
    { p with year := y, month := m, day := d, hasDate := true }

/-- The time of day brought up to date from the Julian day. -/
def withTime (p : Moment) : Moment :=
  if p.hasTime then p
  else
    let p := p.withJd
    let dayMs := Int.tmod (p.jd + dayMillis / 2) dayMillis
    let dayMin := Int.tdiv dayMs 60000
    { p with second := ratio (Int.tmod dayMs 60000) 1000, minute := Int.tmod dayMin 60,
             hour := Int.tdiv dayMin 60, raw := false, hasTime := true }

/-- The date and the time of day both brought up to date. -/
def withFields (p : Moment) : Moment := p.withDate.withTime

/-- The number of days by which the date runs past the end of its month. -/
def overrun (p : Moment) : Int :=
  if p.day ≤ 28 then 0
  else if [1, 3, 5, 7, 8, 10, 12].contains p.month then 0
  else if p.month != 2 then (if p.day == 31 then 1 else 0)
  else if Text.isLeapYear p.year then p.day - 29
  else p.day - 28

/-- The moment with its overrun recorded for the `floor` modifier. -/
def withFloor (p : Moment) : Moment := { p with floorDays := p.overrun }

/-- The moment with its month brought back into 1 to 12, the year carrying the rest. -/
def normalMonth (p : Moment) : Moment :=
  let x := if p.month > 0 then Int.tdiv (p.month - 1) 12 else Int.tdiv (p.month - 12) 12
  { p with year := p.year + x, month := p.month - x * 12 }

/-- The days from the first of January of the moment's year. -/
def dayOfYear (p : Moment) : Int :=
  let jan := ({ p with hasJd := false, month := 1, day := 1 } : Moment).withJd
  Int.tdiv (p.jd - jan.jd + dayMillis / 2) dayMillis

/-- The days since the last Monday. -/
def daysAfterMonday (p : Moment) : Int := Int.tmod (Int.tdiv (p.jd + dayMillis / 2) dayMillis) 7

/-- The days since the last Sunday. -/
def daysAfterSunday (p : Moment) : Int :=
  Int.tmod (Int.tdiv (p.jd + 3 * dayMillis / 2) dayMillis) 7

/-- The Thursday of the moment's week, which settles the week's year and number. -/
def weekThursday (p : Moment) : Moment :=
  ({ p with jd := p.jd + (3 - p.daysAfterMonday) * dayMillis, hasDate := false } : Moment).withDate

/-- The moment as the local clock shows it, which is UTC here: the date and time of day from the
Julian day, the whole seconds with the milliseconds added. -/
def toLocal (p : Moment) : Moment :=
  let q := p.withJd
  let f := ({ q with hasDate := false, hasTime := false } : Moment).withFields
  let millis := Float64.mul (Float64.ofInt (Int.tmod q.jd 1000)) (ratio 1 1000)
  { q with year := f.year, month := f.month, day := f.day, hour := f.hour, minute := f.minute,
           second := Float64.add (Float64.ofInt f.second.toInt64) millis,
           hasDate := true, hasTime := true, hasJd := false, raw := false, zone := 0,
           failed := false }

end Moment

/-! ## Reading a time value -/

/-- Exactly `n` decimal digits, their value within `[lo, hi]`. -/
def readDigits (n : Nat) (lo hi : Int) (cs : List Char) : Option (Int × List Char) :=
  let ds := cs.take n
  if ds.length = n && ds.all Char.isDigit then
    let v : Int := ds.foldl (fun acc c => acc * 10 + digitOf c) 0
    if lo ≤ v && v ≤ hi then some (v, cs.drop n) else none
  else none

/-- The next character, which must be `c`. -/
def expectChar (c : Char) : List Char → Option (List Char)
  | d :: rest => if d = c then some rest else none
  | [] => none

/-- A zone at the end of a time: nothing, `Z`, or a signed `HH:MM` offset, with blanks around.
Gives the offset in minutes and whether the time was marked UTC. -/
def readZone (cs : List Char) : Option (Int × Bool) :=
  match cs.dropWhile isBlank with
  | [] => some (0, false)
  | c :: rest =>
    if c = 'Z' || c = 'z' then
      if (rest.dropWhile isBlank).isEmpty then some (0, true) else none
    else if c = '-' || c = '+' then do
      let (h, r) ← readDigits 2 0 14 rest
      let r ← expectChar ':' r
      let (m, r) ← readDigits 2 0 59 r
      if (r.dropWhile isBlank).isEmpty then
        some ((if c = '-' then -1 else 1) * (m + h * 60), false)
      else none
    else none

/-- The digits of a fraction of a second, as the fraction, held below `0.999`. -/
def fractionOf (ds : List Char) : Float64 :=
  let ten := Float64.ofInt 10
  let (ms, scale) := ds.foldl (fun (acc : Float64 × Float64) c =>
    (Float64.add (Float64.mul acc.1 ten) (Float64.ofInt (digitOf c)), Float64.mul acc.2 ten))
    (Float64.zero, Float64.ofInt 1)
  let ms := Float64.div ms scale
  if realBelow (ratio 999 1000) ms then ratio 999 1000 else ms

/-- A time of day `HH:MM[:SS[.FFF]]` and its zone, set on a moment. -/
def readClock (cs : List Char) (p : Moment) : Option Moment := do
  let (h, r) ← readDigits 2 0 24 cs
  let r ← expectChar ':' r
  let (m, r) ← readDigits 2 0 59 r
  let (s, r) ← match r with
    | ':' :: r => do
      let (s, r) ← readDigits 2 0 59 r
      match r with
      | '.' :: d :: rest =>
        if d.isDigit then
          let ds := (d :: rest).takeWhile Char.isDigit
          some (Float64.add (Float64.ofInt s) (fractionOf ds), (d :: rest).dropWhile Char.isDigit)
        else some (Float64.ofInt s, r)
      | _ => some (Float64.ofInt s, r)
    | r => some (Float64.zero, r)
  let (zone, utc) ← readZone r
  some { p with hasJd := false, raw := false, hasTime := true, hour := h, minute := m,
                second := s, zone := zone, utc := p.utc || utc,
                isLocal := if utc then false else p.isLocal }

/-- A date `[-]YYYY-MM-DD`, then blanks or `T`, then an optional time of day. -/
def readDate (cs : List Char) : Option Moment := do
  let (neg, cs) := match cs with
    | '-' :: r => (true, r)
    | r => (false, r)
  let (y, r) ← readDigits 4 0 14712 cs
  let r ← expectChar '-' r
  let (mo, r) ← readDigits 2 1 12 r
  let r ← expectChar '-' r
  let (d, r) ← readDigits 2 1 31 r
  let r := r.dropWhile (fun c => isBlank c || c = 'T')
  let p ← match readClock r {} with
    | some p => some p
    | none => if r.isEmpty then some {} else none
  let p : Moment :=
    Moment.withFloor { p with hasJd := false, hasDate := true, year := if neg then -y else y,
                              month := mo, day := d }
  some (if p.zone != 0 then p.withJd else p)

/-- The instant the clock reads: 2024-01-01 00:00:00 UTC. -/
def clockMoment : Moment := { jd := dateMillis 2024 1 1, hasJd := true, utc := true }

/-- A number given as a time value: a Julian day when it lies in their range. -/
def rawMoment (r : Float64) : Moment :=
  let p : Moment := { second := r, raw := true }
  if realAtLeast r Float64.zero && realBelow r (ratio 10746969 2) then
    { p with jd := roundedMillis (Float64.mul r (Float64.ofInt dayMillis)), hasJd := true }
  else p

/-- Whether two texts are equal with ASCII letters folded. -/
def sameWord (a b : String) : Bool := a.toList.map foldCase == b.toList.map foldCase

/-- A text time value. -/
def readMoment (text : String) : Option Moment :=
  let cs := text.toList
  match readDate cs with
  | some p => some p
  | none =>
    match readClock cs {} with
    | some p => some p
    | none =>
      if sameWord text "now" then some clockMoment
      else
        let sc := scanReal text
        if sc.code > 0 then some (rawMoment sc.value)
        else if sameWord text "subsec" || sameWord text "subsecond" then
          some { clockMoment with subsec := true }
        else none

/-! ## Modifiers -/

/-- The units a moment may be moved by: name, the bound on the amount, and seconds per unit. -/
def units : List (String × Nat × Nat) :=
  [("second", 464269992787968, 1), ("minute", 7737900007424, 60), ("hour", 128969998336, 3600),
   ("day", 5373485, 86400), ("month", 176546, 2592000), ("year", 14713, 31536000)]

/-- The time of day of a signed `HH:MM[:SS[.FFF]]` modifier, in milliseconds, reduced to less
than a day. -/
def clockShift (neg : Bool) (cs : List Char) : Option Int := do
  let cs := match cs with
    | c :: rest => if c.isDigit then c :: rest else rest
    | [] => []
  let t ← readClock cs {}
  let jd := t.withJd.jd - dayMillis / 2
  let jd := jd - Int.tdiv jd dayMillis * dayMillis
  some (if neg then -jd else jd)

/-- Moving a moment by the time of day of a modifier. -/
def shiftClock (neg : Bool) (cs : List Char) (p : Moment) : Option Moment := do
  let d ← clockShift neg cs
  let p := p.withJd.forgetFields
  some { p with jd := p.jd + d }

/-- Moving a moment by `r` of a unit named by a word. -/
def shiftUnits (r : Float64) (word : List Char) (p : Moment) : Option Moment :=
  let word := word.dropWhile isBlank
  let n := word.length
  if n < 3 || n > 10 then none
  else
    let word := if foldCase (word.getLast?.getD ' ') = 's' then word.dropLast else word
    let p := { p.withJd with floorDays := 0 }
    let rounder := if realBelow r Float64.zero then ratio (-1) 2 else ratio 1 2
    let found := units.find? fun (name, limit, _) =>
      name.toList == word.map foldCase &&
        realBelow (Float64.ofInt (-(limit : Int))) r && realBelow r (Float64.ofInt limit)
    match found with
    | none => none
    | some (name, _, perUnit) =>
      let whole := r.toInt64
      let (p, r) :=
        if name = "month" then
          let q := p.withFields
          let q := Moment.withFloor (Moment.normalMonth { q with month := q.month + whole })
          ({ q with hasJd := false }, Float64.sub r (Float64.ofInt whole))
        else if name = "year" then
          let q := p.withFields
          ({ Moment.withFloor { q with year := q.year + whole } with hasJd := false },
            Float64.sub r (Float64.ofInt whole))
        else (p, r)
      let p := p.withJd
      let step := Float64.add (Float64.mul (Float64.mul r (Float64.ofInt 1000))
        (Float64.ofInt perUnit)) rounder
      some (Moment.forgetFields { p with jd := p.jd + step.toInt64 })

/-- Whether a text starts with `HH:MM`. -/
def clockStart (cs : List Char) : Bool :=
  match readDigits 2 0 24 cs with
  | some (_, ':' :: r) => (readDigits 2 0 59 r).isSome
  | _ => false

/-- Moving a moment by a signed `YYYY-MM-DD` modifier, whose year has `width` digits, then by the
time of day that may follow it. -/
def shiftDate (neg : Bool) (width : Nat) (cs : List Char) (p : Moment) : Option Moment := do
  let (y, r) ← readDigits width 0 14712 cs
  let r ← expectChar '-' r
  let (m, r) ← readDigits 2 0 12 r
  let r ← expectChar '-' r
  let (d, r) ← readDigits 2 0 31 r
  if m ≥ 12 || d ≥ 31 then none
  else
    let q := p.withFields
    let q : Moment := if neg then { q with year := q.year - y, month := q.month - m }
      else { q with year := q.year + y, month := q.month + m }
    let q := Moment.withFloor (Moment.normalMonth { q with hasJd := false })
    let q := q.withJd
    let q := { q with hasTime := false, hasDate := false,
                      jd := q.jd + (if neg then -d else d) * dayMillis }
    match r with
    | [] => some q
    | c :: rest => if isBlank c && clockStart rest then shiftClock neg rest q else none

/-- Where the number of a numeric modifier ends: at a colon, a blank, or a dash after four or
five digits that follow the sign. -/
def numberEnd (cs : List Char) : Nat :=
  let rec go (n : Nat) : List Char → Nat
    | [] => n
    | c :: rest =>
      if c = ':' || isBlank c then n
      else if c = '-' && ((n = 5 && (readDigits 4 0 14712 (cs.drop 1)).isSome) ||
          (n = 6 && (readDigits 5 0 14712 (cs.drop 1)).isSome)) then n
      else go (n + 1) rest
  go 1 (cs.drop 1)

/-- A numeric modifier: `±NNN unit`, `±HH:MM[:SS[.FFF]]` or `±YYYY-MM-DD [HH:MM...]`. -/
def numericModifier (cs : List Char) (p : Moment) : Option Moment := do
  let n := numberEnd cs
  let sc := scanReal (String.ofList (cs.take n))
  if sc.code ≤ 0 then none
  else
    let sign := cs.headD ' '
    let rest := cs.drop n
    match rest with
    | '-' :: _ =>
      if sign != '+' && sign != '-' then none
      else shiftDate (sign = '-') (n - 1) (cs.drop 1) p
    | ':' :: _ => shiftClock (sign = '-') cs p
    | _ => shiftUnits sc.value rest p

/-- `weekday N`: forward to the next day that is the `N`th of the week, Sunday being zero. -/
def toWeekday (text : String) (p : Moment) : Option Moment :=
  let sc := scanReal text
  let r := sc.value
  if sc.code > 0 && realAtLeast r Float64.zero && realBelow r (Float64.ofInt 7) &&
      r.equalsInt r.toInt64 then
    let n := r.toInt64
    let q := ({ p.withFields with zone := 0, hasJd := false } : Moment).withJd
    let z := Int.tmod (Int.tdiv (q.jd + 3 * dayMillis / 2) dayMillis) 7
    let z := if z > n then z - 7 else z
    some (Moment.forgetFields { q with jd := q.jd + (n - z) * dayMillis })
  else none

/-- `start of month`, `start of year` or `start of day`. -/
def startOf (unit : String) (p : Moment) : Option Moment :=
  if !p.hasJd && !p.hasDate && !p.hasTime then none
  else
    let q := p.withDate
    let q := { q with hasTime := true, hour := 0, minute := 0, second := Float64.zero,
                      raw := false, zone := 0, hasJd := false }
    if sameWord unit "month" then some { q with day := 1 }
    else if sameWord unit "year" then some { q with month := 1, day := 1 }
    else if sameWord unit "day" then some q
    else none

/-- A number counting seconds since 1970, as a moment, when it lies in the years a moment may
have. -/
def fromSeconds (p : Moment) : Option Moment :=
  let r := Float64.add (Float64.mul p.second (Float64.ofInt 1000)) (Float64.ofInt unixEpochMillis)
  if realAtLeast r Float64.zero && realBelow r (Float64.ofInt (lastMillis + 1)) then
    some { p.forgetFields with jd := roundedMillis r, hasJd := true, raw := false }
  else none

/-- One modifier applied to a moment; `index` is its place among the arguments, the time value
being the zeroth. -/
def applyModifier (text : String) (index : Nat) (p : Moment) : Option Moment :=
  let cs := text.toList
  match (cs.headD ' ') |> foldCase with
  | 'a' =>
    if !sameWord text "auto" then none
    else if index > 1 then none
    else if !p.raw || p.hasJd then some { p with raw := false }
    else if realAtLeast p.second (Float64.ofInt (-210866760000)) &&
        !realBelow (Float64.ofInt 253402300799) p.second then
      let r := Float64.add (Float64.mul p.second (Float64.ofInt 1000))
        (Float64.ofInt unixEpochMillis)
      some { p.forgetFields with jd := roundedMillis r, hasJd := true, raw := false }
    else none
  | 'c' =>
    if sameWord text "ceiling" then some { p.withJd.forgetFields with floorDays := 0 } else none
  | 'f' =>
    if sameWord text "floor" then
      let q := p.withJd
      some (Moment.forgetFields { q with jd := q.jd - q.floorDays * dayMillis })
    else none
  | 'j' =>
    if !sameWord text "julianday" then none
    else if index > 1 then none
    else if p.hasJd && p.raw then some { p with raw := false }
    else none
  | 'l' =>
    if sameWord text "localtime" then
      let q := if p.isLocal then p else p.toLocal
      some { q with utc := false, isLocal := true }
    else none
  | 'u' =>
    if sameWord text "unixepoch" && p.raw then
      if index > 1 then none
      else fromSeconds p
    else if sameWord text "utc" then
      if p.utc then some p
      else some { jd := p.withJd.jd, hasJd := true, utc := true }
    else none
  | 'w' =>
    if sameWord (String.ofList (cs.take 8)) "weekday " then toWeekday (String.ofList (cs.drop 8)) p
    else none
  | 's' =>
    if sameWord (String.ofList (cs.take 9)) "start of " then startOf (String.ofList (cs.drop 9)) p
    else if sameWord text "subsec" || sameWord text "subsecond" then some { p with subsec := true }
    else none
  | c =>
    if c = '+' || c = '-' || c.isDigit then numericModifier cs p else none

/-- The moment of a time value and its modifiers, none when it has none. -/
def momentOf (args : List Value) : Option Moment := do
  let p ← match args with
    | [] => some clockMoment
    | .int i :: _ => some (rawMoment (Float64.ofInt i))
    | .real x :: _ => some (rawMoment x)
    | .null :: _ => none
    | v :: _ => readMoment v.leadingText
  let mods := args.drop 1
  let p ← (mods.zip (List.range' 1 mods.length)).foldlM (fun p (m, i) =>
    match m with
    | .null => none
    | v => applyModifier v.leadingText i p) p
  let p := p.withJd
  if p.failed || !validMillis p.jd then none
  else if args.length = 1 && p.hasDate && p.day > 28 then some { p with hasDate := false }
  else some p

/-! ## Writing a moment -/

/-- A number as `printf` writes it. -/
def printed (spec : String) (v : Value) : String :=
  match formatValue [.text spec, v] with
  | .text t => t
  | _ => ""

/-- Two digits of a number below a hundred. -/
def twoDigits (n : Int) : String := printed "%02d" (.int n)

/-- The date `YYYY-MM-DD`, with a sign before a year before 1 BC. -/
def dateText (p : Moment) : String :=
  let y := p.year.natAbs
  let digits := String.ofList ((Nat.toDigits 10 (10000 + y % 10000)).drop 1)
  (if p.year < 0 then "-" else "") ++ digits ++ "-" ++ twoDigits p.month ++ "-" ++
    twoDigits p.day

/-- The time of day `HH:MM:SS`, with milliseconds for a moment marked `subsec`. -/
def timeText (p : Moment) : String :=
  let secs :=
    if p.subsec then
      let s := roundedMillis (Float64.mul (Float64.ofInt 1000) p.second)
      twoDigits (Int.tmod (Int.tdiv s 1000) 100) ++ "." ++ printed "%03d" (.int (Int.tmod s 1000))
    else twoDigits (Int.tmod p.second.toInt64 100)
  twoDigits p.hour ++ ":" ++ twoDigits p.minute ++ ":" ++ secs

/-- The Julian day as a number of days. -/
def julianDays (p : Moment) : Float64 := ratio p.jd dayMillis.toNat

/-- The seconds since 1970, as a binary64 number with milliseconds. -/
def unixSeconds (p : Moment) : Float64 := ratio (p.jd - unixEpochMillis) 1000

/-- The seconds since 1970, whole. -/
def unixWhole (p : Moment) : Int := Int.tdiv p.jd 1000 - unixEpochMillis / 1000

/-- The date `%F` writes: `YYYY-MM-DD` with the year padded to four places. -/
def fullDate (p : Moment) : String :=
  printed "%04d" (.int p.year) ++ "-" ++ twoDigits p.month ++ "-" ++ twoDigits p.day

/-- One `%` conversion of `strftime`, none for a letter it does not know. -/
def conversion (c : Char) (p : Moment) : Option String :=
  match c with
  | 'd' => some (printed "%02d" (.int p.day))
  | 'e' => some (printed "%2d" (.int p.day))
  | 'f' =>
    let s := if realBelow (ratio 59999 1000) p.second then ratio 59999 1000 else p.second
    some (printed "%06.3f" (.real s))
  | 'F' => some (fullDate p)
  | 'G' => some (printed "%04d" (.int p.weekThursday.year))
  | 'g' => some (printed "%02d" (.int (Int.tmod p.weekThursday.year 100)))
  | 'H' => some (printed "%02d" (.int p.hour))
  | 'k' => some (printed "%2d" (.int p.hour))
  | 'I' | 'l' =>
    let h := if p.hour > 12 then p.hour - 12 else p.hour
    let h := if h = 0 then 12 else h
    some (printed (if c = 'I' then "%02d" else "%2d") (.int h))
  | 'j' => some (printed "%03d" (.int (p.dayOfYear + 1)))
  | 'J' => some (printed "%.16g" (.real (julianDays p)))
  | 'm' => some (printed "%02d" (.int p.month))
  | 'M' => some (printed "%02d" (.int p.minute))
  | 'p' => some (if p.hour ≥ 12 then "PM" else "AM")
  | 'P' => some (if p.hour ≥ 12 then "pm" else "am")
  | 'R' => some (twoDigits p.hour ++ ":" ++ twoDigits p.minute)
  | 's' =>
    some (if p.subsec then printed "%.3f" (.real (unixSeconds p)) else toString (unixWhole p))
  | 'S' => some (printed "%02d" (.int p.second.toInt64))
  | 'T' =>
    some (twoDigits p.hour ++ ":" ++ twoDigits p.minute ++ ":" ++
      printed "%02d" (.int p.second.toInt64))
  | 'u' => let d := p.daysAfterSunday; some (toString (if d = 0 then 7 else d))
  | 'w' => some (toString p.daysAfterSunday)
  | 'U' => some (printed "%02d" (.int (Int.tdiv (p.dayOfYear - p.daysAfterSunday + 7) 7)))
  | 'V' => some (printed "%02d" (.int (Int.tdiv p.weekThursday.dayOfYear 7 + 1)))
  | 'W' => some (printed "%02d" (.int (Int.tdiv (p.dayOfYear - p.daysAfterMonday + 7) 7)))
  | 'Y' => some (printed "%04d" (.int p.year))
  | '%' => some "%"
  | _ => none

/-- The text of a `strftime` format for a moment, none when a conversion is unknown. -/
def strftimeText (p : Moment) : List Char → Option String
  | [] => some ""
  | '%' :: c :: rest => do
    let piece ← conversion c p
    let tail ← strftimeText p rest
    some (piece ++ tail)
  | ['%'] => none
  | c :: rest => (strftimeText p rest).map (c.toString ++ ·)

/-- The signed difference of two moments in years, months, days and time, as `timediff`
writes it. -/
def timeDifference (a b : Moment) : String :=
  let a := a.withFields
  let b := b.withFields
  let later := a.jd ≥ b.jd
  let y := if later then a.year - b.year else b.year - a.year
  let b := if y != 0 then ({ b with year := a.year, hasJd := false } : Moment).withJd else b
  let m := if later then a.month - b.month else b.month - a.month
  let (y, m) := if m < 0 then (y - 1, m + 12) else (y, m)
  let b := if m != 0 then ({ b with month := a.month, hasJd := false } : Moment).withJd else b
  let step (st : Int × Int × Moment) : Int × Int × Moment :=
    let (y, m, b) := st
    let (y, m) := if m - 1 < 0 then (y - 1, 11) else (y, m - 1)
    let b : Moment :=
      if later then
        if b.month - 1 < 1 then { b with month := 12, year := b.year - 1 }
        else { b with month := b.month - 1 }
      else if b.month + 1 > 12 then { b with month := 1, year := b.year + 1 }
      else { b with month := b.month + 1 }
    (y, m, ({ b with hasJd := false } : Moment).withJd)
  let (y, m, b) := (List.range 13).foldl (fun st _ =>
    let (_, _, b') := st
    if (if later then a.jd < b'.jd else a.jd > b'.jd) then step st else st) (y, m, b)
  let diff := (if later then a.jd - b.jd else b.jd - a.jd) + 148699540800000
  let d := ({ jd := diff, hasJd := true } : Moment).withFields
  (if later then "+" else "-") ++ printed "%04d" (.int y) ++ "-" ++ twoDigits m ++ "-" ++
    twoDigits (d.day - 1) ++ " " ++ twoDigits d.hour ++ ":" ++ twoDigits d.minute ++ ":" ++
    printed "%06.3f" (.real d.second)

/-- The date and time function of a name and its arguments, none when the name is not one. -/
def calendarFunction (fn : String) (args : List Value) : Option Value :=
  let onMoment (f : Moment → Value) : Value :=
    match momentOf args with
    | some p => f p
    | none => .null
  match fn with
  | "date" => some (onMoment fun p => .text (dateText p.withDate))
  | "time" => some (onMoment fun p => .text (timeText p.withTime))
  | "datetime" => some (onMoment fun p =>
      let p := p.withFields
      .text (dateText p ++ " " ++ timeText p))
  | "julianday" => some (onMoment fun p => .real (julianDays p))
  | "unixepoch" => some (onMoment fun p =>
      if p.subsec then .real (unixSeconds p) else .int (unixWhole p))
  | "strftime" =>
    match args with
    | [] | .null :: _ => some .null
    | f :: rest =>
      match momentOf rest with
      | some p =>
        match strftimeText p.withFields f.leadingText.toList with
        | some t => some (.text t)
        | none => some .null
      | none => some .null
  | "timediff" =>
    match args with
    | [a, b] =>
      match momentOf [a], momentOf [b] with
      | some p, some q => some (.text (timeDifference p q))
      | _, _ => some .null
    | _ => some .null
  | "current_date" => some (.text (dateText clockMoment.withDate))
  | "current_time" => some (.text (timeText clockMoment.withTime))
  | "current_timestamp" =>
    let p := clockMoment.withFields
    some (.text (dateText p ++ " " ++ timeText p))
  | _ => none

/-- The numbers of arguments a date and time function takes, none when the name is not one. -/
def calendarArity (fn : String) (n : Nat) : Option Bool :=
  match fn with
  | "date" | "time" | "datetime" | "julianday" | "unixepoch" | "strftime" => some true
  | "timediff" => some (n = 2)
  | "current_date" | "current_time" | "current_timestamp" => some (n = 0)
  | _ => none

end MapReduce.Sql
