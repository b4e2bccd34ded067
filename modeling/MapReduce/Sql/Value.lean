import MapReduce.Sql.Numeric

/-! Values of the relational store and the conversions between their kinds.

A value is null, a 64-bit integer, a binary64 number, a text or a byte string. Each column has an
affinity taken from its declared type, and a value stored in it is converted toward that
affinity when the conversion loses nothing: a text that reads as a number becomes that number
in a numeric column, a number becomes its text in a text column. Comparisons convert their
operands toward the affinity of the columns they involve in the same way, and order values as
null, numbers, texts, byte strings. Arithmetic works on integers while both operands are
integers and the result fits in 64 bits, and on binary64 numbers otherwise. -/

namespace MapReduce.Sql

/-- A value held in a table cell or computed by an expression. -/
inductive Value where
  | null
  | int (i : Int)
  | real (x : Float64)
  | text (s : String)
  | blob (bytes : List UInt8)
  deriving DecidableEq, Repr, Inhabited

/-- The affinity of a column or an expression: which kind of value it prefers. -/
inductive Affinity where
  | none | blob | text | numeric | integer | real
  deriving DecidableEq, Repr, Inhabited

namespace Affinity

/-- Whether the affinity prefers numbers. -/
def isNumeric : Affinity → Bool
  | .numeric | .integer | .real => true
  | _ => false

/-- Whether the affinity is one of a column. -/
def isColumn : Affinity → Bool
  | .none => false
  | _ => true

/-- Scans a declared type, keeping the last four characters in lower case: `INT` anywhere makes
it integer, then `CHAR`, `CLOB` or `TEXT` make it text, `BLOB` makes it blob unless a text word
came first, and `REAL`, `FLOA` or `DOUB` make it real unless another word came first. -/
def scanType : List Char → List Char → Affinity → Affinity
  | [], _, aff => aff
  | c :: cs, window, aff =>
    let w := (window ++ [if 'A' ≤ c ∧ c ≤ 'Z' then Char.ofNat (c.toNat + 32) else c]).drop
      (window.length + 1 - 4)
    let s := String.ofList w
    if s.endsWith "int" then .integer
    else if s == "char" || s == "clob" || s == "text" then scanType cs w .text
    else if s == "blob" && (aff == .numeric || aff == .real) then scanType cs w .blob
    else if (s == "real" || s == "floa" || s == "doub") && aff == .numeric then scanType cs w .real
    else scanType cs w aff

/-- The affinity of a declared column type; no type at all gives blob. -/
def ofType (type : String) : Affinity :=
  if type.isEmpty then .blob else scanType type.toList [] .numeric

end Affinity

/-- The bytes of a text. -/
def textBytes (s : String) : List UInt8 := s.toUTF8.toList

/-- The text of a byte string read as UTF-8; bytes that are not UTF-8 stand for the characters
of their codes. -/
def bytesText (bs : List UInt8) : String :=
  match String.fromUTF8? (ByteArray.mk bs.toArray) with
  | some s => s
  | none => String.ofList (bs.map fun b => Char.ofNat b.toNat)

namespace Value

/-- The value as a 64-bit integer: a number truncated and held at the ends, a text read from its
leading integer, null as zero. -/
def toInt64 : Value → Int
  | .null => 0
  | .int i => i
  | .real x => x.toInt64
  | .text s => (scanInt s).2
  | .blob b => (scanInt (bytesText b)).2

/-- The value as a binary64 number: a text read from its leading number, null as zero. -/
def toReal : Value → Float64
  | .null => Float64.zero
  | .int i => Float64.ofInt i
  | .real x => x
  | .text s => (scanReal s).value
  | .blob b => (scanReal (bytesText b)).value

/-- The value as a text; null gives the empty text. -/
def toText : Value → String
  | .null => ""
  | .int i => toString i
  | .real x => renderReal x
  | .text s => s
  | .blob b => bytesText b

/-- The text of a value as far as its first NUL character: what a function that reads its
argument as a zero-terminated string sees. -/
def leadingText (v : Value) : String :=
  String.ofList (v.toText.toList.takeWhile (· != '\x00'))

/-- The value as a byte string. -/
def toBytes : Value → List UInt8
  | .blob b => b
  | v => textBytes v.toText

/-- Whether the value is null. -/
def isNull : Value → Bool
  | .null => true
  | _ => false

/-- Truth of a value: null is unknown, numbers are true when nonzero, texts when the number they
start with is nonzero. -/
def truth : Value → Option Bool
  | .null => none
  | .int i => some (i ≠ 0)
  | .real x => some (!x.isZero)
  | v => some (!v.toReal.isZero)

/-- The value of a truth. -/
def ofTruth : Option Bool → Value
  | none => .null
  | some true => .int 1
  | some false => .int 0

/-- A binary64 number as an integer when it is one strictly inside the 64-bit range. -/
def integerAffinity (x : Float64) : Value :=
  let i := x.toInt64
  if x.equalsInt i && int64Min < i && i < int64Max then .int i else .real x

/-- A text converted to a number when it reads as one in full: an integer when it is written as
one and fits, otherwise a binary64 number, made an integer when `tryInt` and it is one. Other
texts stay as they are. -/
def numericOfText (s : String) (tryInt : Bool) : Value :=
  let sc := scanReal s
  if sc.code ≤ 0 then .text s
  else
    let asInt : Option Int :=
      if sc.code = 1 then
        let i := sc.value.toInt64
        if realSameAsInt sc.value i then some i
        else
          let (rc, v) := scanInt s
          if rc = 0 then some v else none
      else none
    match asInt with
    | some i => .int i
    | none => if tryInt then integerAffinity sc.value else .real sc.value

/-- The value converted toward a column affinity, as it is stored. -/
def applyAffinity (aff : Affinity) (v : Value) : Value :=
  match aff, v with
  | .real, .int i => .real (Float64.ofInt i)
  | .real, .text s =>
    match numericOfText s true with
    | .int i => .real (Float64.ofInt i)
    | w => w
  | .real, w => w
  | .numeric, .real x | .integer, .real x => integerAffinity x
  | .numeric, .text s | .integer, .text s => numericOfText s true
  | .text, .int i => .text (toString i)
  | .text, .real x => .text (renderReal x)
  | _, w => w

/-- The value converted toward a comparison affinity: texts read as numbers for a numeric
affinity, numbers written as texts for a text affinity. -/
def compareForm (aff : Affinity) (v : Value) : Value :=
  if aff.isNumeric then
    match v with
    | .text s => numericOfText s false
    | w => w
  else if aff == .text then
    match v with
    | .int i => .text (toString i)
    | .real x => .text (renderReal x)
    | w => w
  else v

/-- The sort class of a value: null, numbers, texts, byte strings. -/
def rank : Value → Nat
  | .null => 0
  | .int _ => 1
  | .real _ => 1
  | .text _ => 2
  | .blob _ => 3

/-- The order of byte strings: bytewise, a prefix first. -/
def compareBytes : List UInt8 → List UInt8 → Ordering
  | [], [] => .eq
  | [], _ :: _ => .lt
  | _ :: _, [] => .gt
  | a :: as, b :: bs => match Ord.compare a b with
    | .eq => compareBytes as bs
    | o => o

/-- The order of two values: null first, then numbers by value, texts by their characters' codes,
byte strings bytewise. -/
def compare (a b : Value) : Ordering :=
  match a, b with
  | .int i, .int j => Ord.compare i j
  | .int i, .real y => Float64.compareInt i y
  | .real x, .int j => (Float64.compareInt j x).swap
  | .real x, .real y => Float64.compare x y
  | .text s, .text t => Ord.compare s t
  | .blob s, .blob t => compareBytes s t
  | _, _ => Ord.compare a.rank b.rank

/-- The number an operand of arithmetic stands for: a text is an integer when it reads as one,
in full or followed by other text, and a binary64 number when it reads as one otherwise. -/
def arithForm : Value → Value
  | .text s => numberOfText s
  | .blob b => numberOfText (bytesText b)
  | v => v
where
  /-- The number a text stands for in arithmetic. -/
  numberOfText (s : String) : Value :=
    let sc := scanReal s
    let (irc, iv) := scanInt s
    if sc.code ≤ 0 then
      if sc.code = 0 ∧ irc ≤ 1 then .int iv else .real sc.value
    else if sc.code = 1 ∧ irc = 0 then .int iv
    else .real sc.value

end Value

/-- An arithmetic operator. -/
inductive ArithOp where
  | add | sub | mul | div | rem
  deriving DecidableEq, Repr, Inhabited

namespace ArithOp

/-- The integer result, or none when it leaves the 64-bit range and binary64 arithmetic takes
over. A zero divisor is handled before. -/
def onInts : ArithOp → Int → Int → Option Int
  | .add, a, b => inRange (a + b)
  | .sub, a, b => inRange (a - b)
  | .mul, a, b => inRange (a * b)
  | .div, a, b => if b = -1 ∧ a = int64Min then none else some (a.tdiv b)
  | .rem, a, b => some (a.tmod (if b = -1 then 1 else b))
where
  /-- The result when it lies in the 64-bit range. -/
  inRange (r : Int) : Option Int := if int64Min ≤ r ∧ r ≤ int64Max then some r else none

/-- The binary64 result from the operands themselves. -/
def onReals (op : ArithOp) (a b : Value) : Value :=
  let r : Option Float64 := match op with
    | .add => some (a.toReal.add b.toReal)
    | .sub => some (a.toReal.sub b.toReal)
    | .mul => some (a.toReal.mul b.toReal)
    | .div => if b.toReal.isZero then none else some (a.toReal.div b.toReal)
    | .rem =>
      let d := b.toInt64
      if d = 0 then none
      else some (Float64.ofInt (a.toInt64.tmod (if d = -1 then 1 else d)))
  match r with
  | some x => if x.isNaN then .null else .real x
  | none => .null

/-- The result of an arithmetic operator: null when an operand is null or a divisor is zero. -/
def apply (op : ArithOp) (a b : Value) : Value :=
  if a.isNull || b.isNull then .null
  else
    match a.arithForm, b.arithForm with
    | .int x, .int y =>
      if (op == .div || op == .rem) && y = 0 then .null
      else
        match op.onInts x y with
        | some r => .int r
        | none => op.onReals a b
    | _, _ => op.onReals a b

end ArithOp

/-- ASCII letters folded to lower case. -/
def foldCase (c : Char) : Char :=
  if 'A' ≤ c ∧ c ≤ 'Z' then Char.ofNat (c.toNat + 32) else c

/-- How two texts are compared: byte by byte (`BINARY`), with ASCII letters folded to lower case
(`NOCASE`), or with trailing spaces ignored (`RTRIM`). -/
inductive Collation where
  | binary
  | nocase
  | rtrim
  deriving DecidableEq, Repr, Inhabited

namespace Collation

/-- The collation of a name, in any case. -/
def ofName? (n : String) : Option Collation :=
  match n.toUpper with
  | "BINARY" => some .binary
  | "NOCASE" => some .nocase
  | "RTRIM" => some .rtrim
  | _ => none

/-- The text a collation compares bytewise in place of a text: comparing two texts under the
collation is comparing their keys. -/
def key : Collation → String → String
  | .binary, s => s
  | .nocase, s => s.map foldCase
  | .rtrim, s => String.ofList (s.toList.reverse.dropWhile (· = ' ')).reverse

end Collation

/-- A value as a collation sees it: a text replaced by its key, other values as they are. -/
def Value.collated (c : Collation) : Value → Value
  | .text s => .text (c.key s)
  | v => v

/-- How a comparison reads its operands: the affinity they are converted toward, then the
collation their texts are compared by. -/
structure Comparison where
  aff : Affinity
  coll : Collation := .binary
  deriving Repr, Inhabited

end MapReduce.Sql
