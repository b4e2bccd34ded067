import MapReduce.Json.Write
import MapReduce.Text.Timestamp
import MapReduce.Text.Debug

/-! Reading typed values out of JSON. A record is read from an object, by the names of its
fields, or from an array, by their positions; a field of an optional kind may be left out of an
object, and a field with a default may be left out of both. Unknown members are ignored. A value of
the wrong kind fails with a message naming the kind found and the kind expected. -/

namespace MapReduce

namespace Json

/-- How a value is named in a message about its kind. -/
def describe : Json → String
  | .null => "null"
  | .bool b => "boolean " ++ "\x60" ++ toString b ++ "\x60"
  | .num (.int i) => "integer " ++ "\x60" ++ toString i ++ "\x60"
  | .num (.float f) => "floating point " ++ "\x60" ++ FloatStyle.positional.render f ++ "\x60"
  | .str s => "string " ++ Text.debugQuote s
  | .arr _ => "sequence"
  | .obj _ => "map"

/-- The text of the members of an object in the given order; a record's fields are written in
their declared order. -/
def writeFields (fields : List (String × Json)) : String := writeTo "" (.obj fields)

end Json

namespace Decode

/-- The failure for a value of the wrong kind. -/
def invalid {α : Type} (v : Json) (expected : String) : Except String α :=
  .error ("invalid type: " ++ v.describe ++ ", expected " ++ expected)

/-- A backquoted name. -/
def quoted (name : String) : String := "\x60" ++ name ++ "\x60"

/-- A text. -/
def string : Json → Except String String
  | .str s => .ok s
  | v => invalid v "a string"

/-- A boolean. -/
def bool : Json → Except String Bool
  | .bool b => .ok b
  | v => invalid v "a boolean"

/-- An unsigned 64-bit integer: a negative integer is a value out of range, any other number or
value is of the wrong kind. -/
def nat64 : Json → Except String Nat
  | .num (.int i) =>
    if 0 ≤ i then .ok i.toNat
    else .error ("invalid value: " ++ Json.describe (.num (.int i)) ++ ", expected u64")
  | v => invalid v "u64"

/-- An optional value: null is none. -/
def option {α : Type} (item : Json → Except String α) : Json → Except String (Option α)
  | .null => .ok none
  | v => (item v).map some

/-- A timestamp, in its normal form. -/
def timestamp : Json → Except String String
  | .str s =>
    match Text.normalTimestamp s with
    | .ok t => .ok t
    | .error e => .error e.message
  | v => invalid v "an RFC 3339 formatted date and time string"

/-- A list of values, each read by `item`. -/
def list {α : Type} (item : Json → Except String α) : Json → Except String (List α)
  | .arr xs => xs.mapM item
  | v => invalid v "a sequence"

/-- The list `one of a, b, c` of names, `a or b` for two and `a` for one, each backquoted. -/
def oneOf (names : List String) : String :=
  match names with
  | [a] => quoted a
  | [a, b] => quoted a ++ " or " ++ quoted b
  | _ => "one of " ++ ", ".intercalate (names.map quoted)

/-- The failure for a variant name that is none of the given names. -/
def unknownVariant {α : Type} (name : String) (names : List String) : Except String α :=
  .error ("unknown variant " ++ quoted name ++ ", expected " ++ oneOf names)

/-- A variant without data of an enumeration, given the variants by name: its name, or an object
whose one member is the name with null. -/
def unitVariant {α : Type} (variants : List (String × α)) : Json → Except String α
  | .str s => named s
  | .obj [(k, v)] => do
    let a ← named k
    match v with
    | .null => .ok a
    | v => invalid v "unit"
  | .obj _ => .error "invalid value: map, expected map with a single key"
  | v => invalid v "string or map"
where
  /-- The variant of a name. -/
  named (s : String) : Except String α :=
    match variants.lookup s with
    | some a => .ok a
    | none => unknownVariant s (variants.map (·.1))

/-- How a record is written: an object names its fields, an array gives them in their declared
order. -/
inductive Form where
  | named (kvs : List (String × Json))
  | positional (xs : List Json)

/-- A record being read: its form, its name in messages (such as `struct Job`) and its number of
fields. -/
structure Record where
  form : Form
  what : String
  size : Nat

/-- A failure while reading a record, with where it was found. The fields of an array are checked
in order, so the first failing position is reported. The members of an object are checked in the
order of their names, so the first member of the wrong kind is reported, and only when there is
none the first missing field in declared order. -/
structure Failure where
  /-- Whether the failure is a missing field of an object. -/
  missing : Bool
  /-- The name of the member, for a member of an object of the wrong kind. -/
  name : String
  /-- The position of the field. -/
  pos : Nat
  message : String

namespace Failure

/-- Whether a failure is reported before another. -/
def before (a b : Failure) : Bool :=
  if a.missing != b.missing then !a.missing
  else if a.name != b.name then a.name < b.name
  else a.pos < b.pos

/-- The failure reported of two. -/
def first (a b : Failure) : Failure := if b.before a then b else a

end Failure

namespace Record

/-- The value of a field, given by its name and its position, if the record has it. -/
def get? (r : Record) (name : String) (pos : Nat) : Option Json :=
  match r.form with
  | .named kvs => Json.lookup kvs name
  | .positional xs => xs[pos]?

/-- The failure for a field the record lacks: a missing member of an object, or an array that
stops before the field. -/
def missing (r : Record) (name : String) (pos : Nat) : Failure :=
  match r.form with
  | .named _ => ⟨true, "", pos, "missing field " ++ quoted name⟩
  | .positional _ =>
    ⟨false, "", pos, "invalid length " ++ toString pos ++ ", expected " ++ r.what ++ " with " ++
      toString r.size ++ (if r.size = 1 then " element" else " elements")⟩

/-- The failure for a field whose value does not read. -/
def wrong (r : Record) (name : String) (pos : Nat) (message : String) : Failure :=
  match r.form with
  | .named _ => ⟨false, name, pos, message⟩
  | .positional _ => ⟨false, "", pos, message⟩

/-- The check after the fields: an array has no more elements than the record has fields. -/
def finish {α : Type} (r : Record) (value : α) : Except String α :=
  match r.form with
  | .positional xs =>
    if xs.length > r.size then
      .error ("invalid length " ++ toString xs.length ++ ", expected fewer elements in array")
    else .ok value
  | .named _ => .ok value

end Record

/-- A reading of some fields of a record. Readings combine side by side, each reading its own
fields, and the failure reported is the first in the order described at `Failure`. -/
structure Fields (α : Type) where
  run : Record → Except Failure α

namespace Fields

/-- Reads nothing, giving a value. -/
def pure {α : Type} (a : α) : Fields α := ⟨fun _ => .ok a⟩

/-- Applies a function to what is read. -/
def map {α β : Type} (f : α → β) (x : Fields α) : Fields β := ⟨fun r => (x.run r).map f⟩

/-- Reads a function and an argument side by side; of two failures, the one reported first. -/
def seq {α β : Type} (f : Fields (α → β)) (x : Unit → Fields α) : Fields β :=
  ⟨fun r =>
    match f.run r, (x ()).run r with
    | .ok g, .ok a => .ok (g a)
    | .error e, .ok _ => .error e
    | .ok _, .error e => .error e
    | .error e₁, .error e₂ => .error (e₁.first e₂)⟩

instance : Applicative Fields where
  pure := pure
  map := map
  seq := seq

/-- A field that must be there. -/
def required {α : Type} (name : String) (pos : Nat) (item : Json → Except String α) : Fields α :=
  ⟨fun r =>
    match r.get? name pos with
    | some v => (item v).mapError (r.wrong name pos)
    | none => .error (r.missing name pos)⟩

/-- A field of an optional kind, where null is none: an object may leave it out, an array may
not. -/
def optional {α : Type} (name : String) (pos : Nat) (item : Json → Except String α) :
    Fields (Option α) :=
  ⟨fun r =>
    match r.get? name pos, r.form with
    | some v, _ => (option item v).mapError (r.wrong name pos)
    | none, .named _ => .ok none
    | none, .positional _ => .error (r.missing name pos)⟩

/-- A field with a default, which either form may leave out. -/
def withDefault {α : Type} (name : String) (pos : Nat) (dflt : α) (item : Json → Except String α) :
    Fields α :=
  ⟨fun r =>
    match r.get? name pos with
    | some v => (item v).mapError (r.wrong name pos)
    | none => .ok dflt⟩

end Fields

/-- Reads a record of `size` fields named `what` in messages, from an object or an array. -/
def struct {α : Type} (what : String) (size : Nat) (fields : Fields α) : Json → Except String α
  | .obj kvs => run ⟨.named kvs, what, size⟩
  | .arr xs => run ⟨.positional xs, what, size⟩
  | v => invalid v what
where
  /-- Reads the fields of the record. -/
  run (r : Record) : Except String α :=
    match fields.run r with
    | .ok a => r.finish a
    | .error e => .error e.message

end Decode

end MapReduce
