import MapReduce.Engine.Config
import MapReduce.Domain.Entity
import MapReduce.Json.Read

/-! Messages between the engine and its workers. A message names an invocation to process; it
travels inside an envelope that also says the direction, written as compact JSON with the fields
in their declared order. Reading an envelope back checks its shape as a record: both fields
present and none repeated, unknown fields ignored, the fields also accepted as an array in their
order; then the format version must be one that is known.

The broker keeps the messages pushed to it in order, with the topic of each, until a worker takes
them; once closed it refuses every push. -/

namespace MapReduce

/-- The format version of the messages written here. -/
def wireFormatVersion : Nat := 1

/-- A message naming an invocation to process. -/
structure WireMessage where
  formatVersion : Nat := wireFormatVersion
  workflow : String
  request : String
  invocation : String
  step : String
  deriving DecidableEq, Repr, Inhabited

namespace WireMessage

/-- The fields in their declared order. -/
def fields (m : WireMessage) : List (String × Json) :=
  [("format_version", .nat m.formatVersion), ("workflow_name", .str m.workflow),
    ("request_id", .str m.request), ("invocation_id", .str m.invocation), ("step_name", .str m.step)]

end WireMessage

/-- The text of an envelope: the direction, then the message. -/
def encodeEnvelope (d : Direction) (m : WireMessage) : String :=
  "\x7b\"job_class\":" ++ Json.quote d.text ++ ",\"message\":" ++ Json.writeFields m.fields ++ "\x7d"

namespace Envelope

/-- The value of a record field, if present once; a repeated field fails. -/
def field (kvs : List (String × Json)) (name : String) : Except String (Option Json) :=
  match kvs.filter (·.1 == name) with
  | [] => .ok none
  | [(_, v)] => .ok (some v)
  | _ => .error ("duplicate field " ++ name)

/-- A field that must be present. -/
def required (kvs : List (String × Json)) (name : String) : Except String Json := do
  match ← field kvs name with
  | some v => .ok v
  | none => .error ("missing field " ++ name)

/-- A format version: an unsigned 32-bit integer. -/
def version : Json → Except String Nat
  | .num (.int i) => if 0 ≤ i ∧ i < 4294967296 then .ok i.toNat else .error "invalid value: u32"
  | _ => .error "invalid type: expected u32"

/-- A direction: its name, or an object whose one member is the name with a null value. -/
def direction : Json → Except String Direction
  | .str s => match Direction.ofText? s with
    | some d => .ok d
    | none => .error "unknown variant"
  | .obj [(s, .null)] => match Direction.ofText? s with
    | some d => .ok d
    | none => .error "unknown variant"
  | _ => .error "invalid type: expected enum Direction"

/-- A text field. -/
def text : Json → Except String String
  | .str s => .ok s
  | _ => .error "invalid type: expected a string"

/-- A message from its record or its array of fields. -/
def message : Json → Except String WireMessage
  | .obj kvs => do
    .ok ⟨← version (← required kvs "format_version"), ← text (← required kvs "workflow_name"),
      ← text (← required kvs "request_id"), ← text (← required kvs "invocation_id"),
      ← text (← required kvs "step_name")⟩
  | .arr [v, w, r, i, s] => do
    .ok ⟨← version v, ← text w, ← text r, ← text i, ← text s⟩
  | .arr _ => .error "invalid length: expected struct WireMessage with 5 elements"
  | _ => .error "invalid type: expected struct WireMessage"

/-- An envelope from its record or its array of fields. -/
def ofJson : Json → Except String (Direction × WireMessage)
  | .obj kvs => do
    let d ← direction (← required kvs "job_class")
    let m ← message (← required kvs "message")
    .ok (d, m)
  | .arr [d, m] => do .ok (← direction d, ← message m)
  | .arr _ => .error "invalid length: expected struct Envelope with 2 elements"
  | _ => .error "invalid type: expected struct Envelope"

end Envelope

/-- Reads a message body: the direction and the message, if the body is an envelope of a known
format version. -/
def classify (raw : String) : Except EngineError (Direction × WireMessage) := do
  let v ← match Json.readMembersAsWritten raw with
    | .ok v => .ok v
    | .error e => .error (.unreadable (e.message raw))
  let (d, m) ← match Envelope.ofJson v with
    | .ok r => .ok r
    | .error e => .error (.unreadable e)
  if m.formatVersion = 0 ∨ m.formatVersion > wireFormatVersion then
    .error (.wireFormat ("versión de formato no soportada: " ++ toString m.formatVersion))
  else .ok (d, m)

/-- A message as delivered: the topic it was pushed to and its body. -/
structure Delivery where
  topic : String
  body : String
  deriving DecidableEq, Repr, Inhabited

/-- The broker: whether it still takes messages, the messages waiting, and every topic pushed to,
in order. -/
structure Broker where
  isOpen : Bool := true
  waiting : List Delivery := []
  topics : List String := []
  deriving DecidableEq, Repr, Inhabited

namespace Broker

/-- Pushes a message to a topic; a closed broker refuses it. -/
def push (b : Broker) (topic : String) (d : Direction) (m : WireMessage) : Except EngineError Broker :=
  if b.isOpen then
    .ok { b with waiting := b.waiting ++ [⟨topic, encodeEnvelope d m⟩], topics := b.topics ++ [topic] }
  else .error (.transport "broker cerrado")

/-- Takes every waiting message, in order. -/
def takeAll (b : Broker) : List Delivery × Broker := (b.waiting, { b with waiting := [] })

/-- Closes the broker, handing out the messages still waiting. -/
def close (b : Broker) : List Delivery × Broker := (b.waiting, { b with isOpen := false, waiting := [] })

end Broker

end MapReduce
