import MapReduce.Json.Traverse
import MapReduce.Engine.Config
import MapReduce.Engine.Output
import MapReduce.Engine.Transport

/-! The console's replies and how it reads commands. A command is a JSON object; a reply is
`\x7b"ok": value\x7d` or an error object with its kind and message. Messages that come from a JSON
reader or writer, or from the file system, are left out of replies, and engine errors also say
whether the caller is to blame. A command the console cannot read is malformed: it gets its own
reply and the script goes on. An abort of the engine ends the whole script. -/

namespace MapReduce

namespace Console

/-- Why a command gets no ordinary reply: it is malformed, or the engine aborted. -/
inductive Stop where
  | malformed (msg : String)
  | abort
  deriving Repr, Inhabited

/-- A computation of the console that can stop. -/
abbrev Answer := Except Stop

/-- An object of the given members. -/
def obj (kvs : List (String × Json)) : Json := Json.mkObj kvs

/-- A successful reply. -/
def okReply (v : Json) : Json := obj [("ok", v)]

/-- A failure reply of a kind, with a message or none. -/
def errorReply (kind : String) (msg : Option String) : Json :=
  obj [("error", .str kind), ("message", Json.optStr msg)]

/-- The reply to a malformed command. -/
def malformedReply (msg : String) : Json := errorReply "bad_input" (some msg)

/-- The reply to an abort. -/
def abortReply : Json := errorReply "panic" none

/-- The reply to a key-value failure; an encoding failure keeps no message. -/
def kvErrorReply (e : KvError) : Json :=
  match e with
  | .encoding _ => errorReply "serialization" none
  | _ => errorReply e.kind (some e.message)

/-- The reply to a domain failure; a serialization failure keeps no message. -/
def domainErrorReply (e : DomainError) : Json :=
  match e with
  | .kv e => kvErrorReply e
  | .serialization _ => errorReply "serialization" none
  | _ => errorReply e.kind (some e.message)

/-- The reply to an engine failure, with whether the caller is to blame. Texts that come from a
JSON reader or writer, or from the file system, are left out. -/
def engineErrorReply (e : EngineError) : Json :=
  let hidden := match e with
    | .unreadable _ | .serialization _ | .io _ => true
    | .domain (.serialization _) | .domain (.kv (.encoding _)) | .kv (.encoding _) => true
    | _ => false
  obj [("error", .str e.classification), ("message", if hidden then .null else .str e.message),
    ("caller_error", .bool e.isCallerError)]

/-- The reply to what a computation of the console came to. -/
def replyOf : Answer Json → Json
  | .ok j => j
  | .error (.malformed m) => malformedReply m
  | .error .abort => abortReply

/-- A member of a command. -/
def field (j : Json) (name : String) : Option Json := j.get? name

/-- A string member of a command. -/
def strField? (j : Json) (name : String) : Option String := (field j name).bind Json.getStr?

/-- A string member, or a default. -/
def strOr (j : Json) (name dflt : String) : String := (strField? j name).getD dflt

/-- A string member the command needs. -/
def reqStr (j : Json) (name : String) : Answer String :=
  match strField? j name with
  | some s => .ok s
  | none => .error (.malformed ("missing string field " ++ name))

/-- A natural number member the command needs. -/
def reqNat (j : Json) (name : String) : Answer Nat :=
  match (field j name).bind Json.getNat? with
  | some n => .ok n
  | none => .error (.malformed ("missing integer field " ++ name))

/-- An array member the command needs. -/
def reqArr (j : Json) (name : String) : Answer (List Json) :=
  match (field j name).bind Json.getArr? with
  | some xs => .ok xs
  | none => .error (.malformed ("missing array field " ++ name))

/-- Strings of an array member; an item that is not a string makes the command malformed. -/
def strList (xs : List Json) : Answer (List String) :=
  xs.mapM fun x => match x with
    | .str s => .ok s
    | _ => .error (.malformed "segments must be strings")

/-- An array of strings the command needs. -/
def reqStrList (j : Json) (name : String) : Answer (List String) := do
  strList (← reqArr j name)

/-- An array of strings, absent or null meaning none. -/
def optStrList (j : Json) (name : String) : Answer (Option (List String)) :=
  match field j name with
  | none => .ok none
  | some .null => .ok none
  | some _ => do .ok (some (← reqStrList j name))

/-- The member named value, null when absent. -/
def valueOf (j : Json) : Json := (field j "value").getD .null

/-- A boolean member, or a default. -/
def boolOr (j : Json) (name : String) (dflt : Bool) : Bool :=
  ((field j name).bind Json.getBool?).getD dflt

/-- A pair of an input list: missing parts are null, extra parts are dropped. -/
def pairOf : Json → Pair
  | .arr [] => (.null, .null)
  | .arr [k] => (k, .null)
  | .arr (k :: v :: _) => (k, v)
  | x => (x, .null)

/-- The pairs of an array member, none when absent. -/
def pairsOf (j : Json) (name : String) : List Pair :=
  match field j name with
  | some (.arr xs) => xs.map pairOf
  | _ => []

/-- A pair as a two-element array. -/
def pairJson (p : Pair) : Json := .arr [p.1, p.2]

/-- An ordering as -1, 0 or 1. -/
def orderJson (o : Ordering) : Json :=
  match o with
  | .lt => .int (-1)
  | .eq => .int 0
  | .gt => .int 1

/-- The time every console engine reads from its clock. -/
def defaultTime : String := "2024-01-01T00:00:00Z"

/-- A routing directive. -/
def directiveJson : Directive → Json
  | .mapTo s => obj [("map_to", .str s)]
  | .returning => .str "return"

/-- An item of a handler's output: a pair or the failure it stands for. -/
def pairItemJson : Except EngineError Pair → Json
  | .ok (k, v) => obj [("pair", .arr [k, v])]
  | .error e => engineErrorReply e

/-- A duration in nanoseconds as a JSON number. A JSON number holds at most an unsigned 64-bit
integer exactly, so a longer duration cannot be shown and stops the command. -/
def nanosJson (ns : Nat) : Answer Json :=
  if ns < Nat.pow 2 64 then .ok (.nat ns) else .error .abort

/-- An engine configuration, under the names of its environment settings. -/
def configJson (c : EngineConfig) : Answer Json := do
  let wait ← match c.waitTimeout with
    | some ns => nanosJson ns
    | none => pure .null
  let quiet ← nanosJson c.quietPeriod
  pure <| obj [("atomic_update_max_attempts", .nat c.maxAttempts), ("max_in_flight", .nat c.maxInFlight),
    ("wait_timeout_ns", wait),
    ("topic_map_template", .str c.mapTemplate), ("topic_reduce_template", .str c.reduceTemplate),
    ("do_cleanup_requests", .bool c.cleanupRequests), ("cleanup_batch_size", .nat c.cleanupBatch),
    ("cleanup_quiet_period_ns", quiet), ("idempotency_fence", .bool c.fence),
    ("file_root", .str c.fileRoot)]

/-- A direction named by a command. -/
def directionOf (s : String) : Answer Direction :=
  match Direction.ofText? s with
  | some d => .ok d
  | none => .error (.malformed "direction must be map or reduce")

/-- Runs commands in order, threading a state; a malformed command's reply is its own failure
reply, and an abort stops them all. -/
def runSteps {σ : Type} (step : σ → Json → Answer (Json × σ)) (s : σ) (steps : List Json) :
    Answer (List Json × σ) :=
  steps.foldlM (fun (acc : List Json × σ) st => do
    let (outs, s) := acc
    match step s st with
    | .ok (o, s') => .ok (outs ++ [o], s')
    | .error (.malformed m) => .ok (outs ++ [malformedReply m], s)
    | .error .abort => .error .abort) ([], s)

end Console

end MapReduce
