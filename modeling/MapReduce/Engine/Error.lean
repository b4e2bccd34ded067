import MapReduce.Domain.Error
import MapReduce.Files.Basic

/-! The failures of the engine. Each has a classification, the short name under which it is
recorded on a failed invocation; the failures a caller causes (a reserved character, arguments
that do not match a handler, a broken rule) are told apart from the others by it. -/

namespace MapReduce

/-- A failure of the engine. -/
inductive EngineError where
  /-- A failure of the entity layer. -/
  | domain (e : DomainError)
  /-- A failure of the store. -/
  | kv (e : KvError)
  /-- The arguments of a call do not match what the handler declares. -/
  | argumentMarshal (handler message : String)
  /-- A handler failed, with what it printed. -/
  | handlerExecution (handler message stdout stderr : String)
  /-- A message names something it cannot name. -/
  | wireFormat (message : String)
  /-- A message body is no envelope at all. -/
  | unreadable (detail : String)
  /-- The broker refused a message. -/
  | transport (message : String)
  /-- A request failed in one of its invocations, with the classification and text recorded
  there. -/
  | requestFailed (request invocation classification message : String)
  /-- A value could not be written or read as JSON. -/
  | serialization (detail : String)
  /-- A rule of the engine was broken. -/
  | validation (message : String)
  /-- The file system failed. -/
  | io (e : IoError)
  deriving DecidableEq, Repr

namespace EngineError

/-- The text of the failure. -/
def message : EngineError → String
  | .domain e => "Error de dominio: " ++ e.message
  | .kv e => "Error de KV: " ++ e.message
  | .argumentMarshal h m => "Argumentos inválidos para [" ++ h ++ "]: " ++ m
  | .handlerExecution h m _ _ => "Error ejecutando handler [" ++ h ++ "]: " ++ m
  | .wireFormat m => "Formato de mensaje inválido: " ++ m
  | .unreadable m => "Formato de mensaje inválido: " ++ m
  | .transport m => "Error de transporte: " ++ m
  | .requestFailed r i c m =>
    "Petición [" ++ r ++ "] fallida en invocación [" ++ i ++ "] (" ++ c ++ "): " ++ m
  | .serialization m => "Error de serializacion: " ++ m
  | .validation m => "Error de validacion: " ++ m
  | .io e => "Error de E/S: " ++ e.message

/-- The classification: the kind of the store or entity failure underneath, or the engine's own
kind; a failed request keeps the classification recorded for it. -/
def classification : EngineError → String
  | .domain e => e.kind
  | .kv e => e.kind
  | .argumentMarshal _ _ => "argument_marshal"
  | .handlerExecution _ _ _ _ => "handler_execution"
  | .wireFormat _ => "wire_format"
  | .unreadable _ => "wire_format"
  | .transport _ => "transport"
  | .requestFailed _ _ c _ => c
  | .serialization _ => "serialization"
  | .validation _ => "validation"
  | .io _ => "io"

/-- Whether the caller caused the failure. -/
def isCallerError (e : EngineError) : Bool :=
  e.classification == "reserved_character" || e.classification == "argument_marshal" ||
    e.classification == "validation"

/-- A handler failure that printed nothing. -/
def handlerFailure (handler message : String) : EngineError :=
  .handlerExecution handler message "" ""

/-- The text recorded on an invocation that failed: the classification, then the text, then what
a failed handler printed on each non-empty stream. -/
def record (e : EngineError) : String :=
  let head := e.classification ++ ": " ++ e.message
  match e with
  | .handlerExecution _ _ out err =>
    let withOut := if out.isEmpty then head else head ++ "\nstdout: " ++ out
    if err.isEmpty then withOut else withOut ++ "\nstderr: " ++ err
  | _ => head

end EngineError

/-- Why a program of the engine stopped: a failure, or a handler that aborted the worker running
it, so that nothing more of that work happens or is recorded. -/
inductive Fault where
  | error (e : EngineError)
  | abort
  deriving DecidableEq, Repr

end MapReduce
