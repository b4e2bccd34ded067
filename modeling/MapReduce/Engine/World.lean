import MapReduce.Domain.Collections
import MapReduce.Engine.Transport
import MapReduce.Engine.Script
import MapReduce.Engine.Files

/-! The engine and the world it works on. An engine is fixed: its settings, how it notifies, how
it renders results, and the time it reads from its clock. The world changes: the store, the broker,
the notifications sent, the results rendered, the file system, the handlers registered with the
engine's own runner, and the source of fresh identifiers.

Programs of the engine may fail or be aborted; either way the world keeps what was done before.
Identifiers of new invocations and requests are 32 lowercase hexadecimal digits, drawn in
sequence, so that each is new and later ones sort after earlier ones. -/

namespace MapReduce

/-- A handler of the engine's own runner: the arguments it requires and its script. -/
structure NativeHandler where
  spec : List ArgumentSpec
  script : Script
  deriving Repr, Inhabited

/-- Where notifications go: kept in order, or only logged. -/
inductive Notifier where
  | recording
  | logging
  deriving DecidableEq, Repr, Inhabited

/-- How the result of a finished request is rendered: answered inline as its pairs, or written as a
file in a directory. -/
inductive ResultWriter where
  | inline
  | file (dir : String)
  deriving DecidableEq, Repr, Inhabited

/-- An engine: its settings, its notifier, its result writer and its clock. -/
structure Engine where
  config : EngineConfig := {}
  notifier : Notifier := .recording
  writer : ResultWriter := .inline
  /-- The time of the engine's clock, which stands still. -/
  now : String := "2024-01-01T00:00:00Z"
  deriving Repr, Inhabited

/-- A result rendered for a request: its body, none when it was written to a file. -/
structure Rendered where
  request : String
  body : Option Json
  deriving Repr, Inhabited

/-- The world an engine works on. -/
structure World where
  store : Store
  broker : Broker := {}
  /-- The notifications sent, as subject and message, in order. -/
  events : List (String × String) := []
  /-- The results rendered, in order. -/
  rendered : List Rendered := []
  files : FileSystem := {}
  /-- The handlers of the engine's own runner, by workflow and name. -/
  handlers : List ((String × String) × NativeHandler) := []
  /-- The number of the next identifier. -/
  nextId : Nat := 1
  deriving Inhabited

/-- Programs of the engine. -/
abbrev EngineM := ExceptT Fault (StateM World)

/-- The hexadecimal digits of a number, padded with zeros to 32. -/
def hex32 (n : Nat) : String :=
  let ds := Nat.toDigits 16 n
  String.ofList (List.replicate (32 - ds.length) '0' ++ ds)

namespace EngineM

/-- Fails with an engine failure. -/
def fail {α : Type} (e : EngineError) : EngineM α := throw (.error e)

/-- Fails, or goes on with a value. -/
def ofExcept {α : Type} (r : Except EngineError α) : EngineM α :=
  match r with
  | .ok a => pure a
  | .error e => fail e

/-- Runs a program of the entity layer on the world's store. -/
def domain {α : Type} (m : DomainM α) : EngineM α := fun w =>
  match m.run w.store with
  | (.ok a, s) => (.ok a, { w with store := s })
  | (.error e, s) => (.error (.error (.domain e)), { w with store := s })

/-- Handles the failures of a program; an abort goes through. -/
def catchFailure {α : Type} (m : EngineM α) (h : EngineError → EngineM α) : EngineM α :=
  tryCatch m fun
    | .error e => h e
    | .abort => throw .abort

/-- Runs a program for its effects only, ignoring its failure; an abort goes through. -/
def attempt (m : EngineM Unit) : EngineM Unit := catchFailure m fun _ => pure ()

/-- The outcome of a program as a value; an abort goes through. -/
def result {α : Type} (m : EngineM α) : EngineM (Except EngineError α) :=
  catchFailure (m.map .ok) fun e => pure (.error e)

/-- A fresh identifier: the first value of the counter, from its current value on, that no
stored path has as a segment, so that it cannot name an entity that already exists. -/
def freshId : EngineM String := fun w =>
  let used := w.store.backend.paths.map pathSegments
  let taken (n : Nat) : Bool := used.any (·.contains (hex32 n))
  let rec next : Nat → Nat → Nat
    | 0, n => n
    | fuel + 1, n => if taken n then next fuel (n + 1) else n
  let n := next (used.length + 1) w.nextId
  (.ok (hex32 n), { w with nextId := n + 1 })

end EngineM

namespace Engine

/-- Sends a notification. -/
def notify (e : Engine) (subject message : String) : EngineM Unit :=
  match e.notifier with
  | .recording => modify fun w => { w with events := w.events ++ [(subject, message)] }
  | .logging => pure ()

/-- The path of a handler file of a workflow. -/
def filePath (e : Engine) (workflow rel : String) : Except EngineError String :=
  handlerFilePath e.config.fileRoot workflow rel

/-- Applies a file-system change. -/
def changeFiles (f : FileSystem → Except IoError FileSystem) : EngineM Unit := fun w =>
  match f w.files with
  | .ok fs => (.ok (), { w with files := fs })
  | .error err => (.error (.error (.io err)), w)

/-- Writes a handler file, creating its directories. -/
def writeFile (e : Engine) (workflow rel content : String) : EngineM Unit := do
  let path ← EngineM.ofExcept (e.filePath workflow rel)
  let loc := Location.ofText path
  changeFiles (·.createDirAll loc.parent)
  changeFiles (·.writeFile loc content)

/-- Reads a handler file. -/
def readFile (e : Engine) (workflow rel : String) : EngineM String := do
  let path ← EngineM.ofExcept (e.filePath workflow rel)
  let w ← get
  match w.files.readFile (Location.ofText path) with
  | .ok c => pure c
  | .error err => EngineM.fail (.io err)

/-- Registers a handler with the engine's own runner, replacing one of the same name. -/
def register (workflow name : String) (h : NativeHandler) : EngineM Unit :=
  modify fun w => { w with handlers := (w.handlers.filter (·.1 != (workflow, name))) ++ [((workflow, name), h)] }

/-- Removes a handler from the runner; answers whether it was there. -/
def unregister (workflow name : String) : EngineM Bool := fun w =>
  let present := w.handlers.any (·.1 == (workflow, name))
  (.ok present, { w with handlers := w.handlers.filter (·.1 != (workflow, name)) })

/-- Whether the runner has a handler. -/
def isRegistered (workflow name : String) : EngineM Bool := fun w =>
  (.ok (w.handlers.any (·.1 == (workflow, name))), w)

/-- The handler of the runner, if any. -/
def nativeHandler? (workflow name : String) : EngineM (Option NativeHandler) := fun w =>
  (.ok ((w.handlers.find? (·.1 == (workflow, name))).map (·.2)), w)

end Engine

end MapReduce
