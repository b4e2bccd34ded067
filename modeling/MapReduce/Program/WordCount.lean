import MapReduce.Program.Dotenv
import MapReduce.Engine.Lifecycle
import MapReduce.Engine.Admin
import MapReduce.Engine.Dispatcher

/-! The word-count program. It reads its configuration from the environment, after loading an
environment file, opens its store, installs the `wordcount` workflow unless it is there already,
and submits the words of its arguments as one blocking request while a dispatcher processes the
messages. It prints the request's id and one line per word, words lowercased and ordered by their
JSON text, each right-aligned to sixteen characters and followed by its count.

The store is in memory unless `MR_DB_URL` or `DATABASE_URL` is set; the first names the database
then. A Postgres database cannot be opened, and any other is a relational database: one in memory
lives for one run, one in a file lives on between runs. -/

namespace MapReduce

/-- What a run of a program printed, and its exit status. -/
structure ProgramRun where
  status : Nat
  stdout : String
  stderr : String
  deriving DecidableEq, Repr

/-- Databases kept in files, by file name. -/
abbrev Disk := List (String × Sql.Database)

namespace EngineError

/-- The texts of the failures underneath a failure, outermost first. -/
def causes : EngineError → List String
  | .domain e => [e.message]
  | .kv e => [e.message]
  | .serialization m => [m]
  | .io e => [e.message]
  | _ => []

end EngineError

namespace ProgramRun

/-- A failed run's report: the failure, then the failures underneath it, numbered when there
are several, each line of a cause after its first indented under it. -/
def report (top : String) (causes : List String) : String :=
  let indent (pad c : String) : String := ("\n" ++ pad).intercalate (c.splitOn "\n")
  let below := match causes with
    | [] => ""
    | [c] => "\nCaused by:\n    " ++ indent "    " c ++ "\n"
    | cs => "\nCaused by:\n" ++ String.join ((List.range cs.length).zip cs |>.map fun (i, c) =>
      let n := toString i
      String.ofList (List.replicate (5 - n.length) ' ') ++ n ++ ": " ++ indent "       " c ++ "\n")
  "Error: " ++ top ++ "\n" ++ below

/-- A run that failed with exit status 1. -/
def failed (top : String) (causes : List String) : ProgramRun :=
  ⟨1, "", report top causes⟩

/-- A run that failed with an engine failure under a context, or alone. -/
def failedWith (context : Option String) (e : EngineError) : ProgramRun :=
  match context with
  | some c => failed c (e.message :: e.causes)
  | none => failed e.message e.causes

/-- A run stopped by a panic of its main thread. -/
def panicked (message : String) : ProgramRun :=
  ⟨101, "", "thread 'main' panicked at library/core/src/time.rs:\n" ++ message ++
    "\nnote: run with `RUST_BACKTRACE=1` environment variable to display a backtrace\n"⟩

end ProgramRun

namespace WordCount

/-- The workflow of the program. -/
def workflow : String := "wordcount"

/-- The text counted when no argument is given. -/
def defaultText : String := "the quick brown fox jumps over the lazy dog"

/-- Splits the text values into lowercase words, each with the count 1, for the step `count`. -/
def splitWords : NativeHandler :=
  ⟨[⟨"arguments", "pairs"⟩], { answer := .mapTo "count" (.lowerWords (.argument "arguments")) }⟩

/-- Returns its pairs. -/
def emitWord : NativeHandler :=
  ⟨[⟨"arguments", "pairs"⟩], { answer := .returning (.argument "arguments") }⟩

/-- Sums the counts of each word. -/
def sumCounts : NativeHandler :=
  ⟨[⟨"results", "groups"⟩], { answer := .pairs (.aggregate .sum (.argument "results")) }⟩

/-- Registers the handlers with the engine's runner. -/
def registerHandlers : EngineM Unit := do
  Engine.register workflow "split_words" splitWords
  Engine.register workflow "emit_word" emitWord
  Engine.register workflow "sum_counts" sumCounts

/-- Installs the workflow, its handlers, its two steps and its job; a workflow that exists already
is left as it is. -/
def install (e : Engine) : EngineM Unit := do
  match ← EngineM.result (Engine.createWorkflow workflow "conteo de palabras") with
  | .error (.domain d) => if d.isAlreadyExists then return () else EngineM.fail (.domain d)
  | .error err => EngineM.fail err
  | .ok _ =>
    for (name, kind, arg) in [("split_words", HandlerKind.mapper, "arguments"),
        ("emit_word", HandlerKind.mapper, "arguments"), ("sum_counts", HandlerKind.reducer, "results")] do
      let _ ← e.saveHandler (Handler.new workflow name kind [⟨arg, "pairs"⟩] name "native")
    let _ ← Engine.createStep ⟨workflow, "split", "trocea el texto en palabras", "split_words", none,
      some "sum_counts"⟩
    let _ ← Engine.createStep ⟨workflow, "count", "emite una palabra", "emit_word", none,
      some "sum_counts"⟩
    let _ ← Engine.createJob ⟨workflow, "count_words", "cuenta las palabras de un texto", "split"⟩

/-- The most messages the dispatcher processes. -/
def dispatchLimit : Nat := 1000000

/-- The longest wait, in nanoseconds, that has run out before the waiting caller first looks at
the request. -/
def lookNanos : Nat := 50

/-- The longest wait, in nanoseconds, that runs out while the dispatcher, which runs beside the
waiting caller, is still processing the request: a word count takes more than a tenth of a
millisecond. -/
def processingNanos : Nat := 100000

/-- How a wait of the configuration ends before the request is done: at once, or while watching
the request; none when the wait outlasts the processing. -/
def waitFailure (e : Engine) (request : String) : Option EngineError :=
  match e.config.waitTimeout with
  | some ns =>
    if ns < lookNanos then
      some (.kv (.waitFault ("tiempo de espera agotado para la petición " ++ request)))
    else if ns < processingNanos then
      some (.domain (.kv (.waitFault ("timeout esperando cambios en " ++
        (EntityStore.entityKey Request [workflow, request]).display))))
    else none
  | none => none

/-- Submits the text as a blocking request while the dispatcher processes every message, then
waits for the result. -/
def submit (e : Engine) (text : String) : EngineM SubmitOutcome := do
  let p ← e.packageRequest workflow "count_words" [(.str "argv", .str text)]
    (Json.mkObj [("source", .str "cli")]) true
  e.pushRequest p
  let _ ← (e.dispatch dispatchLimit [] : StateM World DispatchStats)
  if let some err := waitFailure e p.request.data.id then EngineM.fail err
  e.awaitResult p

/-- A word right-aligned to sixteen characters. -/
def alignRight (w : String) : String :=
  String.ofList (List.replicate (16 - w.length) ' ') ++ w

/-- The lines printed for a finished request: its id, then each word and its count, in the order
of the words' JSON texts. -/
def printed (request : String) (pairs : List Pair) : String :=
  let sorted := pairs.mergeSort fun a b => Json.write a.1 ≤ Json.write b.1
  "request " ++ request ++ "\n" ++ String.join (sorted.map fun (k, v) =>
    alignRight (k.getStr?.getD "") ++ " " ++ Json.write v ++ "\n")

/-- The text the arguments stand for: joined by single spaces, or the default text. -/
def textOf (args : List String) : String :=
  if args.isEmpty then defaultText else " ".intercalate args

/-- Where a relational database keeps its data: the name of its file, or none when it lives in
memory for one run. -/
def databaseFile? (url : String) : Option String :=
  let url := if url.startsWith "sqlite://" then "file:" ++ (url.drop 9).toString else url
  if url.isEmpty || url == ":memory:" then none
  else if url.startsWith "file:" then
    let rest := (url.drop 5).toString
    let path := (rest.splitOn "?").headD ""
    let query := ((rest.splitOn "?").drop 1).headD ""
    if path == ":memory:" || (query.splitOn "&").contains "mode=memory" then none else some path
  else some url

/-- The database a run opens: the URL of its variables, if either is set. -/
def databaseUrl? (env : Environment) : Option String :=
  (env.get? "MR_DB_URL").orElse fun _ => env.get? "DATABASE_URL"

/-- The store a run opens on a disk, and the file that keeps it; or the reason it cannot open. -/
def openStore (disk : Disk) (env : Environment) : Except KvError (Store × Option String) :=
  match databaseUrl? env with
  | none => .ok (Store.emptyMemory, none)
  | some url =>
    if (Text.lowercase url).startsWith "postgres" then
      .error (.storage ("jobx-persistence was compiled without 'pg' feature; enable the 'pg' " ++
        "feature to use Postgres"))
    else
      let file := databaseFile? url
      let db := (file.bind fun f => (disk.find? (·.1 == f)).map (·.2)).getD {}
      match RelationalStore.connect db with
      | .ok r => .ok (⟨.relational r, []⟩, file)
      | .error e => .error e

/-- The disk after a run: the file that keeps the store holds the store's database. -/
def saveStore (disk : Disk) (file : Option String) (store : Store) : Disk :=
  match file, store.backend with
  | some f, .relational r => (f, r.db) :: disk.filter (·.1 != f)
  | _, _ => disk

/-- Runs the engine part of the program on a store: registers the handlers, installs the
workflow and submits the text. -/
def runEngine (e : Engine) (text : String) : EngineM SubmitOutcome := do
  registerHandlers
  install e
  submit e text

/-- One run of the program with its arguments, environment and environment file, on a disk; ids
are numbered from `firstId`. Answers what it printed and the disk after it. -/
def run (disk : Disk) (firstId : Nat) (args : List String) (env : Environment)
    (dotenv : Option String) : ProgramRun × Disk :=
  let env := match dotenv with
    | some text => Dotenv.load env text
    | none => env
  match EngineConfig.fromEnv env.get? with
  | .error .abort =>
    (ProgramRun.panicked "cannot convert float seconds to Duration: value is either too big or NaN", disk)
  | .error (.error e) => (ProgramRun.failedWith (some "configuración MR_* inválida") e, disk)
  | .ok config =>
    match openStore disk env with
    | .error e => (ProgramRun.failed "no se pudo abrir el almacén" [e.message], disk)
    | .ok (store, file) =>
      let engine : Engine := { config }
      let world : World := { store, nextId := firstId }
      let (r, w) := ((runEngine engine (textOf args)).run).run world
      let disk := saveStore disk file w.store
      match r with
      | .ok (.completed request pairs _) => (⟨0, printed request pairs, ""⟩, disk)
      | .ok (.accepted request) =>
        (ProgramRun.failed ("la petición " ++ request ++ " no debería ser asíncrona") [], disk)
      | .error (.error e) => (ProgramRun.failedWith none e, disk)
      | .error .abort => (ProgramRun.panicked "a worker panicked", disk)

end WordCount

end MapReduce
