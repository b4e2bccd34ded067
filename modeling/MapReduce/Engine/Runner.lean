import MapReduce.Engine.World
import MapReduce.Text.Blank
import MapReduce.Text.Case

/-! The engine's own handler runner. A call names a handler of a workflow and gives it named
arguments; the handler must be registered, and every argument it declares must be present. Its
script then runs in the context of the call: the invocation's session, the workflow's files and
the engine's notifier. -/

namespace MapReduce

/-- The context of a handler call: the workflow, request and invocation it works for. -/
structure HandlerCall where
  workflow : String
  request : String
  invocation : String
  deriving DecidableEq, Repr, Inhabited

/-- Arguments of a handler call, by name. -/
abbrev HandlerArguments := List (String × Json)

namespace HandlerCall

/-- The session of the invocation. -/
def session (c : HandlerCall) : Session := ⟨c.workflow, c.invocation⟩

end HandlerCall

/-- The value of a 64-bit signed integer, if it is one. -/
def int64? : Json → Option Int
  | .num n => n.toInt64?
  | _ => none

/-- The sum of integers wrapped to 64-bit two's complement. -/
def wrappingSum (xs : List Int) : Int := Int.bmod (xs.foldl (· + ·) 0) (Nat.pow 2 64)

namespace Aggregate

/-- The aggregate of a value; a value that is no array counts as a list of one. -/
def apply (f : Aggregate) (v : Json) : Json :=
  let xs := match v with
    | .arr xs => xs
    | v => [v]
  let ints := xs.filterMap int64?
  match f with
  | .sum => .int (wrappingSum ints)
  | .count => .nat xs.length
  | .max => match ints with
    | [] => .null
    | i :: is => .int (is.foldl Max.max i)
  | .min => match ints with
    | [] => .null
    | i :: is => .int (is.foldl Min.min i)
  | .sorted => .arr (xs.mergeSort fun a b => Json.write a ≤ Json.write b)
  | .keep => v

end Aggregate

/-- The pairs of a call argument: each element that is an array of at least two values. -/
def argumentPairs (args : HandlerArguments) (name : String) : List Pair :=
  match Json.lookup args name with
  | some (.arr xs) => xs.filterMap fun
    | .arr (k :: v :: _) => some (k, v)
    | _ => none
  | _ => []

/-- Each text value split into words at blanks, each word with the value `1`. -/
def wordPairs (ps : List Pair) : List Pair :=
  ps.flatMap fun (_, v) => match v with
    | .str s => (Text.words s).map fun w => (.str w, .nat 1)
    | _ => []

/-- Each text value split into words at blanks, each word lowercased and with the value `1`. -/
def lowerWordPairs (ps : List Pair) : List Pair :=
  ps.flatMap fun (_, v) => match v with
    | .str s => (Text.words s).map fun w => (.str (Text.lowercase w), .nat 1)
    | _ => []

/-- Array values spread into one pair per element. -/
def explodePairs (ps : List Pair) : List Pair :=
  ps.flatMap fun (k, v) => match v with
    | .arr xs => xs.map fun x => (k, x)
    | v => [(k, v)]

/-- Text and number values become keys. -/
def keyOfPair : Pair → Pair
  | (k, .str s) => (.str s, k)
  | (k, .num n) => (.num n, k)
  | p => p

mutual

/-- The pairs of a source in a call. -/
def PairSource.pairs (e : Engine) (c : HandlerCall) (args : HandlerArguments) :
    PairSource → EngineM (List Pair)
  | .literal ps => pure ps
  | .argument name => pure (argumentPairs args name)
  | .words src => do pure (wordPairs (← src.pairs e c args))
  | .lowerWords src => do pure (lowerWordPairs (← src.pairs e c args))
  | .explode src => do pure (explodePairs (← src.pairs e c args))
  | .aggregate f src => do pure ((← src.pairs e c args).map fun (k, v) => (k, f.apply v))
  | .sumByKey src => do
    let groups := KeyOrder.mergeByKey (← src.pairs e c args)
    pure (groups.map fun g => (g.key, .int (wrappingSum (g.values.filterMap int64?))))
  | .concat srcs => PairSource.pairsOfAll e c args srcs
  | .session names => names.mapM fun n => do
    let v ← EngineM.domain (c.session.get n)
    pure (.str n, v.getD .null)
  | .swap src => do pure ((← src.pairs e c args).map fun (k, v) => (v, k))
  | .take src n => do pure ((← src.pairs e c args).take n)
  | .keyOf src => do pure ((← src.pairs e c args).map keyOfPair)
  | .readFile paths => paths.mapM fun rel => do
    let content ← e.readFile c.workflow rel
    pure (.str rel, .str content)
  | .nothing => pure []

/-- The pairs of sources one after another. -/
def PairSource.pairsOfAll (e : Engine) (c : HandlerCall) (args : HandlerArguments) :
    List PairSource → EngineM (List Pair)
  | [] => pure []
  | src :: rest => do
    let first ← src.pairs e c args
    let others ← PairSource.pairsOfAll e c args rest
    pure (first ++ others)

end

/-- The output items of scripted items. -/
def ScriptItem.outputs (e : Engine) (c : HandlerCall) (args : HandlerArguments) (handler : String) :
    ScriptItem → EngineM (List (Except EngineError HandlerItem))
  | .directive d => pure [.ok (.directive d)]
  | .pair p => pure [.ok (.pair p)]
  | .failure m => pure [.error (.handlerFailure handler m)]
  | .pairs src => do pure ((← src.pairs e c args).map fun p => .ok (.pair p))

namespace Script

/-- Runs a script as the handler `handler` of a call: session values, the file check, the files,
an abort, the notification, and last the answer. -/
def run (e : Engine) (c : HandlerCall) (args : HandlerArguments) (handler : String) (s : Script) :
    EngineM HandlerOutput := do
  for (name, v) in s.sessionSet do
    EngineM.domain (c.session.set name v)
  if let some rel := s.fileCheck then
    let _ ← EngineM.ofExcept (e.filePath c.workflow rel)
  for (rel, content) in s.writeFiles do
    e.writeFile c.workflow rel content
  if let .abort := s.answer then throw .abort
  if let some subject := s.notify then
    e.notify subject (c.workflow ++ ":" ++ handler)
  let out (items : List (Except EngineError HandlerItem)) : HandlerOutput :=
    ⟨handler, items, s.stdout, s.stderr⟩
  let pairItems (ps : List Pair) : List (Except EngineError HandlerItem) := ps.map fun p => .ok (.pair p)
  match s.answer with
  | .mapTo step src => pure (out (.ok (.directive (.mapTo step)) :: pairItems (← src.pairs e c args)))
  | .returning src => pure (out (.ok (.directive .returning) :: pairItems (← src.pairs e c args)))
  | .pairs src => pure (out (pairItems (← src.pairs e c args)))
  | .items items => do
    let lists ← items.mapM (·.outputs e c args handler)
    pure (out lists.flatten)
  | .fail kind message =>
    EngineM.fail (match kind with
      | .handler => .handlerExecution handler message s.stdout s.stderr
      | .validation => .validation message
      | .transport => .transport message
      | .marshal => .argumentMarshal handler message)
  | .abort => throw .abort

end Script

namespace Engine

/-- The first declared argument missing from a call, as a failure. -/
def checkArguments (handler : String) (spec : List ArgumentSpec) (args : HandlerArguments) :
    Except EngineError Unit :=
  match spec.find? fun a => (Json.lookup args a.name).isNone with
  | some a => .error (.argumentMarshal handler ("falta el argumento [" ++ a.name ++ "] (" ++ a.argType ++ ")"))
  | none => .ok ()

/-- Runs a handler of a workflow on arguments: it must be registered, and every argument it
declares must be given. -/
def runHandler (e : Engine) (workflow handler : String) (args : HandlerArguments) (c : HandlerCall) :
    EngineM HandlerOutput := do
  match ← nativeHandler? workflow handler with
  | none => EngineM.fail (.handlerFailure handler "handler no registrado")
  | some h =>
    EngineM.ofExcept (checkArguments handler h.spec args)
    h.script.run e c args handler

end Engine

end MapReduce
