import MapReduce.Engine.Error
import MapReduce.Data.KeyOrder
import MapReduce.Text.Debug

/-! What a handler produces. A map handler's first item is a directive: map the pairs that follow
to the invocations of a next step, or return them as the invocation's result. Combiners and
reducers produce pairs only. Any item may instead be a failure; a directive where a pair is expected
fails too, naming the directive as it is written in a program's debug form. -/

namespace MapReduce

/-- What a map handler asks for its pairs. -/
inductive Directive where
  /-- Each pair becomes the argument of a new invocation of the step. -/
  | mapTo (step : String)
  /-- The pairs are the result of the invocation. -/
  | returning
  deriving DecidableEq, Repr, Inhabited

namespace Directive

/-- The debug form of a directive: `MapTo("step")` or `Return`. -/
def debugText : Directive → String
  | .mapTo s => "MapTo(" ++ Text.debugQuote s ++ ")"
  | .returning => "Return"

end Directive

/-- One item of a handler's output. -/
inductive HandlerItem where
  | directive (d : Directive)
  | pair (p : Pair)
  deriving Repr, Inhabited

/-- The output of a handler: its items in order, and what it printed. -/
structure HandlerOutput where
  handler : String
  items : List (Except EngineError HandlerItem)
  stdout : String := ""
  stderr : String := ""

namespace HandlerOutput

/-- A failure of the handler carrying what it printed. -/
def failure (o : HandlerOutput) (message : String) : EngineError :=
  .handlerExecution o.handler message o.stdout o.stderr

/-- An item read as a pair. -/
def pairOf (o : HandlerOutput) : Except EngineError HandlerItem → Except EngineError Pair
  | .ok (.pair p) => .ok p
  | .ok (.directive d) => .error (o.failure ("directiva inesperada: " ++ d.debugText))
  | .error e => .error e

/-- The items read as pairs. -/
def pairs (o : HandlerOutput) : List (Except EngineError Pair) := o.items.map o.pairOf

/-- The leading directive and the remaining items read as pairs. -/
def intoDirective (o : HandlerOutput) : Except EngineError (Directive × List (Except EngineError Pair)) :=
  match o.items with
  | .ok (.directive d) :: rest => .ok (d, rest.map o.pairOf)
  | .ok (.pair _) :: _ => .error (o.failure "el primer elemento debe ser una directiva MapTo/Return")
  | .error e :: _ => .error e
  | [] => .error (o.failure "el handler no produjo ninguna directiva")

end HandlerOutput

/-- The pairs up to the first failure, which fails the whole. -/
def collectPairs : List (Except EngineError Pair) → Except EngineError (List Pair)
  | [] => .ok []
  | .ok p :: rest => (collectPairs rest).map (p :: ·)
  | .error e :: _ => .error e

/-- Pairs as a call argument: `[[k, v], ...]`. -/
def pairsArgument (ps : List Pair) : Json := .arr (ps.map fun (k, v) => .arr [k, v])

/-- Groups as a call argument: `[[k, [v, ...]], ...]`. -/
def groupsArgument (gs : List Group) : Json := .arr (gs.map fun g => .arr [g.key, .arr g.values])

end MapReduce
