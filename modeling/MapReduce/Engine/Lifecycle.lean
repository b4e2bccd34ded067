import MapReduce.Engine.Processor

/-! The life of a request. Packaging a request makes its root invocation, a map invocation of the
job's initial step with the arguments as its dataset, and the request itself. Pushing it queues the
root invocation. A caller that waits for the result watches the request until it is done, within
the engine's wait: a failed request answers the failure recorded on its failed invocation, a
finished one its results. -/

namespace MapReduce

/-- A request ready to be pushed: the request, its root invocation and the handler of its initial
step. -/
structure PackagedRequest where
  request : Record Request
  invocation : Invocation
  handler : Handler
  deriving Repr, Inhabited

/-- A finished request and its result pairs. -/
structure CompletedRequest where
  request : Request
  pairs : List Pair
  deriving Repr, Inhabited

/-- What submitting a request answers: the finished request with its pairs and rendered body, or
only that the request was accepted. -/
inductive SubmitOutcome where
  | completed (request : String) (pairs : List Pair) (body : Option Json)
  | accepted (request : String)
  deriving Repr, Inhabited

/-- The text before the first occurrence of a separator and the text after it, when it occurs. -/
def Text.splitOnce (sep text : String) : Option (String × String) :=
  (go text.toList []).map fun (before, after) => (String.ofList before, String.ofList after)
where
  /-- Looks for the separator in the characters left, after those passed over (reversed). -/
  go : List Char → List Char → Option (List Char × List Char)
    | [], _ => none
    | c :: cs, passed =>
      if sep.toList.isPrefixOf (c :: cs) then some (passed.reverse, (c :: cs).drop sep.length)
      else go cs (c :: passed)

namespace Engine

/-- Makes a request of a job: its root invocation, the invocation's arguments and the request. -/
def packageRequest (e : Engine) (workflow job : String) (args : List Pair) (context : Json)
    (blocking : Bool) : EngineM PackagedRequest := do
  let j ← load Job [workflow, job]
  let step ← load Step [workflow, j.data.initialStep]
  let handler ← load Handler [workflow, step.data.mapHandler]
  let root ← e.createInvocation workflow none step.data.name .map
  for p in args do
    EngineM.domain ((Dataset.mk workflow root.id .arguments).add (pairRecord p))
  let id ← EngineM.freshId
  let request ← EngineM.domain (EntityStore.create
    ({ workflow, id, job, invocation := root.id, context, isBlocking := blocking, createdAt := e.now } : Request))
  pure ⟨request, root, handler.data⟩

/-- Queues the root invocation of a packaged request. -/
def pushRequest (e : Engine) (p : PackagedRequest) : EngineM Unit :=
  e.pushInvocation p.request.data.id p.invocation (some p.handler)

/-- The failure of a request that failed in an invocation: the classification and text recorded
there, split at the first colon and space, or an unknown failure when nothing was recorded. -/
def failureOf (r : Request) (failed : String) : EngineM EngineError := do
  let stored ← EngineM.result (EngineM.domain (EntityStore.tryLoad Invocation [r.workflow, failed]))
  let text := match stored with
    | .ok (some rec) => rec.data.error
    | _ => none
  let parts := text.bind (Text.splitOnce ": ")
  match parts with
  | some (c, m) => pure (.requestFailed r.id failed c m)
  | none => pure (.requestFailed r.id failed "unknown" "la invocación no dejó detalle del error")

/-- Waits for a request to be done, watching it for at most `rounds` changes from a version. Each
round waits for the next change of the request; nothing else runs while a caller waits, so a
request that is not done after its first change stays so and the wait runs out. -/
def awaitDone (workflow id : String) : Nat → Option Nat → EngineM Request
  | 0, since => do
    let r ← EngineM.domain (EntityStore.watch Request [workflow, id] since)
    pure r.data
  | rounds + 1, since => do
    let r ← EngineM.domain (EntityStore.watch Request [workflow, id] since)
    if r.data.isDone then pure r.data else awaitDone workflow id rounds r.version

/-- Waits for the result of a packaged request within the engine's wait. -/
def blockForResult (e : Engine) (p : PackagedRequest) : EngineM CompletedRequest := do
  let wf := p.request.data.workflow
  let id := p.request.data.id
  if e.config.waitTimeout = some 0 then
    EngineM.fail (.kv (.waitFault ("tiempo de espera agotado para la petición " ++ id)))
  let r ← awaitDone wf id 1 p.request.version
  if !r.isDone then
    EngineM.fail (.kv (.waitFault ("tiempo de espera agotado para la petición " ++ id)))
  if let some failed := r.failedInvocation then
    EngineM.fail (← failureOf r failed)
  let pairs ← EngineM.domain (Dataset.mk wf r.invocation .postReduce).pairs
  pure ⟨r, pairs⟩

/-- Waits for the result of a pushed request and renders it. -/
def awaitResult (e : Engine) (p : PackagedRequest) : EngineM SubmitOutcome := do
  let done ← e.blockForResult p
  let body ← e.render done.request done.pairs
  pure (.completed done.request.id done.pairs body)

/-- Submits a request: packages and pushes it, and when the caller waits, waits for its result
and renders it. -/
def submit (e : Engine) (workflow job : String) (args : List Pair) (context : Json)
    (blocking : Bool) : EngineM SubmitOutcome := do
  let p ← e.packageRequest workflow job args context blocking
  e.pushRequest p
  if !blocking then return .accepted p.request.data.id
  e.awaitResult p

end Engine

end MapReduce
