import MapReduce.Engine.Results
import MapReduce.Engine.Cleanup

/-! Processing one message: the map, fan-out, reduce and fan-in of invocations.

A message is accepted when its workflow, request and invocation exist, its step is the
invocation's, and its direction is the invocation's; a message for a finished request is abandoned,
and with the fence on, each direction of an invocation is processed once, later deliveries being
duplicates.

A map invocation runs its step's map handler on its arguments. The first item of the output is a
directive. To map to a next step, each pair becomes a new invocation of that step with the pair as
its argument, related to the parent as mapped; the parent records how many children it waits for,
and the children are queued. No pairs at all count as a result with no pairs. To return, the pairs
are combined into groups (by the step's combiner, or by key), kept as the invocation's combined
groups, and a reduction of the invocation is queued.

A reduction works on its parent, the target: on the merged results of the target's children when
the target fanned out, on the target's combined groups otherwise. The step's reducer, if any, turns
the groups into result pairs; without one each group is a pair of its key and values. The results
are kept on the target. When the target has a parent, that parent waits for one child less, and is
queued for reduction when it waits for none; when it has none, the request is done.

Any failure of a map or reduction is recorded on the invocation and fails the request, unless the
request is done already. -/

namespace MapReduce

/-- What processing a message did. -/
inductive HandleOutcome where
  | mapped (children : Nat)
  | returned (groups : Nat)
  | reduced (requestDone : Bool)
  | duplicate
  | abandoned
  deriving DecidableEq, Repr, Inhabited

/-- Everything a message names, loaded. -/
structure InvocationContext where
  workflow : Workflow
  request : Record Request
  invocation : Record Invocation
  job : Job
  step : Step
  handler : Option Handler
  deriving Repr, Inhabited

namespace InvocationContext

/-- The workflow's name. -/
def workflowName (c : InvocationContext) : String := c.workflow.name

/-- The request's identifier. -/
def requestId (c : InvocationContext) : String := c.request.data.id

/-- The invocation's identifier. -/
def invocationId (c : InvocationContext) : String := c.invocation.data.id

/-- The handler call of the invocation. -/
def call (c : InvocationContext) : HandlerCall := ⟨c.workflowName, c.requestId, c.invocationId⟩

/-- The message naming the invocation. -/
def deflate (c : InvocationContext) : WireMessage :=
  ⟨wireFormatVersion, c.workflowName, c.requestId, c.invocationId, c.step.name⟩

end InvocationContext

namespace Engine

/-- Loads an entity. -/
def load (α : Type) [Entity α] (identity : List String) : EngineM (Record α) :=
  EngineM.domain (EntityStore.load α identity)

/-- Changes an entity atomically, with the engine's ceiling of attempts. -/
def update {α β : Type} [Entity α] (e : Engine) (identity : List String)
    (mutate : α → Except DomainError (α × β)) : EngineM (Record α × β) :=
  EngineM.domain (EntityStore.atomicUpdate e.config.maxAttempts identity mutate)

/-- A new invocation with a fresh identifier. -/
def newInvocation (e : Engine) (workflow : String) (parent : Option String) (step : String)
    (d : Direction) : EngineM Invocation := do
  let id ← EngineM.freshId
  pure ⟨workflow, id, parent, step, d, .leaf, none, e.now⟩

/-- Creates a new invocation. -/
def createInvocation (e : Engine) (workflow : String) (parent : Option String) (step : String)
    (d : Direction) : EngineM Invocation := do
  let inv ← e.newInvocation workflow parent step d
  let r ← EngineM.domain (EntityStore.create inv)
  pure r.data

/-- Queues an invocation of a request on the topic of its direction, with the capability of its
handler. -/
def pushInvocation (e : Engine) (request : String) (inv : Invocation) (handler : Option Handler) :
    EngineM Unit := do
  let capability := handler.bind Handler.topicSuffix
  let topic := match inv.direction with
    | .map => e.config.mapTopic inv.workflow capability
    | .reduce => e.config.reduceTopic inv.workflow capability
  let m : WireMessage := ⟨wireFormatVersion, inv.workflow, request, inv.id, inv.step⟩
  let w ← get
  match w.broker.push topic inv.direction m with
  | .ok b => set { w with broker := b }
  | .error err => EngineM.fail err

/-- Loads everything a message names, checking that its step is the invocation's. -/
def inflate (m : WireMessage) : EngineM InvocationContext := do
  let wf := m.workflow
  let workflow ← load Workflow [wf]
  let request ← load Request [wf, m.request]
  let invocation ← load Invocation [wf, m.invocation]
  if invocation.data.step ≠ m.step then
    EngineM.fail (.wireFormat ("el mensaje apunta al step [" ++ m.step ++ "] pero la invocación [" ++
      m.invocation ++ "] es de [" ++ invocation.data.step ++ "]"))
  let job ← load Job [wf, request.data.job]
  let step := (← load Step [wf, m.step]).data
  let handler ← match invocation.data.direction with
    | .map => do pure (some (← load Handler [wf, step.mapHandler]).data)
    | .reduce => match step.reduceHandler with
      | some name => do pure (some (← load Handler [wf, name]).data)
      | none => pure none
  pure ⟨workflow.data, request, invocation, job.data, step, handler⟩

/-- Queues the reduction of an invocation: a new reduce invocation of the same step whose parent
is the target, related to it as reduced. Answers the new invocation. -/
def queueReduce (e : Engine) (request : String) (target : Invocation) : EngineM Invocation := do
  let wf := target.workflow
  let step ← load Step [wf, target.step]
  let handler ← match step.data.reduceHandler with
    | some name => do pure (some (← load Handler [wf, name]).data)
    | none => pure none
  let reduction ← e.createInvocation wf (some target.id) target.step .reduce
  EngineM.domain ((Relations.mk wf target.id .reduced).add reduction.id none)
  e.pushInvocation request reduction handler
  pure reduction

/-- Combines result pairs into groups: by the step's combiner, each of whose output pairs is a
group, or by key, where a sort that stops aborts the worker. -/
def combine (e : Engine) (c : InvocationContext) (pairs : List Pair) : EngineM (List Group) := do
  match c.step.combineHandler with
  | none =>
    match KeyOrder.groupByKey pairs with
    | some groups => pure groups
    | none => throw .abort
  | some name =>
    let out ← e.runHandler c.workflowName name [("pairs", pairsArgument pairs)] c.call
    let ps ← EngineM.ofExcept (collectPairs out.pairs)
    pure (ps.map Group.ofOutput)

/-- Keeps the combined groups of a result and queues the invocation's reduction. -/
def collectResult (e : Engine) (c : InvocationContext) (pairs : List (Except EngineError Pair)) :
    EngineM HandleOutcome := do
  let ps ← EngineM.ofExcept (collectPairs pairs)
  let groups ← e.combine c ps
  for g in groups do
    EngineM.domain ((Dataset.mk c.workflowName c.invocationId .postCombine).add g.toJson)
  let _ ← e.queueReduce c.requestId c.invocation.data
  pure (.returned groups.length)

/-- Creates a child invocation of a step for each pair, then records the fan-out and queues the
children; a failing pair stops the creation, and no children at all make an empty result. -/
def mapToDownstream (e : Engine) (c : InvocationContext) (next : String)
    (pairs : List (Except EngineError Pair)) : EngineM HandleOutcome := do
  let wf := c.workflowName
  let parent := c.invocationId
  let step ← load Step [wf, next]
  let handler ← load Handler [wf, step.data.mapHandler]
  let mut children : List Invocation := []
  for item in pairs do
    let (k, v) ← EngineM.ofExcept item
    let child ← e.createInvocation wf (some parent) step.data.name .map
    EngineM.domain ((Dataset.mk wf child.id .arguments).add (pairRecord (k, v)))
    EngineM.domain ((Relations.mk wf parent .mapped).add child.id none)
    children := children ++ [child]
  if children.isEmpty then return ← e.collectResult c []
  let count := children.length
  let _ ← e.update (α := Invocation) [wf, parent] fun inv => (inv.setFanOut count).map (·, ())
  for child in children do
    e.pushInvocation c.requestId child (some handler.data)
  pure (.mapped count)

/-- Runs the map handler of an invocation on its arguments and follows its directive. -/
def handleMap (e : Engine) (c : InvocationContext) : EngineM HandleOutcome := do
  let some handler := c.handler
    | EngineM.fail (.validation ("step [" ++ c.step.name ++ "] sin handler de map"))
  let args ← EngineM.domain (Dataset.mk c.workflowName c.invocationId .arguments).pairs
  let out ← e.runHandler c.workflowName handler.name [("arguments", pairsArgument args)] c.call
  let (directive, pairs) ← EngineM.ofExcept out.intoDirective
  match directive with
  | .mapTo next => e.mapToDownstream c next pairs
  | .returning => e.collectResult c pairs

/-- The results of the children of a fanned-out invocation, merged by key. -/
def mappingGroups (target : Invocation) : EngineM (List Group) := do
  let wf := target.workflow
  let children ← EngineM.domain (Relations.mk wf target.id .mapped).targets
  let mut pairs : List Pair := []
  for child in children do
    pairs := pairs ++ (← EngineM.domain (Dataset.mk wf child .postReduce).pairs)
  pure (KeyOrder.mergeByKey pairs)

/-- Counts one child of an invocation as reduced; answers whether none is left waiting. -/
def decrementParent (e : Engine) (workflow id : String) : EngineM Bool := do
  let (r, ()) ← e.update (α := Invocation) [workflow, id] fun inv =>
    (inv.decrementWaiting).map fun (_, inv) => (inv, ())
  pure (match r.data.fanOut with
    | .fannedOut _ 0 => true
    | _ => false)

/-- Marks a request done. When this made it done: renders the result of a request nobody waits
for, queues the request for cleanup and notifies. -/
def completeRequest (e : Engine) (c : InvocationContext) (results : List Pair) : EngineM Unit := do
  let (r, newlyDone) ← e.update (α := Request) [c.workflowName, c.requestId] fun r =>
    .ok (if r.isDone then (r, false) else (r.markDone e.now, true))
  if !newlyDone then return
  if !r.data.isBlocking then
    let _ ← e.render r.data results
  let _ ← e.scheduleCleanup c.workflowName r.data.id
  e.notify "request done" ("request [" ++ r.data.id ++ "] of job [" ++ r.data.job ++ "] finished")

/-- Reduces the target of a reduce invocation and moves on: to the target's parent, or to the end
of the request. -/
def handleReduce (e : Engine) (c : InvocationContext) : EngineM HandleOutcome := do
  let wf := c.workflowName
  let some targetId := c.invocation.data.parent
    | EngineM.fail (.validation ("reducción [" ++ c.invocationId ++ "] sin invocación padre"))
  let target := (← load Invocation [wf, targetId]).data
  let groups ← if target.isFannedOut then mappingGroups target
    else EngineM.domain (Dataset.mk wf target.id .postCombine).groups
  let results ← match c.handler with
    | some h => do
      let out ← e.runHandler wf h.name [("results", groupsArgument groups)] c.call
      EngineM.ofExcept (collectPairs out.pairs)
    | none => pure (groups.map fun g => (g.key, .arr g.values))
  for p in results do
    EngineM.domain ((Dataset.mk wf target.id .postReduce).add (pairRecord p))
  match target.parent with
  | some parentId =>
    if ← e.decrementParent wf parentId then
      let parent ← load Invocation [wf, parentId]
      let _ ← e.queueReduce c.requestId parent.data
    pure (.reduced false)
  | none =>
    e.completeRequest c results
    pure (.reduced true)

/-- Records a failure on the invocation and fails its request unless the request is done; when it
fails the request, it notifies and queues the request for cleanup. Its own failures are ignored. -/
def recordFailure (e : Engine) (c : InvocationContext) (failure : EngineError) : EngineM Unit := do
  let wf := c.workflowName
  let text := failure.record
  EngineM.attempt do
    let _ ← e.update (α := Invocation) [wf, c.invocationId] fun inv => .ok ({ inv with error := some text }, ())
  match ← EngineM.result (e.update (α := Request) [wf, c.requestId] fun r =>
      .ok (if r.isDone then (r, false) else (r.markFailed c.invocationId e.now, true))) with
  | .ok (r, true) =>
    e.notify "request failed" ("request [" ++ r.data.id ++ "] failed in invocation [" ++
      c.invocationId ++ "]: " ++ failure.message)
    EngineM.attempt do
      let _ ← e.scheduleCleanup wf r.data.id
  | _ => pure ()

/-- Processes a message of a direction. -/
def handle (e : Engine) (d : Direction) (m : WireMessage) : EngineM HandleOutcome := do
  let c ← inflate m
  if c.invocation.data.direction ≠ d then
    EngineM.fail (.wireFormat ("mensaje de " ++ d.text ++ " para la invocación [" ++ c.invocationId ++
      "] de " ++ c.invocation.data.direction.text))
  if c.request.data.isDone then return .abandoned
  if e.config.fence then
    let claimed ← EngineM.domain ((Claims.mk c.workflowName c.invocationId).claim d e.now)
    if !claimed then return .duplicate
  EngineM.catchFailure
    (match d with
      | .map => e.handleMap c
      | .reduce => e.handleReduce c)
    fun err => do
      e.recordFailure c err
      EngineM.fail err

/-- Processes a message body. -/
def handleRaw (e : Engine) (raw : String) : EngineM HandleOutcome := do
  let (d, m) ← EngineM.ofExcept (classify raw)
  e.handle d m

end Engine

end MapReduce
