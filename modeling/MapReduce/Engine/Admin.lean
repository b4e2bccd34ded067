import MapReduce.Engine.Processor

/-! Defining workflows: creating a workflow, its steps and jobs, and saving or deleting its
handlers. A step needs its workflow, a job needs its initial step, and every change of the handlers
recomputes the workflow's handlers state, the digest of its handlers' names and versions. -/

namespace MapReduce

namespace Engine

/-- Creates a workflow. -/
def createWorkflow (workflow description : String) : EngineM (Record Workflow) :=
  EngineM.domain (EntityStore.create ({ name := workflow, description } : Workflow))

/-- Creates a step of an existing workflow. -/
def createStep (s : Step) : EngineM (Record Step) := do
  let _ ← load Workflow [s.workflow]
  EngineM.domain (EntityStore.create s)

/-- Creates a job whose initial step exists. -/
def createJob (j : Job) : EngineM (Record Job) := do
  match ← EngineM.domain (EntityStore.tryLoad Step [j.workflow, j.initialStep]) with
  | none =>
    EngineM.fail (.validation ("job [" ++ j.name ++ "]: el step inicial [" ++ j.initialStep ++
      "] no existe"))
  | some _ => EngineM.domain (EntityStore.create j)

/-- Recomputes and stores the handlers state of a workflow; answers it. -/
def refreshHandlersState (e : Engine) (workflow : String) : EngineM String := do
  let handlers ← EngineM.domain (EntityStore.list Handler [workflow])
  let state := handlersState (handlers.map fun r => (r.data.name, r.data.version))
  let _ ← e.update (α := Workflow) [workflow] fun w => .ok ({ w with handlersState := some state }, ())
  pure state

/-- Saves a handler, creating it or replacing the stored one, and recomputes the handlers state. -/
def saveHandler (e : Engine) (h : Handler) : EngineM (Record Handler) := do
  let existing ← EngineM.domain (EntityStore.tryLoad Handler [h.workflow, h.name])
  let r ← EngineM.domain (EntityStore.save ⟨h, existing.bind (·.version)⟩)
  let _ ← e.refreshHandlersState h.workflow
  pure r

/-- Deletes a handler and recomputes the handlers state. -/
def deleteHandler (e : Engine) (workflow name : String) : EngineM Unit := do
  EngineM.domain (EntityStore.delete Handler [workflow, name])
  let _ ← e.refreshHandlersState workflow

end Engine

end MapReduce
