import MapReduce.Engine.Error
import MapReduce.Number.Reading
import MapReduce.Text.Blank

/-! The settings of an engine, their defaults, and how they are read from environment variables.
A variable that is unset or blank leaves its default. Numbers are read after trimming, counts are
raised to at least one, durations are seconds that must be finite and not negative, and flags are
`1`, `true`, `yes`, `on` or `0`, `false`, `no`, `off` in any case. Variables are read in the order
of the settings, and the first bad one fails. -/

namespace MapReduce

/-- The topic template of map messages by default. -/
def defaultMapTemplate : String := "mr.\x7bworkflow_name\x7d.map"

/-- The topic template of reduce messages by default. -/
def defaultReduceTemplate : String := "mr.\x7bworkflow_name\x7d.reduce"

/-- The placeholder replaced by the workflow name in a topic template. -/
def workflowPlaceholder : String := "\x7bworkflow_name\x7d"

/-- The settings of an engine. Durations are in nanoseconds. -/
structure EngineConfig where
  /-- The ceiling of attempts of an atomic update. -/
  maxAttempts : Nat := 5
  /-- How many messages a dispatcher processes at once. -/
  maxInFlight : Nat := 32
  /-- How long a blocking request waits for its result; none waits without limit. -/
  waitTimeout : Option Nat := none
  mapTemplate : String := defaultMapTemplate
  reduceTemplate : String := defaultReduceTemplate
  /-- Whether finished requests are queued for cleanup. -/
  cleanupRequests : Bool := true
  /-- How many queued requests one cleanup pass takes at most. -/
  cleanupBatch : Nat := 1000
  /-- How long a finished request is kept before cleanup. -/
  quietPeriod : Nat := 500000000
  /-- Whether each direction of an invocation is processed at most once. -/
  fence : Bool := true
  /-- The directory below which handlers keep their files. -/
  fileRoot : String := "/tmp/mr_files"
  deriving DecidableEq, Repr, Inhabited

set_option linter.unusedVariables false in
/-- Replaces every occurrence of a pattern, left to right, in a list of characters. -/
def replaceChars (pattern replacement : List Char) : List Char → List Char
  | [] => []
  | c :: cs =>
    if h : pattern ≠ [] ∧ pattern.isPrefixOf (c :: cs) then
      replacement ++ replaceChars pattern replacement ((c :: cs).drop pattern.length)
    else c :: replaceChars pattern replacement cs
termination_by cs => cs.length
decreasing_by
  · have : 0 < pattern.length := List.length_pos_iff.mpr h.1
    simp only [List.length_drop, List.length_cons]; omega
  · simp

/-- The topic of a template for a workflow: every placeholder replaced by the workflow name, and
the capability appended after a dot when there is one. -/
def renderTopic (template workflow : String) (capability : Option String) : String :=
  let topic := String.ofList (replaceChars workflowPlaceholder.toList workflow.toList template.toList)
  match capability with
  | some cap => topic ++ "." ++ cap
  | none => topic

/-- The nanoseconds nearest to a number of seconds, ties to even; none from `2 ^ 64` seconds on. -/
def secondsToNanos (x : Binary64) : Option Nat :=
  let (num, den) := x.magnitude
  if num ≥ Nat.pow 2 64 * den then none else some (Binary64.roundHalfEven (num * Nat.pow 10 9) den)

namespace EngineConfig

/-- The topic of map messages of a workflow. -/
def mapTopic (c : EngineConfig) (workflow : String) (capability : Option String) : String :=
  renderTopic c.mapTemplate workflow capability

/-- The topic of reduce messages of a workflow. -/
def reduceTopic (c : EngineConfig) (workflow : String) (capability : Option String) : String :=
  renderTopic c.reduceTemplate workflow capability

/-- The failure for a value that does not read. -/
def invalidValue (name raw : String) : Fault :=
  .error (.validation (name ++ " tiene un valor inválido: " ++ raw))

/-- An unsigned number of a width from a variable. -/
def envNumber (env : String → Option String) (name : String) (bits : Nat) :
    Except Fault (Option Nat) :=
  match env name with
  | none => .ok none
  | some raw =>
    if Text.isBlankText raw then .ok none
    else match NumberText.unsigned bits (Text.trim raw) with
      | some n => .ok (some n)
      | none => .error (invalidValue name raw)

/-- A duration in seconds from a variable. A number of seconds too large for a duration stops
the reading abnormally. -/
def envSeconds (env : String → Option String) (name : String) : Except Fault (Option Nat) :=
  match env name with
  | none => .ok none
  | some raw =>
    if Text.isBlankText raw then .ok none
    else match NumberText.float (Text.trim raw) with
      | none => .error (invalidValue name raw)
      | some (.finite x) =>
        if x.neg && !x.isZero then
          .error (.error (.validation (name ++ " debe ser un número de segundos no negativo")))
        else match secondsToNanos x with
          | some n => .ok (some n)
          | none => .error .abort
      | some _ => .error (.error (.validation (name ++ " debe ser un número de segundos no negativo")))

/-- A flag from a variable. -/
def envFlag (env : String → Option String) (name : String) : Except Fault (Option Bool) :=
  match env name with
  | none => .ok none
  | some raw =>
    let word := String.ofList ((Text.trim raw).toList.map Char.toLower)
    if word = "" then .ok none
    else if word = "1" || word = "true" || word = "yes" || word = "on" then .ok (some true)
    else if word = "0" || word = "false" || word = "no" || word = "off" then .ok (some false)
    else .error (invalidValue name raw)

/-- A text from a variable, unless it is blank. -/
def envText (env : String → Option String) (name : String) : Option String :=
  match env name with
  | some v => if Text.isBlankText v then none else some v
  | none => none

/-- The settings read from environment variables over the defaults. -/
def fromEnv (env : String → Option String) : Except Fault EngineConfig := do
  let d : EngineConfig := {}
  let attempts ← envNumber env "MR_ATOMIC_UPDATE_MAX_ATTEMPTS" 32
  let inFlight ← envNumber env "MR_MAX_IN_FLIGHT" 64
  let wait ← envSeconds env "MR_WAIT_TIMEOUT_S"
  let mapTemplate := envText env "MR_TOPIC_MAP_TEMPLATE"
  let reduceTemplate := envText env "MR_TOPIC_REDUCE_TEMPLATE"
  let cleanup ← envFlag env "MR_DO_CLEANUP_REQUESTS"
  let batch ← envNumber env "MR_CLEANUP_BATCH_SIZE" 64
  let quiet ← envSeconds env "MR_CLEANUP_MANDATORY_QUIET_PERIOD_S"
  let fence ← envFlag env "MR_IDEMPOTENCY_FENCE"
  let root := envText env "MR_FILE_ROOT"
  pure {
    maxAttempts := (attempts.map (max 1)).getD d.maxAttempts
    maxInFlight := (inFlight.map (max 1)).getD d.maxInFlight
    waitTimeout := wait.orElse fun _ => d.waitTimeout
    mapTemplate := mapTemplate.getD d.mapTemplate
    reduceTemplate := reduceTemplate.getD d.reduceTemplate
    cleanupRequests := cleanup.getD d.cleanupRequests
    cleanupBatch := (batch.map (max 1)).getD d.cleanupBatch
    quietPeriod := quiet.getD d.quietPeriod
    fence := fence.getD d.fence
    fileRoot := root.getD d.fileRoot }

end EngineConfig

end MapReduce
