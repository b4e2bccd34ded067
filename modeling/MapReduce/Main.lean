import MapReduce.Program.WordCount

/-! The word-count program's command line. It reads the variables the program knows from the
process environment and the file `.env` of the working directory, when there is one, runs the
program on its arguments, prints what it prints and exits with its status. -/

open MapReduce

/-- The variables the program reads. -/
def programVariables : List String :=
  ["MR_ATOMIC_UPDATE_MAX_ATTEMPTS", "MR_MAX_IN_FLIGHT", "MR_WAIT_TIMEOUT_S", "MR_TOPIC_MAP_TEMPLATE",
    "MR_TOPIC_REDUCE_TEMPLATE", "MR_DO_CLEANUP_REQUESTS", "MR_CLEANUP_BATCH_SIZE",
    "MR_CLEANUP_MANDATORY_QUIET_PERIOD_S", "MR_IDEMPOTENCY_FENCE", "MR_FILE_ROOT", "MR_DB_URL",
    "DATABASE_URL"]

/-- Runs the program once. -/
def main (args : List String) : IO UInt32 := do
  let mut env : Environment := []
  for name in programVariables do
    if let some v ← IO.getEnv name then
      env := env.set name v
  let dotenv ← try pure (some (← IO.FS.readFile ".env")) catch _ => pure none
  let (r, _) := WordCount.run [] 1 args env dotenv
  IO.print r.stdout
  IO.eprint r.stderr
  pure r.status.toUInt32
