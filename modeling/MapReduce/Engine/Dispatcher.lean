import MapReduce.Engine.Processor

/-! Processing messages one at a time, in order: first the messages already taken from the broker,
then those the broker delivers, including messages pushed while processing, until none is left.
Each message is processed to its end before the next is taken. A run counts the messages received,
processed, found duplicate or abandoned, and failed, an aborted worker counting as failed. -/

namespace MapReduce

/-- A message processed and what came of it. -/
structure Processed where
  delivery : Delivery
  outcome : Except Fault HandleOutcome
  deriving Repr

/-- The counts of a run. -/
structure DispatchStats where
  received : Nat := 0
  processed : Nat := 0
  duplicates : Nat := 0
  abandoned : Nat := 0
  failed : Nat := 0
  deriving DecidableEq, Repr, Inhabited

namespace DispatchStats

/-- The counts with one more message. -/
def record (s : DispatchStats) : Except Fault HandleOutcome → DispatchStats
  | .ok .duplicate => { s with received := s.received + 1, duplicates := s.duplicates + 1 }
  | .ok .abandoned => { s with received := s.received + 1, abandoned := s.abandoned + 1 }
  | .ok _ => { s with received := s.received + 1, processed := s.processed + 1 }
  | .error _ => { s with received := s.received + 1, failed := s.failed + 1 }

/-- The counts of processed messages. -/
def ofProcessed (log : List Processed) : DispatchStats :=
  log.foldl (fun s p => s.record p.outcome) {}

end DispatchStats

/-- The next message: the first of those already taken, else the first the broker delivers. -/
def nextDelivery (taken : List Delivery) : StateM World (Option (Delivery × List Delivery)) :=
  fun w =>
    match taken with
    | d :: rest => (some (d, rest), w)
    | [] =>
      match w.broker.waiting with
      | d :: rest => (some (d, []), { w with broker := { w.broker with waiting := rest } })
      | [] => (none, w)

namespace Engine

/-- Processes at most `limit` messages, in order, from those already taken and then from the
broker. Answers what came of each, and the taken messages left unprocessed. -/
def processMessages (e : Engine) : Nat → List Delivery → StateM World (List Processed × List Delivery)
  | 0, taken => pure ([], taken)
  | limit + 1, taken => do
    match ← nextDelivery taken with
    | none => pure ([], [])
    | some (d, rest) =>
      let outcome ← (e.handleRaw d.body).run
      let (log, left) ← e.processMessages limit rest
      pure (⟨d, outcome⟩ :: log, left)

/-- Runs a dispatcher until no message is left, processing at most `limit` of them. -/
def dispatch (e : Engine) (limit : Nat) (taken : List Delivery) : StateM World DispatchStats := do
  let (log, _) ← e.processMessages limit taken
  pure (DispatchStats.ofProcessed log)

end Engine

end MapReduce
