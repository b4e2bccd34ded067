import MapReduce.Engine.Config
import Mathlib

/-! # Reading the settings from the environment

Each setting is read from its variable. A variable that is unset or blank leaves the default; a
count is its trimmed text read as an unsigned number of the width, raised to one; a duration is
its trimmed text read as a number of seconds; a flag is its trimmed text in lower case, one of the
flag words; templates and the file root are taken as they are. A value is refused when its text
does not read (`Refuses`): a count that is no unsigned number of its width, seconds that are no
finite number or are negative, a flag that is no flag word.

Reading fails with a validation failure that names the variable when a value is refused. It
stops abnormally for one more reason only: a number of seconds, finite and not negative, of
`2 ^ 64` or more, which no duration holds (`TooLarge`). Otherwise it gives the settings
(`settings`). The proofs give each reader its lemma, and the reading as a whole follows by peeling
the variables one at a time. -/

namespace MapReduce.EngineConfig

/-! ## Sequenced steps -/

theorem except_bind_eq_ok {ε α β : Type} {x : Except ε α} {f : α → Except ε β} {b : β} :
    (x >>= f) = .ok b ↔ ∃ a, x = .ok a ∧ f a = .ok b := by
  cases x <;> simp [bind, Except.bind]

theorem except_bind_eq_error {ε α β : Type} {x : Except ε α} {f : α → Except ε β} {e : ε} :
    (x >>= f) = .error e ↔ x = .error e ∨ ∃ a, x = .ok a ∧ f a = .error e := by
  cases x <;> simp [bind, Except.bind]

/-! ## What each variable gives -/

/-- How the value of a variable is read: as an unsigned count of a width, as a number of seconds,
or as a flag. -/
inductive Reading where
  | count (bits : Nat)
  | seconds
  | flag
  deriving DecidableEq, Repr

/-- The variables read through a parser, in the order they are read. -/
def parsedVariables : List (String × Reading) :=
  [("MR_ATOMIC_UPDATE_MAX_ATTEMPTS", .count 32), ("MR_MAX_IN_FLIGHT", .count 64),
    ("MR_WAIT_TIMEOUT_S", .seconds), ("MR_DO_CLEANUP_REQUESTS", .flag),
    ("MR_CLEANUP_BATCH_SIZE", .count 64), ("MR_CLEANUP_MANDATORY_QUIET_PERIOD_S", .seconds),
    ("MR_IDEMPOTENCY_FENCE", .flag)]

/-- The word of a flag: its text trimmed and in lower case. -/
def flagWord (raw : String) : String := String.ofList ((Text.trim raw).toList.map Char.toLower)

/-- The words of a flag that is on. -/
def onWords : List String := ["1", "true", "yes", "on"]

/-- The words of a flag that is off. -/
def offWords : List String := ["0", "false", "no", "off"]

/-- Whether the value of a variable is refused by how it is read: a count whose trimmed text is no
unsigned number of its width; seconds whose trimmed text is no number, or an infinite, undefined
or negative one; a flag whose word is none of the flag words and not empty. -/
def Refuses (env : String → Option String) : String × Reading → Prop
  | (name, .count bits) =>
    ∃ raw, envText env name = some raw ∧ NumberText.unsigned bits (Text.trim raw) = none
  | (name, .seconds) =>
    ∃ raw, envText env name = some raw ∧
      ∀ x, NumberText.float (Text.trim raw) = some (.finite x) → x.neg = true ∧ x.isZero = false
  | (name, .flag) => ∃ raw, env name = some raw ∧ flagWord raw ∉ "" :: (onWords ++ offWords)

/-- Whether a variable holds a number of seconds, finite and not negative, that no duration holds:
`2 ^ 64` seconds or more. -/
def TooLarge (env : String → Option String) (name : String) : Prop :=
  ∃ raw x, envText env name = some raw ∧ NumberText.float (Text.trim raw) = some (.finite x) ∧
    ¬(x.neg = true ∧ x.isZero = false) ∧ secondsToNanos x = none

/-- The count a variable gives, if any. -/
def countOf (env : String → Option String) (name : String) (bits : Nat) : Option Nat :=
  (envText env name).bind fun raw => NumberText.unsigned bits (Text.trim raw)

/-- The nanoseconds a variable gives, if any. -/
def nanosOf (env : String → Option String) (name : String) : Option Nat :=
  (envText env name).bind fun raw =>
    match NumberText.float (Text.trim raw) with
    | some (.finite x) => secondsToNanos x
    | _ => none

/-- The flag a variable gives, if any. -/
def flagOf (env : String → Option String) (name : String) : Option Bool :=
  (env name).bind fun raw =>
    if flagWord raw ∈ onWords then some true else if flagWord raw ∈ offWords then some false else none

/-- The settings the variables give: each setting the default when its variable gives nothing,
and what it gives otherwise, with the counts raised to one. -/
def settings (env : String → Option String) : EngineConfig where
  maxAttempts := ((countOf env "MR_ATOMIC_UPDATE_MAX_ATTEMPTS" 32).map (max 1)).getD 5
  maxInFlight := ((countOf env "MR_MAX_IN_FLIGHT" 64).map (max 1)).getD 32
  waitTimeout := nanosOf env "MR_WAIT_TIMEOUT_S"
  mapTemplate := (envText env "MR_TOPIC_MAP_TEMPLATE").getD defaultMapTemplate
  reduceTemplate := (envText env "MR_TOPIC_REDUCE_TEMPLATE").getD defaultReduceTemplate
  cleanupRequests := (flagOf env "MR_DO_CLEANUP_REQUESTS").getD true
  cleanupBatch := ((countOf env "MR_CLEANUP_BATCH_SIZE" 64).map (max 1)).getD 1000
  quietPeriod := (nanosOf env "MR_CLEANUP_MANDATORY_QUIET_PERIOD_S").getD 500000000
  fence := (flagOf env "MR_IDEMPOTENCY_FENCE").getD true
  fileRoot := (envText env "MR_FILE_ROOT").getD "/tmp/mr_files"

/-! ## Each reader -/

section Readers

variable {env : String → Option String} {name : String}

theorem invalidValue_names (name raw : String) :
    ∃ m, invalidValue name raw = .error (.validation (name ++ m)) :=
  ⟨_, by rw [invalidValue, String.append_assoc]⟩

/-- A count reads when its value is not refused, and gives what the variable gives. -/
theorem envNumber_eq_ok_iff {bits : Nat} {r : Option Nat} :
    envNumber env name bits = .ok r ↔ ¬ Refuses env (name, .count bits) ∧ r = countOf env name bits := by
  simp only [envNumber, Refuses, countOf, envText]
  rcases env name with _ | raw
  · simp
    exact eq_comm
  · by_cases hb : Text.isBlankText raw = true
    · simp [hb]
      exact eq_comm
    · rcases hp : NumberText.unsigned bits (Text.trim raw) with _ | n
      · simp [hb, hp]
      · simp [hb, hp]
        exact eq_comm

/-- A count fails only on a refused value, with a failure that names the variable. -/
theorem envNumber_error {bits : Nat} {f : Fault} (h : envNumber env name bits = .error f) :
    Refuses env (name, .count bits) ∧ ∃ m, f = .error (.validation (name ++ m)) := by
  simp only [envNumber] at h
  rcases hv : env name with _ | raw <;> simp only [hv] at h
  · cases h
  · by_cases hb : Text.isBlankText raw = true
    · simp [hb] at h
    · rcases hp : NumberText.unsigned bits (Text.trim raw) with _ | n <;> simp [hb, hp] at h
      subst h
      exact ⟨⟨raw, by simp [envText, hv, hb], hp⟩, invalidValue_names name raw⟩

/-- Seconds read when their value is neither refused nor too large, and give what the variable
gives. -/
theorem envSeconds_eq_ok_iff {r : Option Nat} :
    envSeconds env name = .ok r ↔
      ¬ Refuses env (name, .seconds) ∧ ¬ TooLarge env name ∧ r = nanosOf env name := by
  simp only [envSeconds, Refuses, TooLarge, nanosOf, envText]
  rcases env name with _ | raw
  · simp
    exact eq_comm
  · by_cases hb : Text.isBlankText raw = true
    · simp [hb]
      exact eq_comm
    · rcases hx : NumberText.float (Text.trim raw) with _ | (x | neg | _)
      · simp [hb, hx]
      · by_cases hneg : x.neg = true ∧ x.isZero = false
        · simp [hb, hx, hneg]
        · rcases hn : secondsToNanos x with _ | n
          · simp [hb, hx, hneg, hn]
          · simp [hb, hx, hneg, hn]
            exact eq_comm
      · simp [hb, hx]
      · simp [hb, hx]

/-- Seconds fail abnormally only when they are too large for a duration; otherwise they fail on a
refused value, with a failure that names the variable. -/
theorem envSeconds_error {f : Fault} (h : envSeconds env name = .error f) :
    (f = .abort ∧ TooLarge env name) ∨
      (Refuses env (name, .seconds) ∧ ∃ m, f = .error (.validation (name ++ m))) := by
  simp only [envSeconds] at h
  rcases hv : env name with _ | raw <;> simp only [hv] at h
  · cases h
  · by_cases hb : Text.isBlankText raw = true
    · simp [hb] at h
    have htext : envText env name = some raw := by simp [envText, hv, hb]
    rcases hx : NumberText.float (Text.trim raw) with _ | (x | neg | _)
    · -- no number at all
      simp [hb, hx] at h
      subst h
      exact .inr ⟨⟨raw, htext, by simp [hx]⟩, invalidValue_names name raw⟩
    · by_cases hneg : x.neg = true ∧ x.isZero = false
      · simp [hb, hx, hneg] at h
        subst h
        exact .inr ⟨⟨raw, htext, by simp [hx, hneg]⟩, _, rfl⟩
      · rcases hn : secondsToNanos x with _ | n <;> simp [hb, hx, hneg, hn] at h
        subst h
        exact .inl ⟨rfl, raw, x, htext, hx, hneg, hn⟩
    · simp [hb, hx] at h
      subst h
      exact .inr ⟨⟨raw, htext, by simp [hx]⟩, _, rfl⟩
    · simp [hb, hx] at h
      subst h
      exact .inr ⟨⟨raw, htext, by simp [hx]⟩, _, rfl⟩

/-- Seconds too large for a duration stop the reading abnormally. -/
theorem envSeconds_of_tooLarge (h : TooLarge env name) : envSeconds env name = .error .abort := by
  obtain ⟨raw, x, htext, hx, hneg, hn⟩ := h
  rcases hv : env name with _ | raw'
  · simp [envText, hv] at htext
  · by_cases hb : Text.isBlankText raw' = true
    · simp [envText, hv, hb] at htext
    · simp only [envText, hv, hb, Bool.false_eq_true, if_false, Option.some.injEq] at htext
      subst htext
      simp [envSeconds, hv, hb, hx, hneg, hn]

/-- A set flag reads by its word. -/
theorem envFlag_of_some {raw : String} (hv : env name = some raw) :
    envFlag env name =
      if flagWord raw = "" then .ok none
      else if flagWord raw ∈ onWords then .ok (some true)
      else if flagWord raw ∈ offWords then .ok (some false)
      else .error (invalidValue name raw) := by
  simp [envFlag, hv, flagWord, onWords, offWords, or_assoc]

/-- A flag reads when its value is not refused, and gives what the variable gives. -/
theorem envFlag_eq_ok_iff {r : Option Bool} :
    envFlag env name = .ok r ↔ ¬ Refuses env (name, .flag) ∧ r = flagOf env name := by
  rcases hv : env name with _ | raw
  · simp [envFlag, Refuses, flagOf, hv]
    exact eq_comm
  · rw [envFlag_of_some hv]
    simp only [Refuses, flagOf, hv, Option.some.injEq, exists_eq_left', Option.bind_some,
      List.mem_cons, List.mem_append, not_or, not_and, not_not]
    by_cases he : flagWord raw = ""
    · simp [he, onWords, offWords]
      exact eq_comm
    by_cases hon : flagWord raw ∈ onWords
    · simp [he, hon]
      exact eq_comm
    by_cases hoff : flagWord raw ∈ offWords
    · simp [he, hon, hoff]
      exact eq_comm
    · simp [he, hon, hoff]

/-- A flag fails only on a refused value, with a failure that names the variable. -/
theorem envFlag_error {f : Fault} (h : envFlag env name = .error f) :
    Refuses env (name, .flag) ∧ ∃ m, f = .error (.validation (name ++ m)) := by
  rcases hv : env name with _ | raw
  · simp [envFlag, hv] at h
  · rw [envFlag_of_some hv] at h
    by_cases hword : flagWord raw ∈ "" :: (onWords ++ offWords)
    · simp only [List.mem_cons, List.mem_append] at hword
      rcases hword with he | hon | hoff
      · simp [he] at h
      · by_cases he : flagWord raw = "" <;> simp [he, hon] at h
      · by_cases he : flagWord raw = "" <;> by_cases hon : flagWord raw ∈ onWords <;>
          simp [he, hon, hoff] at h
    · simp only [List.mem_cons, List.mem_append, not_or] at hword
      obtain ⟨he, hon, hoff⟩ := hword
      simp only [he, hon, hoff, if_false] at h
      cases h
      exact ⟨⟨raw, hv, by simp [he, hon, hoff]⟩, invalidValue_names name raw⟩

end Readers

/-! ## The whole reading -/

variable {env : String → Option String}

/-- Reading fails only when one of the readers fails: abnormally on seconds too large for a
duration, or with a validation failure that names a variable whose value is refused. -/
theorem fromEnv_error {f : Fault} (h : fromEnv env = .error f) :
    ∃ v ∈ parsedVariables, (f = .abort ∧ v.2 = .seconds ∧ TooLarge env v.1) ∨
      (Refuses env v ∧ ∃ m, f = .error (.validation (v.1 ++ m))) := by
  simp only [fromEnv, except_bind_eq_error] at h
  rcases h with h | ⟨_, -, h | ⟨_, -, h | ⟨_, -, h | ⟨_, -, h | ⟨_, -, h | ⟨_, -, h | ⟨_, -, h⟩⟩⟩⟩⟩⟩⟩
  · exact ⟨_, by simp [parsedVariables], .inr (envNumber_error h)⟩
  · exact ⟨_, by simp [parsedVariables], .inr (envNumber_error h)⟩
  · exact ⟨_, by simp [parsedVariables], (envSeconds_error h).imp (fun ⟨hf, ht⟩ => ⟨hf, rfl, ht⟩) id⟩
  · exact ⟨_, by simp [parsedVariables], .inr (envFlag_error h)⟩
  · exact ⟨_, by simp [parsedVariables], .inr (envNumber_error h)⟩
  · exact ⟨_, by simp [parsedVariables], (envSeconds_error h).imp (fun ⟨hf, ht⟩ => ⟨hf, rfl, ht⟩) id⟩
  · exact ⟨_, by simp [parsedVariables], .inr (envFlag_error h)⟩
  · cases h

theorem forall_parsedVariables {P : String × Reading → Prop} :
    (∀ v ∈ parsedVariables, P v) ↔
      P ("MR_ATOMIC_UPDATE_MAX_ATTEMPTS", .count 32) ∧ P ("MR_MAX_IN_FLIGHT", .count 64) ∧
        P ("MR_WAIT_TIMEOUT_S", .seconds) ∧ P ("MR_DO_CLEANUP_REQUESTS", .flag) ∧
        P ("MR_CLEANUP_BATCH_SIZE", .count 64) ∧ P ("MR_CLEANUP_MANDATORY_QUIET_PERIOD_S", .seconds) ∧
        P ("MR_IDEMPOTENCY_FENCE", .flag) := by
  simp [parsedVariables]

theorem forall_secondsVariables {P : String → Prop} :
    (∀ name, (name, Reading.seconds) ∈ parsedVariables → P name) ↔
      P "MR_WAIT_TIMEOUT_S" ∧ P "MR_CLEANUP_MANDATORY_QUIET_PERIOD_S" := by
  simp [parsedVariables]

/-- Reading succeeds exactly when no value is refused and no number of seconds is too large, and
then gives the settings the variables give. -/
theorem fromEnv_eq_ok_iff {cfg : EngineConfig} :
    fromEnv env = .ok cfg ↔
      (∀ v ∈ parsedVariables, ¬ Refuses env v) ∧
        (∀ name, (name, Reading.seconds) ∈ parsedVariables → ¬ TooLarge env name) ∧
        cfg = settings env := by
  rw [forall_parsedVariables, forall_secondsVariables]
  constructor
  · intro h
    simp only [fromEnv, except_bind_eq_ok] at h
    obtain ⟨a1, h1, a2, h2, a3, h3, a4, h4, a5, h5, a6, h6, a7, h7, hcfg⟩ := h
    obtain ⟨r1, rfl⟩ := envNumber_eq_ok_iff.mp h1
    obtain ⟨r2, rfl⟩ := envNumber_eq_ok_iff.mp h2
    obtain ⟨r3, t3, rfl⟩ := envSeconds_eq_ok_iff.mp h3
    obtain ⟨r4, rfl⟩ := envFlag_eq_ok_iff.mp h4
    obtain ⟨r5, rfl⟩ := envNumber_eq_ok_iff.mp h5
    obtain ⟨r6, t6, rfl⟩ := envSeconds_eq_ok_iff.mp h6
    obtain ⟨r7, rfl⟩ := envFlag_eq_ok_iff.mp h7
    cases hcfg
    refine ⟨⟨r1, r2, r3, r4, r5, r6, r7⟩, ⟨t3, t6⟩, ?_⟩
    simp [settings]
  · rintro ⟨⟨r1, r2, r3, r4, r5, r6, r7⟩, ⟨t3, t6⟩, rfl⟩
    rw [fromEnv, envNumber_eq_ok_iff.mpr ⟨r1, rfl⟩, envNumber_eq_ok_iff.mpr ⟨r2, rfl⟩,
      envSeconds_eq_ok_iff.mpr ⟨r3, t3, rfl⟩, envFlag_eq_ok_iff.mpr ⟨r4, rfl⟩,
      envNumber_eq_ok_iff.mpr ⟨r5, rfl⟩, envSeconds_eq_ok_iff.mpr ⟨r6, t6, rfl⟩,
      envFlag_eq_ok_iff.mpr ⟨r7, rfl⟩]
    simp only [Option.orElse_eq_or, Option.or_none]
    rfl

/-- Reading the settings stops abnormally only on a number of seconds too large for a duration,
and fails otherwise only with a validation failure that names a variable whose value is refused.
Without a number of seconds too large, it fails with a validation failure exactly when some value
is refused. It succeeds exactly when no value is refused and no number of seconds is too large, and
then each setting is the default when its variable is unset or blank and its variable's value read
from the trimmed text otherwise, with the counts raised to one. A wait too large for a duration,
after counts that read, does stop it abnormally. -/
theorem settings_read_unless_refused_or_too_large (env : String → Option String) :
    (∀ f, fromEnv env = .error f →
      (f = .abort ∧ ∃ name, (name, Reading.seconds) ∈ parsedVariables ∧ TooLarge env name) ∨
        ∃ v ∈ parsedVariables, Refuses env v ∧ ∃ m, f = .error (.validation (v.1 ++ m))) ∧
    ((∀ name, (name, Reading.seconds) ∈ parsedVariables → ¬ TooLarge env name) →
      ((∃ m, fromEnv env = .error (.error (.validation m))) ↔ ∃ v ∈ parsedVariables, Refuses env v)) ∧
    (∀ cfg, fromEnv env = .ok cfg ↔
      (∀ v ∈ parsedVariables, ¬ Refuses env v) ∧
        (∀ name, (name, Reading.seconds) ∈ parsedVariables → ¬ TooLarge env name) ∧
        cfg = settings env) ∧
    (¬ Refuses env ("MR_ATOMIC_UPDATE_MAX_ATTEMPTS", .count 32) →
      ¬ Refuses env ("MR_MAX_IN_FLIGHT", .count 64) → TooLarge env "MR_WAIT_TIMEOUT_S" →
      fromEnv env = .error .abort) := by
  have herror : ∀ f, fromEnv env = .error f →
      (f = .abort ∧ ∃ name, (name, Reading.seconds) ∈ parsedVariables ∧ TooLarge env name) ∨
        ∃ v ∈ parsedVariables, Refuses env v ∧ ∃ m, f = .error (.validation (v.1 ++ m)) := by
    intro f h
    obtain ⟨v, hv, ⟨hf, hs, ht⟩ | hr⟩ := fromEnv_error h
    · exact .inl ⟨hf, v.1, by rw [← hs]; exact hv, ht⟩
    · exact .inr ⟨v, hv, hr⟩
  refine ⟨herror, fun hsmall => ⟨?_, ?_⟩, fun _ => fromEnv_eq_ok_iff, ?_⟩
  · rintro ⟨m, h⟩
    rcases herror _ h with ⟨hf, -⟩ | ⟨v, hv, hr, -⟩
    · cases hf
    · exact ⟨v, hv, hr⟩
  · rintro ⟨v, hv, hr⟩
    rcases hres : fromEnv env with f | cfg
    · rcases herror f hres with ⟨-, name, hname, ht⟩ | ⟨w, -, -, m, rfl⟩
      · exact absurd ht (hsmall name hname)
      · exact ⟨_, rfl⟩
    · exact absurd hr ((fromEnv_eq_ok_iff.mp hres).1 v hv)
  · intro r1 r2 t3
    rw [fromEnv, envNumber_eq_ok_iff.mpr ⟨r1, rfl⟩, envNumber_eq_ok_iff.mpr ⟨r2, rfl⟩,
      envSeconds_of_tooLarge t3]
    rfl

/-- A wait of `1e20` seconds, finite and not negative, with nothing else set: the reading stops
abnormally. -/
theorem wait_beyond_a_duration_stops_reading :
    fromEnv (fun name => if name = "MR_WAIT_TIMEOUT_S" then some "1e20" else none) = .error .abort := by
  have hwait : TooLarge (fun name => if name = "MR_WAIT_TIMEOUT_S" then some "1e20" else none)
      "MR_WAIT_TIMEOUT_S" :=
    ⟨"1e20", ⟨false, 6103515625000000, 14⟩, by decide, by decide, by decide, by decide⟩
  exact (settings_read_unless_refused_or_too_large _).2.2.2 (by simp [Refuses, envText])
    (by simp [Refuses, envText]) hwait

end MapReduce.EngineConfig
