import MapReduce.Engine.Output

/-! Scripted handlers. A handler registered with the engine's own runner carries a script: data
that says what the handler does when it runs. In order, it writes session values, checks a file
path, writes files, may abort its worker, notifies, and last answers: a directive with pairs, pairs
alone, a list of items, or a failure of a chosen kind.

Pairs come from sources: literal pairs, a call argument, and sources built on other sources (the
words of their texts, their array values spread out, their values aggregated per pair, summed per
key, swapped, cut to a number, or keyed by their value), session values and file contents.

A script is read from a JSON object; what a script does not say takes its default, and a source
of an unknown form gives no pairs. -/

namespace MapReduce

/-- How the values of one pair are aggregated. A value that is no array counts as a list of one. -/
inductive Aggregate where
  /-- The wrapping 64-bit sum of the values that are 64-bit integers. -/
  | sum
  /-- The number of values. -/
  | count
  /-- The largest 64-bit integer value, null if none. -/
  | max
  /-- The least 64-bit integer value, null if none. -/
  | min
  /-- The values sorted by their canonical text. -/
  | sorted
  /-- The value as it is. -/
  | keep
  deriving DecidableEq, Repr, Inhabited

/-- A source of pairs. -/
inductive PairSource where
  | literal (pairs : List Pair)
  /-- The call argument of a name: each element that is an array of two or more values gives the
  pair of its first two. -/
  | argument (name : String)
  /-- For each text value, its words split at blanks, each with the value `1`. -/
  | words (src : PairSource)
  /-- As `words`, each word lowercased. -/
  | lowerWords (src : PairSource)
  /-- An array value spreads into one pair per element. -/
  | explode (src : PairSource)
  | aggregate (f : Aggregate) (src : PairSource)
  /-- Pairs merged by key, each key with the wrapping sum of its 64-bit integer values. -/
  | sumByKey (src : PairSource)
  | concat (srcs : List PairSource)
  /-- Each name with its session value, or null. -/
  | session (names : List String)
  | swap (src : PairSource)
  | take (src : PairSource) (n : Nat)
  /-- A text or number value becomes the key, the key the value. -/
  | keyOf (src : PairSource)
  /-- Each relative path with the content of its file. -/
  | readFile (paths : List String)
  | nothing
  deriving Repr, Inhabited

/-- An item of a scripted output. -/
inductive ScriptItem where
  | directive (d : Directive)
  | pair (p : Pair)
  /-- A failed item. -/
  | failure (message : String)
  /-- The pairs of a source. -/
  | pairs (src : PairSource)
  deriving Repr, Inhabited

/-- The kind of a failure a script asks for. -/
inductive FailureKind where
  | handler
  | validation
  | transport
  | marshal
  deriving DecidableEq, Repr, Inhabited

/-- What a script answers. -/
inductive ScriptAnswer where
  | mapTo (step : String) (src : PairSource)
  | returning (src : PairSource)
  | pairs (src : PairSource)
  | items (items : List ScriptItem)
  | fail (kind : FailureKind) (message : String)
  /-- The worker running the handler is aborted. -/
  | abort
  deriving Repr, Inhabited

/-- A script. Session values and files are written in the order of their names. -/
structure Script where
  sessionSet : List (String × Json) := []
  fileCheck : Option String := none
  writeFiles : List (String × String) := []
  notify : Option String := none
  answer : ScriptAnswer := .pairs .nothing
  stdout : String := ""
  stderr : String := ""
  deriving Repr, Inhabited

/-- A pair written in an input: element 0 is the key and element 1 the value, a missing element
is null, and a value that is no array is a key with a null value. -/
def pairOfInput : Json → Pair
  | .arr [] => (.null, .null)
  | .arr [k] => (k, .null)
  | .arr (k :: v :: _) => (k, v)
  | x => (x, .null)

/-- A member found in an object is smaller than the object. -/
theorem sizeOf_lookup_lt {kvs : List (String × Json)} {key : String} {v : Json}
    (h : Json.lookup kvs key = some v) : sizeOf v < sizeOf (Json.obj kvs) := by
  unfold Json.lookup at h
  obtain ⟨m, hm, rfl⟩ := Option.map_eq_some_iff.mp h
  have hmem := List.mem_of_find?_eq_some hm
  have h1 := List.sizeOf_lt_of_mem hmem
  cases m with
  | mk k w =>
    simp only [Prod.mk.sizeOf_spec] at h1
    simp only [Json.obj.sizeOf_spec]
    omega

/-- An element of an array member found in an object is smaller than the object. -/
theorem sizeOf_lookup_elem_lt {kvs : List (String × Json)} {key : String} {xs : List Json}
    {x : Json} (h : Json.lookup kvs key = some (.arr xs)) (hx : x ∈ xs) :
    sizeOf x < sizeOf (Json.obj kvs) := by
  have h1 := sizeOf_lookup_lt h
  have h2 := List.sizeOf_lt_of_mem hx
  simp only [Json.arr.sizeOf_spec] at h1
  omega

namespace Aggregate

/-- The aggregate of a name; an unknown name keeps the value. -/
def ofJson : Json → Aggregate
  | .str "sum" => .sum
  | .str "count" => .count
  | .str "max" => .max
  | .str "min" => .min
  | .str "sorted" => .sorted
  | _ => .keep

end Aggregate

namespace PairSource

set_option linter.unusedVariables false in
/-- The source a JSON value describes: an array of literal pairs, the name of a call argument,
or an object whose first known member, in the order `words`, `explode`, `agg` (naming the
aggregate with a text), `sum_by_key`, `concat`, `read_file` and `session` (each with an array),
`swap`, `take`, `key_of`, says the form. -/
def ofJson : Json → PairSource
  | .arr xs => .literal (xs.map pairOfInput)
  | .str name => .argument name
  | .obj kvs =>
    match h1 : Json.lookup kvs "words" with
    | some p => .words (ofJson p)
    | none =>
    match h2 : Json.lookup kvs "explode" with
    | some p => .explode (ofJson p)
    | none =>
    match (Json.lookup kvs "agg").bind Json.getStr? with
    | some f =>
      match h3 : Json.lookup kvs "of" with
      | some p => .aggregate (Aggregate.ofJson (.str f)) (ofJson p)
      | none => .aggregate (Aggregate.ofJson (.str f)) (.argument "results")
    | none =>
    match h4 : Json.lookup kvs "sum_by_key" with
    | some p => .sumByKey (ofJson p)
    | none =>
    match h5 : Json.lookup kvs "concat" with
    | some (.arr ps) => .concat (ps.attach.map fun ⟨p, hp⟩ => ofJson p)
    | _ =>
    match Json.lookup kvs "read_file" with
    | some (.arr paths) => .readFile (paths.filterMap Json.getStr?)
    | _ =>
    match Json.lookup kvs "session" with
    | some (.arr names) => .session (names.filterMap Json.getStr?)
    | _ =>
    match h6 : Json.lookup kvs "swap" with
    | some p => .swap (ofJson p)
    | none =>
    match h7 : Json.lookup kvs "take" with
    | some p => .take (ofJson p) ((((Json.lookup kvs "n").bind Json.getNat?)).getD 0)
    | none =>
    match h8 : Json.lookup kvs "key_of" with
    | some p => .keyOf (ofJson p)
    | none => .nothing
  | _ => .nothing
termination_by j => sizeOf j
decreasing_by
  all_goals first
    | exact sizeOf_lookup_lt (by assumption)
    | exact sizeOf_lookup_elem_lt (by assumption) (by assumption)

end PairSource

namespace ScriptItem

/-- An item of a handler's output written as an object: `map_to` with a text, `return`, `pair`,
or `error` with a text; any other value is a key with a null value. -/
def ofOutputJson (j : Json) : ScriptItem :=
  match (j.get? "map_to").bind Json.getStr?, j.get? "return", j.get? "pair",
      (j.get? "error").bind Json.getStr? with
  | some step, _, _, _ => .directive (.mapTo step)
  | none, some _, _, _ => .directive .returning
  | none, none, some p, _ => .pair (pairOfInput p)
  | none, none, none, some m => .failure m
  | none, none, none, none => .pair (j, .null)

/-- An item of a script: an object with `pairs` stands for the pairs of that source, and any
other item is read as an item of a handler's output. -/
def ofJson (j : Json) : ScriptItem :=
  match j.get? "pairs" with
  | some p => .pairs (PairSource.ofJson p)
  | none => ofOutputJson j

end ScriptItem

namespace Script

/-- The text of a member, or the empty text. -/
def textOr (kvs : List (String × Json)) (name dflt : String) : String :=
  ((Json.lookup kvs name).bind Json.getStr?).getD dflt

/-- The source of the member `pairs`; none when it is missing. -/
def sourceOf (kvs : List (String × Json)) : PairSource :=
  match Json.lookup kvs "pairs" with
  | some p => PairSource.ofJson p
  | none => .nothing

/-- The answer a script object asks for by its member `do`, `pairs` by default. -/
def answerOf (kvs : List (String × Json)) : ScriptAnswer :=
  match textOr kvs "do" "pairs" with
  | "map_to" => .mapTo (textOr kvs "step" "") (sourceOf kvs)
  | "return" => .returning (sourceOf kvs)
  | "items" =>
    match Json.lookup kvs "items" with
    | some (.arr xs) => .items (xs.map ScriptItem.ofJson)
    | _ => .items []
  | "fail" =>
    let kind := match textOr kvs "kind" "handler" with
      | "validation" => FailureKind.validation
      | "transport" => .transport
      | "marshal" => .marshal
      | _ => .handler
    .fail kind (textOr kvs "message" "boom")
  | "panic" => .abort
  | _ => .pairs (sourceOf kvs)

/-- The script a JSON object describes. -/
def ofJson (j : Json) : Script :=
  match j with
  | .obj kvs =>
    let entries (name : String) : List (String × Json) :=
      match Json.lookup kvs name with
      | some (.obj es) => es
      | _ => []
    { sessionSet := entries "session_set"
      fileCheck := (Json.lookup kvs "file_check").bind Json.getStr?
      writeFiles := (entries "write_file").map fun (rel, t) => (rel, (t.getStr?).getD "")
      notify := (Json.lookup kvs "notify").bind Json.getStr?
      answer := answerOf kvs
      stdout := textOr kvs "stdout" ""
      stderr := textOr kvs "stderr" "" }
  | _ => {}

end Script

end MapReduce
