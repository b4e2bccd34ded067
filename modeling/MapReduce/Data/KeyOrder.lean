import MapReduce.Json.Decode
import MapReduce.Data.Driftsort

/-! The order of JSON keys: first by kind (null, booleans, numbers, texts, arrays, objects), then
within a kind. Two integers of the signed 64-bit range compare exactly; any other two numbers
compare as binary64 numbers. Texts compare bytewise, arrays element by element and then by length,
objects by their canonical text. -/

namespace MapReduce

namespace Json

/-- The rank of a value's kind. -/
def kindRank : Json → Nat
  | .null => 0
  | .bool _ => 1
  | .num _ => 2
  | .str _ => 3
  | .arr _ => 4
  | .obj _ => 5

/-- The order of two numbers: exact for two signed 64-bit integers, as binary64 numbers
otherwise. -/
def compareNumbers (x y : Number) : Ordering :=
  match x.toInt64?, y.toInt64? with
  | some i, some j => compare i j
  | _, _ => Binary64.compare x.toBinary64 y.toBinary64

mutual

/-- The order of keys. -/
def compareKeys : Json → Json → Ordering
  | .bool a, .bool b => compare a b
  | .num x, .num y => compareNumbers x y
  | .str a, .str b => compare a b
  | .arr xs, .arr ys => compareKeyLists xs ys
  | .obj a, .obj b => compare (write (.obj a)) (write (.obj b))
  | a, b => compare a.kindRank b.kindRank

/-- The order of two arrays of keys: the first unequal pair decides, then the length. -/
def compareKeyLists : List Json → List Json → Ordering
  | [], [] => .eq
  | [], _ :: _ => .lt
  | _ :: _, [] => .gt
  | x :: xs, y :: ys =>
    match compareKeys x y with
    | .eq => compareKeyLists xs ys
    | o => o

end

end Json

/-- A key and a value. -/
abbrev Pair := Json × Json

/-- A key and the values gathered for it. -/
structure Group where
  key : Json
  values : List Json
  deriving Repr, Inhabited

namespace KeyOrder

/-- Sorts stably by the key order, comparison for comparison as the engine's sort does, so that
keys the order does not rank consistently end up where they do there; none when the sort finds
the order inconsistent and stops. -/
def sortBy {α : Type} (key : α → Json) (xs : List α) : Option (List α) :=
  (Driftsort.stableSort (fun a b => Json.compareKeys (key a) (key b) == .lt) xs.toArray).map
    Array.toList

/-- Sorts keys stably. -/
def sortKeys (keys : List Json) : Option (List Json) := sortBy id keys

/-- Adds a pair to groups built so far (given reversed): to the last group when the keys compare
equal, otherwise as a new group. -/
def addToRuns (acc : List Group) (p : Pair) : List Group :=
  match acc with
  | g :: rest =>
    if Json.compareKeys g.key p.1 == .eq then { g with values := g.values ++ [p.2] } :: rest
    else ⟨p.1, [p.2]⟩ :: acc
  | [] => [⟨p.1, [p.2]⟩]

/-- The default combination: pairs sorted stably by key, then runs of equal keys merged, each
group keeping the first key of its run; none when the sort stops. -/
def groupByKey (pairs : List Pair) : Option (List Group) :=
  (sortBy (·.1) pairs).map fun ps => (ps.foldl addToRuns []).reverse

/-- Adds a pair to groups keyed by canonical text (in first-appearance order). -/
def addByText (acc : List (String × Group)) (p : Pair) : List (String × Group) :=
  let t := Json.write p.1
  if acc.any (·.1 == t) then
    acc.map fun (s, g) => if s == t then (s, { g with values := g.values ++ [p.2] }) else (s, g)
  else acc ++ [(t, ⟨p.1, [p.2]⟩)]

/-- Pairs grouped by the canonical text of the key, in order of first appearance; each group keeps
the first key of its text. -/
def mergeByKey (pairs : List Pair) : List Group :=
  (pairs.foldl addByText []).map (·.2)

end KeyOrder

namespace Group

/-- The record of a group: `{"k": key, "vl": values}`. -/
def toJson (g : Group) : Json := .obj [("k", g.key), ("vl", .arr g.values)]

/-- Reads a group from its record, by name or by position. -/
def decode : Json → Except String Group :=
  Decode.struct "struct Group" 2
    (Group.mk <$> Decode.Fields.required "k" 0 .ok <*>
      Decode.Fields.required "vl" 1 (Decode.list .ok))

/-- The group made from one output pair: an array value is the list of values, anything else a
one-element list. -/
def ofOutput (p : Pair) : Group :=
  match p.2 with
  | .arr vs => ⟨p.1, vs⟩
  | v => ⟨p.1, [v]⟩

end Group

/-- The record of a pair: `{"p": [key, value]}`. -/
def pairRecord (p : Pair) : Json := .obj [("p", .arr [p.1, p.2])]

/-- Reads a pair: an array of a key and a value. -/
def decodePair : Json → Except String Pair
  | .arr [k, v] => .ok (k, v)
  | .arr xs =>
    if xs.length < 2 then
      .error ("invalid length " ++ toString xs.length ++ ", expected a tuple of size 2")
    else .error ("invalid length " ++ toString xs.length ++ ", expected fewer elements in array")
  | v => Decode.invalid v "a tuple of size 2"

/-- Reads the pair of a record, by name or by position. -/
def decodePairRecord : Json → Except String Pair :=
  Decode.struct "struct PairRecord" 1 (Decode.Fields.required "p" 0 decodePair)

end MapReduce
