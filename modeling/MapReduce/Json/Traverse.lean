import MapReduce.Json.Write

/-! Walking a whole value: renaming every string and key, and putting every array in the order of
its elements' compact texts. Both go by structural recursion through the value and its lists of
elements and members. -/

namespace MapReduce

namespace Json

/-- Values in the order of their compact texts. -/
def sortByText (xs : List Json) : List Json :=
  xs.mergeSort fun a b => write a ≤ write b

mutual

/-- Applies a function to every string and every member key of a value; objects are rebuilt
through the sorted insert, so keys that become equal keep the later member. -/
def mapText (f : String → String) : Json → Json
  | .str x => .str (f x)
  | .arr xs => .arr (mapTextElems f xs)
  | .obj kvs => mkObj (mapTextMembers f kvs)
  | v => v

/-- `mapText` on each element. -/
def mapTextElems (f : String → String) : List Json → List Json
  | [] => []
  | x :: xs => mapText f x :: mapTextElems f xs

/-- `mapText` on each member, its key included. -/
def mapTextMembers (f : String → String) : List (String × Json) → List (String × Json)
  | [] => []
  | (k, v) :: rest => (f k, mapText f v) :: mapTextMembers f rest

end

mutual

/-- Sorts every array of a value, innermost first, by the compact texts of its elements; object
members keep their keys. -/
def deepSort : Json → Json
  | .arr xs => .arr (sortByText (deepSortElems xs))
  | .obj kvs => .obj (deepSortMembers kvs)
  | v => v

/-- `deepSort` on each element. -/
def deepSortElems : List Json → List Json
  | [] => []
  | x :: xs => deepSort x :: deepSortElems xs

/-- `deepSort` on each member's value. -/
def deepSortMembers : List (String × Json) → List (String × Json)
  | [] => []
  | (k, v) :: rest => (k, deepSort v) :: deepSortMembers rest

end

end Json

end MapReduce
