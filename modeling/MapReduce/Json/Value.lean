import MapReduce.Number.Binary64

/-! JSON values. A number is an exact integer in `[-2 ^ 63, 2 ^ 64)` or a finite binary64 number;
an object holds its members sorted by key, each key once. -/

namespace MapReduce

/-- A JSON number: an integer in `[-2 ^ 63, 2 ^ 64)`, or a finite binary64 number. -/
inductive Number where
  | int (i : Int)
  | float (f : Binary64)
  deriving DecidableEq, Repr, Inhabited

/-- A JSON value. The members of an object are sorted by key, each key once. -/
inductive Json where
  | null
  | bool (b : Bool)
  | num (n : Number)
  | str (s : String)
  | arr (xs : List Json)
  | obj (kvs : List (String × Json))
  deriving Repr, Inhabited

namespace Number

/-- The least integer kept exact. -/
def intMin : Int := -9223372036854775808

/-- One more than the greatest integer kept exact. -/
def intBound : Int := 18446744073709551616

/-- The number for an integer: exact inside `[-2 ^ 63, 2 ^ 64)`, rounded outside. -/
def ofInt (i : Int) : Number :=
  if intMin ≤ i ∧ i < intBound then .int i else .float (Binary64.ofInt i)

/-- The integer when it lies in the signed 64-bit range. -/
def toInt64? : Number → Option Int
  | .int i => if i < 9223372036854775808 then some i else none
  | .float _ => none

/-- The nonnegative integer when it lies in the unsigned 64-bit range. -/
def toNat? : Number → Option Nat
  | .int i => if 0 ≤ i then some i.toNat else none
  | .float _ => none

/-- The nearest binary64 number. -/
def toBinary64 : Number → Binary64
  | .int i => Binary64.ofInt i
  | .float f => f

end Number

namespace Json

/-- The integer value. -/
def int (i : Int) : Json := .num (Number.ofInt i)

/-- The natural number value. -/
def nat (n : Nat) : Json := .num (Number.ofInt n)

/-- The string value, or `null` when there is none. -/
def optStr : Option String → Json
  | some s => .str s
  | none => .null

/-- The member of `key` in a member list sorted by key. -/
def lookup (kvs : List (String × Json)) (key : String) : Option Json :=
  (kvs.find? (·.1 == key)).map (·.2)

/-- Inserts a member into a member list sorted by key, replacing a member of the same key. -/
def insertMember (key : String) (v : Json) : List (String × Json) → List (String × Json)
  | [] => [(key, v)]
  | (k, w) :: rest =>
    if key < k then (key, v) :: (k, w) :: rest
    else if key = k then (key, v) :: rest
    else (k, w) :: insertMember key v rest

/-- The object with the given members, later members replacing earlier ones of the same key. -/
def mkObj (kvs : List (String × Json)) : Json :=
  .obj (kvs.foldl (fun acc (k, v) => insertMember k v acc) [])

/-- The member `key` of an object. -/
def get? (j : Json) (key : String) : Option Json :=
  match j with
  | .obj kvs => lookup kvs key
  | _ => none

/-- The object with member `key` set. Other values are left as they are. -/
def set (j : Json) (key : String) (v : Json) : Json :=
  match j with
  | .obj kvs => .obj (insertMember key v kvs)
  | other => other

/-- The object without member `key`. -/
def erase (j : Json) (key : String) : Json :=
  match j with
  | .obj kvs => .obj (kvs.filter (·.1 != key))
  | other => other

/-- The string, if this is one. -/
def getStr? : Json → Option String
  | .str s => some s
  | _ => none

/-- The elements, if this is an array. -/
def getArr? : Json → Option (List Json)
  | .arr xs => some xs
  | _ => none

/-- The boolean, if this is one. -/
def getBool? : Json → Option Bool
  | .bool b => some b
  | _ => none

/-- The integer, if this is a number in the signed 64-bit range. -/
def getInt64? : Json → Option Int
  | .num n => n.toInt64?
  | _ => none

/-- The natural number, if this is a number in the unsigned 64-bit range. -/
def getNat? : Json → Option Nat
  | .num n => n.toNat?
  | _ => none

/-- Whether the value is `null`. -/
def isNull : Json → Bool
  | .null => true
  | _ => false

end Json

end MapReduce
