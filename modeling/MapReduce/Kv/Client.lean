import MapReduce.Kv.Store

/-! Values of the store as JSON: each node holds the compact text of a value, and reading a node
that holds no JSON text, or no value of the expected shape, fails as an encoding failure. On top of
that sit ordered queues, whose children are appended and listed in name order, and named trees. -/

namespace MapReduce

namespace Kv

/-- Reads a stored text as JSON. -/
def decodeRaw (raw : String) : Except KvError Json :=
  match Json.read raw with
  | .ok v => .ok v
  | .error e => .error (.encoding (e.message raw))

/-- Reads a stored text as a value of a shape. -/
def decodeAs {α : Type} (dec : Json → Except String α) (raw : String) : Except KvError α := do
  let v ← decodeRaw raw
  match dec v with
  | .ok a => .ok a
  | .error e => .error (.encoding e)

/-- Lifts a failing computation into a store program. -/
def liftExcept {α : Type} (r : Except KvError α) : KvM α := fun s => (r, s)

/-- The version and value at a key. -/
def getAs {α : Type} (dec : Json → Except String α) (key : Identity) : KvM (Nat × α) := do
  let n ← get key
  let v ← liftExcept (decodeAs dec n.value)
  pure (n.version, v)

/-- The version and JSON value at a key. -/
def getJson (key : Identity) : KvM (Nat × Json) := getAs .ok key

/-- Writes a JSON value whether or not the key exists. -/
def setJson (key : Identity) (v : Json) : KvM Nat := set key (Json.write v)

/-- Writes a JSON value at a new key. -/
def createOnlyJson (key : Identity) (v : Json) : KvM Nat := createOnly key (Json.write v)

/-- Rewrites a key with a JSON value. -/
def updateOnlyJson (key : Identity) (v : Json) (expected : Option Nat) : KvM Nat :=
  updateOnly key (Json.write v) expected

/-- The children of a key with their versions and values, in the store's order; the first child
that does not read fails the whole listing. -/
def listAs {α : Type} (dec : Json → Except String α) (key : Identity) :
    KvM (List (String × Nat × α)) := do
  let kids ← listChildren key
  liftExcept (kids.mapM fun (name, n) => do
    let v ← decodeAs dec n.value
    pure (name, n.version, v))

/-- Appends a JSON value as a new child. -/
def appendJson (key : Identity) (v : Json) : KvM (String × Nat) := append key (Json.write v)

/-- The version and value at a key after a wait. -/
def watchAs {α : Type} (dec : Json → Except String α) (key : Identity) (since : Option Nat) :
    KvM (Nat × α) := do
  let n ← watch key since
  let v ← liftExcept (decodeAs dec n.value)
  pure (n.version, v)

end Kv

/-- An ordered queue: the children of `queues/...`, named in the order they were added. -/
structure Queue where
  path : Identity
  deriving Repr, Inhabited

namespace Queue

/-- The queue at an identity below the queue root. -/
def ofIdentity (id : Identity) : Queue := ⟨(Identity.ofList [Identity.queueRoot]).join id⟩

/-- The root key of the queue. -/
def root (q : Queue) : Identity := q.path

/-- Adds a record; answers its name. -/
def add (q : Queue) (v : Json) : KvM String := do
  let (name, _) ← Kv.appendJson q.root v
  pure name

/-- The record of a name. -/
def get (q : Queue) (name : String) : KvM Json := do
  let (_, v) ← Kv.getJson (q.root.child name)
  pure v

/-- Inserts into a list sorted by name. -/
def insertByName {α : Type} (x : String × α) : List (String × α) → List (String × α)
  | [] => [x]
  | y :: ys => if y.1 ≤ x.1 then y :: insertByName x ys else x :: y :: ys

/-- The records with their names, in name order. -/
def listWithNames (q : Queue) : KvM (List (String × Json)) := do
  let items ← Kv.listAs .ok q.root
  pure ((items.foldl (fun acc (n, _, v) => insertByName (n, v) acc) []))

/-- The records in name order. -/
def list (q : Queue) : KvM (List Json) := do
  let items ← q.listWithNames
  pure (items.map (·.2))

/-- Removes the record of a name. -/
def deleteKey (q : Queue) (name : String) : KvM Unit := Kv.delete (q.root.child name)

/-- Removes the whole queue. -/
def delete (q : Queue) : KvM Unit := Kv.deleteTree q.root

end Queue

/-- A named tree: the children of `entity_trees/...`. -/
structure Tree where
  path : Identity
  deriving Repr, Inhabited

namespace Tree

/-- The tree at an identity below the tree root. -/
def ofIdentity (id : Identity) : Tree := ⟨(Identity.ofList [Identity.treeRoot]).join id⟩

/-- The root key of the tree. -/
def root (t : Tree) : Identity := t.path

/-- Adds a named child that must not exist yet. -/
def add (t : Tree) (name : String) (v : Json) : KvM Nat := Kv.createOnlyJson (t.root.child name) v

/-- Writes a named child. -/
def set (t : Tree) (name : String) (v : Json) : KvM Nat := Kv.setJson (t.root.child name) v

/-- Rewrites an existing named child. -/
def update (t : Tree) (name : String) (v : Json) : KvM Nat :=
  Kv.updateOnlyJson (t.root.child name) v none

/-- The value of a named child. -/
def get (t : Tree) (name : String) : KvM Json := do
  let (_, v) ← Kv.getJson (t.root.child name)
  pure v

/-- The children and values, in the store's order. -/
def list (t : Tree) : KvM (List (String × Json)) := do
  let items ← Kv.listAs .ok t.root
  pure (items.map fun (n, _, v) => (n, v))

/-- The names of the children, in the store's order. -/
def listKeys (t : Tree) : KvM (List String) := do
  let kids ← Kv.listChildren t.root
  pure (kids.map (·.1))

/-- Whether the tree has a child. -/
def exists? (t : Tree) : KvM Bool := do
  let keys ← t.listKeys
  pure !keys.isEmpty

/-- Removes the whole tree. -/
def delete (t : Tree) : KvM Unit := Kv.deleteTree t.root

end Tree

end MapReduce
