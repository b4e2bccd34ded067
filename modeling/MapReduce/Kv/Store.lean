import MapReduce.Kv.Relational
import MapReduce.Json.Read
import MapReduce.Json.Write

/-! The store as one value over either backend, with the programs that run on it. A store may also
carry rivals: writers that race the next compare-and-swap updates of the entities of a class, each
rewriting the current value (optionally patched) just before the update, so that the update finds
a newer version. -/

namespace MapReduce

/-- The node storage underneath a store. -/
inductive Backend where
  | memory (m : MemoryStore)
  | relational (r : RelationalStore)
  deriving Inhabited

/-- A writer that races the next `remaining` compare-and-swap updates of the entities of class
`entityClass`, the paths `entities/<entityClass>/…`, rewriting the stored value with the top-level
fields of `patch` set. -/
structure Rival where
  entityClass : String
  remaining : Nat
  patch : List (String × Json)
  deriving Repr, Inhabited

/-- A store: its backend and the rivals racing it. -/
structure Store where
  backend : Backend
  rivals : List Rival := []
  deriving Inhabited

namespace Backend

/-- The node at a key. -/
def get : Backend → Identity → Except KvError Node
  | .memory m, k => m.get k
  | .relational r, k => r.get k

/-- A write on the memory backend, which stays as it was when the write fails. -/
def onMemory {α : Type} (m : MemoryStore) : Except KvError (α × MemoryStore) → Except KvError α × Backend
  | .ok (a, m') => (.ok a, .memory m')
  | .error e => (.error e, .memory m)

/-- A write on the relational backend, which keeps what the write did before it failed. -/
def onRelational {α : Type} : Except KvError α × RelationalStore → Except KvError α × Backend
  | (r, s) => (r, .relational s)

/-- Writes a key whether or not it exists. -/
def set : Backend → Identity → String → Except KvError Nat × Backend
  | .memory m, k, v => onMemory m (m.set k v)
  | .relational r, k, v => onRelational (r.set k v)

/-- Writes a key that does not exist yet. -/
def createOnly : Backend → Identity → String → Except KvError Nat × Backend
  | .memory m, k, v => onMemory m (m.createOnly k v)
  | .relational r, k, v => onRelational (r.createOnly k v)

/-- Rewrites an existing key, with an optional expected version. -/
def updateOnly : Backend → Identity → String → Option Nat → Except KvError Nat × Backend
  | .memory m, k, v, e => onMemory m (m.updateOnly k v e)
  | .relational r, k, v, e => onRelational (r.updateOnly k v e)

/-- Removes a key. -/
def delete : Backend → Identity → Except KvError Unit × Backend
  | .memory m, k => onMemory m ((m.delete k).map fun m => ((), m))
  | .relational r, k => onRelational (r.delete k)

/-- Removes a key and everything below it. -/
def deleteTree : Backend → Identity → Except KvError Unit × Backend
  | .memory m, k => onMemory m ((m.deleteTree k).map fun m => ((), m))
  | .relational r, k => onRelational (r.deleteTree k)

/-- The direct children of a key. -/
def listChildren : Backend → Identity → Except KvError (List (String × Node))
  | .memory m, k => m.listChildren k
  | .relational r, k => r.listChildren k

/-- Adds a child named after the next revision. -/
def append : Backend → Identity → String → Except KvError (String × Nat) × Backend
  | .memory m, k, v => onMemory m (m.append k v)
  | .relational r, k, v => onRelational (r.append k v)

/-- The outcome of a wait on a key. -/
def watch : Backend → Identity → Option Nat → Except KvError Node
  | .memory m, k, s => m.watch k s
  | .relational r, k, s => r.watch k s

/-- The paths of every node. -/
def paths : Backend → List String
  | .memory m => m.nodes.map (·.1)
  | .relational r => r.paths

end Backend

/-- Programs on a store: they may fail, and the store keeps what was done before a failure. -/
abbrev KvM := ExceptT KvError (StateM Store)

namespace Store

/-- The store on a fresh in-memory backend. -/
def emptyMemory : Store := ⟨.memory {}, []⟩

/-- Applies a rival's patch to a raw value. -/
def patchRaw (patch : List (String × Json)) (raw : String) : String :=
  match Json.read? raw with
  | some (.obj kvs) => Json.write (.obj (patch.foldl (fun acc (k, v) => Json.insertMember k v acc) kvs))
  | some v => Json.write v
  | none => raw

/-- Lets the first rival racing `path` write it over before a compare-and-swap update: the rival
reads the current value and, when there is one, writes it back patched; the failure of that
write is the answer. -/
def race (s : Store) (key : Identity) (path : String) : Except KvError Unit × Store :=
  let rec pick : List Rival → Option (Rival × List Rival)
    | [] => none
    | r :: rest =>
      if r.remaining > 0 && (pathSegments path).take 2 == ["entities", r.entityClass] then
        some (r, { r with remaining := r.remaining - 1 } :: rest)
      else (pick rest).map fun (found, rest') => (found, r :: rest')
  match pick s.rivals with
  | none => (.ok (), s)
  | some (r, rivals) =>
    match s.backend.get key with
    | .ok n =>
      let (result, backend) := s.backend.set key (patchRaw r.patch n.value)
      (result.map fun _ => (), { backend, rivals })
    | .error _ => (.ok (), { s with rivals })

end Store

namespace Kv

/-- Runs a backend read. -/
def read {α : Type} (f : Backend → Except KvError α) : KvM α := fun s => (f s.backend, s)

/-- Runs a backend write; the backend keeps what the write did, also when it fails. -/
def write {α : Type} (f : Backend → Except KvError α × Backend) : KvM α := fun s =>
  let (r, b) := f s.backend
  (r, { s with backend := b })

/-- The node at a key. -/
def get (key : Identity) : KvM Node := read (·.get key)

/-- Writes a key whether or not it exists. -/
def set (key : Identity) (value : String) : KvM Nat := write (·.set key value)

/-- Writes a key that does not exist yet. -/
def createOnly (key : Identity) (value : String) : KvM Nat := write (·.createOnly key value)

/-- Rewrites an existing key, with an optional expected version; a rival racing the key writes
first, and its failure is the update's. -/
def updateOnly (key : Identity) (value : String) (expected : Option Nat) : KvM Nat := fun s =>
  let (raced, s) := match expected, key.encode with
    | some _, .ok path => s.race key path
    | _, _ => (.ok (), s)
  match raced with
  | .ok () => write (·.updateOnly key value expected) s
  | .error e => (.error e, s)

/-- Removes a key. -/
def delete (key : Identity) : KvM Unit := write (·.delete key)

/-- Removes a key and everything below it. -/
def deleteTree (key : Identity) : KvM Unit := write (·.deleteTree key)

/-- The direct children of a key. -/
def listChildren (key : Identity) : KvM (List (String × Node)) := read (·.listChildren key)

/-- Adds a child named after the next revision. -/
def append (key : Identity) (value : String) : KvM (String × Nat) := write (·.append key value)

/-- The outcome of a wait on a key. -/
def watch (key : Identity) (since : Option Nat) : KvM Node := read (·.watch key since)

end Kv

end MapReduce
