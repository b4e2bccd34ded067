/-! The failures of the key-value store. Each carries the text that explains it: a path, a segment
or a detail. -/

namespace MapReduce

/-- A failure of the key-value store. -/
inductive KvError where
  /-- A create-only write met an existing key. -/
  | alreadyExists (path : String)
  /-- The key, or the directory, is missing. -/
  | notFound (path : String)
  /-- A compare-and-swap found another version than expected. -/
  | preconditionFailed (detail : String)
  /-- An identity segment is empty or holds a reserved character. -/
  | reservedCharacter (segment : String)
  /-- A wait ended without a change. -/
  | waitFault (detail : String)
  /-- A stored value is no JSON text. -/
  | encoding (detail : String)
  /-- The storage underneath failed. -/
  | storage (detail : String)
  deriving DecidableEq, Repr

namespace KvError

/-- The message of the failure. -/
def message : KvError → String
  | .alreadyExists p => "Ya existe: " ++ p
  | .notFound p => "No encontrado: " ++ p
  | .preconditionFailed d => "Precondición fallida: " ++ d
  | .reservedCharacter s => "Carácter reservado en segmento: " ++ s
  | .waitFault d => "Falla de espera: " ++ d
  | .encoding d => "Error de codificación: " ++ d
  | .storage d => "Error de almacenamiento: " ++ d

/-- The short name of the kind of failure. -/
def kind : KvError → String
  | .alreadyExists _ => "already_exists"
  | .notFound _ => "not_found"
  | .preconditionFailed _ => "precondition_failed"
  | .reservedCharacter _ => "reserved_character"
  | .waitFault _ => "wait_fault"
  | .encoding _ => "serialization"
  | .storage _ => "storage"

/-- Whether the key was missing. -/
def isNotFound : KvError → Bool
  | .notFound _ => true
  | _ => false

/-- Whether a compare-and-swap failed. -/
def isPreconditionFailed : KvError → Bool
  | .preconditionFailed _ => true
  | _ => false

/-- Whether a create-only write met an existing key. -/
def isAlreadyExists : KvError → Bool
  | .alreadyExists _ => true
  | _ => false

end KvError

end MapReduce
