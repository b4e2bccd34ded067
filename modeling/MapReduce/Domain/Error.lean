import MapReduce.Kv.Error

/-! The failures of the entity layer: a store failure as it is, an atomic update that ran out of
attempts, a rule of an entity that a value breaks, and a value of the wrong shape. -/

namespace MapReduce

/-- A failure of the entity layer. -/
inductive DomainError where
  | kv (e : KvError)
  /-- Every attempt of an atomic update met a concurrent change. -/
  | atomicUpdateExhausted (identity : String) (attempts : Nat)
  | validation (message : String)
  | serialization (message : String)
  deriving DecidableEq, Repr

namespace DomainError

/-- The message of the failure; a store failure reads as itself. -/
def message : DomainError → String
  | .kv e => e.message
  | .atomicUpdateExhausted id n =>
    "Actualización atómica agotada para [" ++ id ++ "] tras " ++ toString n ++ " intentos"
  | .validation m => "Error de validación: " ++ m
  | .serialization m => "Error de serialización: " ++ m

/-- The short name of the kind of failure. -/
def kind : DomainError → String
  | .kv e => e.kind
  | .atomicUpdateExhausted _ _ => "atomic_update_exhausted"
  | .validation _ => "validation"
  | .serialization _ => "serialization"

/-- Whether a key was missing. -/
def isNotFound : DomainError → Bool
  | .kv e => e.isNotFound
  | _ => false

/-- Whether a compare-and-swap failed. -/
def isPreconditionFailed : DomainError → Bool
  | .kv e => e.isPreconditionFailed
  | _ => false

/-- Whether a create-only write met an existing key. -/
def isAlreadyExists : DomainError → Bool
  | .kv e => e.isAlreadyExists
  | _ => false

end DomainError

end MapReduce
