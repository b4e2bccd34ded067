import MapReduce.Domain.Entity
import MapReduce.Kv.Client

/-! Entities in the store. Each lives at `entities/<class>/<identity>` and is read together with
the version it was read at. Saving is enforce-pristine: a new entity is created only if absent, a
read one is written only if nobody changed it since. An atomic update reads, changes and saves,
and starts again on a concurrent change, up to a ceiling of attempts. -/

namespace MapReduce

/-- Programs of the entity layer: they may fail, and the store keeps what was done before. -/
abbrev DomainM := ExceptT DomainError (StateM Store)

/-- Runs a store program as an entity-layer program. -/
def liftKv {α : Type} (m : KvM α) : DomainM α := ExceptT.adapt DomainError.kv m

/-- Fails, or goes on with a value. -/
def liftDomain {α : Type} (r : Except DomainError α) : DomainM α := fun s => (r, s)

/-- An entity with the version it was read or saved at; none when it is not stored yet. -/
structure Record (α : Type) where
  data : α
  version : Option Nat := none
  deriving Repr, Inhabited

namespace Record

/-- Whether the record has been stored. -/
def isPersisted {α : Type} (r : Record α) : Bool := r.version.isSome

end Record

namespace EntityStore

/-- The default ceiling of attempts of an atomic update. -/
def defaultMaxAttempts : Nat := 5

/-- The key of an entity of a class with the given identity. -/
def entityKey (α : Type) [Entity α] (identity : List String) : Identity :=
  ⟨[Identity.entityRoot, Entity.className α] ++ identity⟩

/-- The key of an entity. -/
def recordKey {α : Type} [Entity α] (x : α) : Identity := entityKey α (Entity.identity x)

/-- Saves a record after its check: created when it has no version, else written only over
that version. -/
def save {α : Type} [Entity α] (r : Record α) : DomainM (Record α) := do
  let data ← liftDomain (Entity.presave r.data)
  let key := recordKey data
  let v ← match r.version with
    | none => liftKv (Kv.createOnly key (Entity.toText data))
    | some e => liftKv (Kv.updateOnly key (Entity.toText data) (some e))
  pure ⟨data, some v⟩

/-- Creates a new entity. -/
def create {α : Type} [Entity α] (x : α) : DomainM (Record α) := save ⟨x, none⟩

/-- Reads an entity. -/
def load (α : Type) [Entity α] (identity : List String) : DomainM (Record α) := do
  let (v, x) ← liftKv (Kv.getAs Entity.decode (entityKey α identity))
  pure ⟨x, some v⟩

/-- Reads an entity; a missing one is none. -/
def tryLoad (α : Type) [Entity α] (identity : List String) : DomainM (Option (Record α)) :=
  fun s =>
    match (load α identity).run s with
    | (.ok r, s') => (.ok (some r), s')
    | (.error e, s') => if e.isNotFound then (.ok none, s') else (.error e, s')

/-- Reads again the entity a record names. -/
def refresh {α : Type} [Entity α] (r : Record α) : DomainM (Record α) := do
  let (v, x) ← liftKv (Kv.getAs Entity.decode (recordKey r.data))
  pure ⟨x, some v⟩

/-- Removes an entity. -/
def delete (α : Type) [Entity α] (identity : List String) : DomainM Unit :=
  liftKv (Kv.delete (entityKey α identity))

/-- The entities below a parent identity, in the store's order. -/
def list (α : Type) [Entity α] (parent : List String) : DomainM (List (Record α)) := do
  let items ← liftKv (Kv.listAs Entity.decode (entityKey α parent))
  pure (items.map fun (_, v, x) => ⟨x, some v⟩)

/-- The entity after a wait for a change from `since` (or from its current version). -/
def watch (α : Type) [Entity α] (identity : List String) (since : Option Nat) :
    DomainM (Record α) := do
  let (v, x) ← liftKv (Kv.watchAs Entity.decode (entityKey α identity) since)
  pure ⟨x, some v⟩

/-- The attempts of an atomic update from attempt `k` on, with `fuel` attempts left. Each reads
the entity (a failure ends all), changes it by `mutate k` (a failure ends all) and saves it; a
concurrent change moves on to the next attempt, any other failure ends all. Besides the outcome it
answers how many times `mutate` ran. -/
def attempts {α β : Type} [Entity α] (identity : List String)
    (mutate : Nat → α → DomainM (α × β)) : Nat → Nat → Nat → StateM Store (Option (Except DomainError (Record α × β)) × Nat)
  | 0, _, calls => pure (none, calls)
  | fuel + 1, k, calls => fun s =>
    match (load α identity).run s with
    | (.error e, s) => ((some (.error e), calls), s)
    | (.ok r, s) =>
      match (mutate k r.data).run s with
      | (.error e, s) => ((some (.error e), calls + 1), s)
      | (.ok (x, b), s) =>
        match (save ⟨x, r.version⟩).run s with
        | (.ok r', s) => ((some (.ok (r', b)), calls + 1), s)
        | (.error e, s) =>
          if e.isPreconditionFailed then attempts identity mutate fuel (k + 1) (calls + 1) s
          else ((some (.error e), calls + 1), s)

/-- An atomic update with a ceiling of attempts (at least one), answering the outcome and the
number of calls of `mutate`. The mutation receives the number of its attempt. -/
def atomicUpdateCounting {α β : Type} [Entity α] (maxAttempts : Nat) (identity : List String)
    (mutate : Nat → α → DomainM (α × β)) : StateM Store (Except DomainError (Record α × β) × Nat) := do
  let ceiling := max maxAttempts 1
  let (r, calls) ← attempts identity mutate ceiling 1 0
  match r with
  | some r => pure (r, calls)
  | none =>
    pure (.error (.atomicUpdateExhausted (Entity.className α ++ "/" ++ "/".intercalate identity)
      ceiling), calls)

/-- An atomic update with a ceiling of attempts (at least one). -/
def atomicUpdate {α β : Type} [Entity α] (maxAttempts : Nat) (identity : List String)
    (mutate : α → Except DomainError (α × β)) : DomainM (Record α × β) := fun s =>
  let ((r, _), s) := (atomicUpdateCounting maxAttempts identity fun _ x => liftDomain (mutate x)) s
  (r, s)

end EntityStore

end MapReduce
