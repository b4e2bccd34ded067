import MapReduce.Kv.Memory
import MapReduce.Sql.Session

/-! The store kept in a relational database: a table of nodes (key, parent key, name, value,
version) and a one-row table holding the global revision. Every write is a transaction that first
takes the next revision and is undone entirely on any failure, so a failed write consumes no
revision; deletes do not touch the revision. A failure of the database itself is reported with
its text after `db: `. -/

namespace MapReduce

/-- A store kept in a relational database. -/
structure RelationalStore where
  db : Sql.Database
  deriving Inhabited

namespace RelationalStore

open Sql

/-- The table of nodes. -/
def nodesTable : String := "kv_nodes"

/-- The table of the revision counter. -/
def revisionTable : String := "kv_revision"

/-- The columns of a node row, in the order they are read. -/
def nodeColumns : List String := ["node_key", "parent_key", "node_name", "node_value", "version"]

/-- The name of the schema migration. -/
def migrationName : String := "2024-01-01-000000_create_kv_nodes"

/-- The version the migration is recorded under. -/
def migrationVersion : String := "20240101000000"

/-- The statements that set up the schema. -/
def migrationScript : String :=
  "CREATE TABLE IF NOT EXISTS kv_nodes (node_key TEXT PRIMARY KEY NOT NULL, " ++
  "parent_key TEXT NOT NULL, node_name TEXT NOT NULL, node_value TEXT NOT NULL, " ++
  "version BIGINT NOT NULL); " ++
  "CREATE INDEX IF NOT EXISTS idx_kv_nodes_parent ON kv_nodes (parent_key); " ++
  "CREATE TABLE IF NOT EXISTS kv_revision (id INTEGER PRIMARY KEY NOT NULL, revision BIGINT NOT NULL); " ++
  "INSERT INTO kv_revision (id, revision) VALUES (1, 0);"

/-- The table that records applied migrations. -/
def migrationsTable : String := "__diesel_schema_migrations"

/-- The statement that creates the table of applied migrations. -/
def migrationsSetup : String :=
  "CREATE TABLE IF NOT EXISTS __diesel_schema_migrations (version VARCHAR(50) PRIMARY KEY NOT NULL, " ++
  "run_on TIMESTAMP NOT NULL DEFAULT CURRENT_TIMESTAMP)"

/-- Why a step on the connection failed: the database, or the store's own refusal. -/
inductive TxError where
  | db (e : String)
  | kv (e : KvError)

/-- Steps on a connection to the database. -/
abbrev Conn := ExceptT TxError (StateM Session)

/-- Runs a statement that changes rows: the number of rows it changed. -/
def change (d : Dml) : Conn Nat := do
  let (r, s) := (← get).dml d
  set s
  match r with
  | .ok n => pure n
  | .error e => throw (.db e)

/-- Runs a statement of any kind. -/
def command (st : Statement) : Conn Unit := do
  let (r, s) := (← get).execute st
  set s
  match r with
  | .ok _ => pure ()
  | .error e => throw (.db e)

/-- The rows a query answers. -/
def load (q : Query) : Conn (List (List Value)) := do
  match (← get).query q with
  | .ok rows => pure rows
  | .error e => throw (.db e)

/-- Runs steps as one transaction: committed when they succeed, rolled back when they fail.
When the rollback itself fails, because the transaction already ended, its failure is the
answer. -/
def transaction {α : Type} (body : Conn α) : Conn α := do
  command .begin
  tryCatch (do let a ← body; command .commit; pure a) fun e => do
    let (r, s) := (← get).execute .rollback
    set s
    match r with
    | .ok _ => throw e
    | .error re => throw (.db re)

/-- A column of a table, named with its table. -/
def qualified (table name : String) : Expr := .column (some table) name true

/-- The condition that a column equals a value. -/
def equals (table name : String) (v : Value) : Expr :=
  .binary (.cmp .eq) (qualified table name) (.lit v)

/-- A query of columns of a table under a condition, with an optional limit. -/
def selectFrom (table : String) (cols : List String) (cond : Expr) (limit : Option Nat) : Query :=
  .mk false (some (cols.map (qualified table))) (some (table, none)) (some cond) []
    (limit.map fun n => .lit (.int n)) none

/-- A text read from a column that may not be null. -/
def readText : Value → Except TxError String
  | .null => .error (.db "Unexpected null for non-null column")
  | v => .ok v.toText

/-- A 64-bit integer read from a column that may not be null. -/
def readInt : Value → Except TxError Int
  | .null => .error (.db "Unexpected null for non-null column")
  | v => .ok v.toInt64

/-- A version read from the table, taken modulo `2 ^ 64`. -/
def versionOf (i : Int) : Nat := (i % 18446744073709551616).toNat

/-- A node row as it is read: key, parent, name, value and version. -/
structure NodeRow where
  key : String
  parent : String
  name : String
  value : String
  version : Int

/-- Reads a node row from the values of its columns. -/
def NodeRow.read (vals : List Value) : Except TxError NodeRow := do
  let at_ (i : Nat) : Value := (vals[i]?).getD .null
  let key ← readText (at_ 0)
  let parent ← readText (at_ 1)
  let name ← readText (at_ 2)
  let value ← readText (at_ 3)
  let version ← readInt (at_ 4)
  .ok { key, parent, name, value, version }

/-- The node of a row. -/
def NodeRow.node (r : NodeRow) : Node := ⟨versionOf r.version, r.value⟩

/-- A decoding step on the connection. -/
def decoded {α : Type} : Except TxError α → Conn α
  | .ok a => pure a
  | .error e => throw e

/-- The row of a key. -/
def findNode (path : String) : Conn (Option NodeRow) := do
  let rows ← load (selectFrom nodesTable nodeColumns (equals nodesTable "node_key" (.text path)) (some 1))
  match rows with
  | [] => pure none
  | r :: _ => pure (some (← decoded (NodeRow.read r)))

/-- Advances the revision row and reads it back. -/
def nextRevision : Conn Int := do
  let _ ← change (.update none revisionTable
    [("revision", .binary (.arith .add) (qualified revisionTable "revision") (.lit (.int 1)))]
    (some (equals revisionTable "id" (.int 1))))
  let rows ← load (selectFrom revisionTable ["revision"] (equals revisionTable "id" (.int 1)) (some 1))
  match rows with
  | [] => throw (.db "Record not found")
  | r :: _ => decoded (readInt (r.headD .null))

/-- Inserts a node row. -/
def insertNode (path parent name value : String) (version : Int) : Conn Unit := do
  let _ ← change (.insert none nodesTable (some nodeColumns)
    (.values [[.lit (.text path), .lit (.text parent), .lit (.text name), .lit (.text value),
      .lit (.int version)]]))

/-- Rewrites the value and version of a node row, only where its version is `only` if given:
the number of rows rewritten. -/
def writeNode (path value : String) (version : Int) (only : Option Int) : Conn Nat :=
  let byKey := equals nodesTable "node_key" (.text path)
  let cond := match only with
    | some v => .binary .and byKey (equals nodesTable "version" (.int v))
    | none => byKey
  change (.update none nodesTable [("node_value", .lit (.text value)), ("version", .lit (.int version))]
    (some cond))

/-- Runs steps on the store's database: the answer or the failure, and the store after them,
which keeps what the steps did before a failure that does not undo it. -/
def perform {α : Type} (s : RelationalStore) (steps : Conn α) : Except KvError α × RelationalStore :=
  match (steps.run { db := s.db }).run with
  | (.ok a, sess) => (.ok a, ⟨sess.db⟩)
  | (.error (.db e), sess) => (.error (.storage ("db: " ++ e)), ⟨sess.db⟩)
  | (.error (.kv e), sess) => (.error e, ⟨sess.db⟩)

/-- Runs steps that only read. -/
def inspect {α : Type} (s : RelationalStore) (steps : Conn α) : Except KvError α := (s.perform steps).1

/-- Applies the schema migration unless it is recorded as applied. The migration and its record
run as one transaction; a failure of the migration's statements names the migration. -/
def migrate : Conn Unit := do
  let setup ← match parseScript migrationsSetup with
    | .ok stmts => pure stmts
    | .error e => throw (.db e)
  setup.forM command
  let versions ← load (.mk false (some [.column none "version" false]) (some (migrationsTable, none))
    none [] none none)
  let applied ← versions.mapM fun r => decoded (readText (r.headD .null))
  if applied.contains migrationVersion then return
  transaction do
    let s ← get
    let (r, s) := s.executeText migrationScript
    set s
    match r with
    | .ok () => pure ()
    | .error e => throw (.db ("Failed to run " ++ migrationName ++ " with: " ++ e))
    let _ ← change (.insert none migrationsTable (some ["version"]) (.values [[.lit (.text migrationVersion)]]))

/-- Opens a store on a database, applying the migration. -/
def connect (db : Database) : Except KvError RelationalStore :=
  match (migrate.run { db }).run with
  | (.ok (), sess) => .ok ⟨sess.db⟩
  | (.error (.db e), _) => .error (.storage ("migraciones: " ++ e))
  | (.error (.kv e), _) => .error e

/-- The full path, parent path and name of a key; the empty identity has none. -/
def splitKey (key : Identity) : Except KvError (String × String × String) := do
  let full ← key.encode
  match key.segments.getLast? with
  | some name => .ok (full, "/".intercalate key.segments.dropLast, name)
  | none => .error (.reservedCharacter "identidad vacía")

/-- The node at a key. -/
def get (s : RelationalStore) (key : Identity) : Except KvError Node := do
  let path ← key.encode
  match ← s.inspect (findNode path) with
  | some r => .ok r.node
  | none => .error (.notFound path)

/-- A write that fails before it reaches the database. -/
def refuse {α : Type} (s : RelationalStore) (e : KvError) : Except KvError α × RelationalStore := (.error e, s)

/-- Writes a key whether or not it exists. -/
def set (s : RelationalStore) (key : Identity) (value : String) : Except KvError Nat × RelationalStore :=
  match splitKey key with
  | .error e => s.refuse e
  | .ok (full, parent, name) =>
    let (r, s) := s.perform <| transaction do
      let v ← nextRevision
      match ← findNode full with
      | some _ => let _ ← writeNode full value v none
      | none => insertNode full parent name value v
      pure v
    (r.map versionOf, s)

/-- Writes a key that does not exist yet. -/
def createOnly (s : RelationalStore) (key : Identity) (value : String) : Except KvError Nat × RelationalStore :=
  match splitKey key with
  | .error e => s.refuse e
  | .ok (full, parent, name) =>
    let (r, s) := s.perform <| transaction do
      let v ← nextRevision
      if (← findNode full).isSome then throw (.kv (.alreadyExists full))
      insertNode full parent name value v
      pure v
    (r.map versionOf, s)

/-- Rewrites an existing key; with an expected version, only if the key holds that version. -/
def updateOnly (s : RelationalStore) (key : Identity) (value : String) (expected : Option Nat) :
    Except KvError Nat × RelationalStore :=
  match key.encode with
  | .error e => s.refuse e
  | .ok full =>
    let (r, s) := s.perform <| transaction do
      let v ← nextRevision
      let current ← match ← findNode full with
        | some r => pure r
        | none =>
          if expected.isSome then throw (.kv (.preconditionFailed (full ++ " no existe")))
          else throw (.kv (.notFound full))
      if let some e := expected then
        if versionOf current.version ≠ e then
          throw (.kv (.preconditionFailed (full ++ " esperada v" ++ toString e ++
            ", almacenada v" ++ toString current.version)))
      let n ← writeNode full value v (some current.version)
      if n ≠ 1 then throw (.kv (.preconditionFailed full))
      pure v
    (r.map versionOf, s)

/-- Removes a key. -/
def delete (s : RelationalStore) (key : Identity) : Except KvError Unit × RelationalStore :=
  match key.encode with
  | .error e => s.refuse e
  | .ok full =>
    s.perform do
      let n ← change (.delete nodesTable (some (equals nodesTable "node_key" (.text full))))
      if n = 0 then throw (.kv (.notFound full))

/-- Removes a key and everything below it; fails when nothing was there. Keys are first looked
up with a pattern and then kept only when the key is the root or starts with the root and a
slash, since `_` in the pattern matches any character. -/
def deleteTree (s : RelationalStore) (key : Identity) : Except KvError Unit × RelationalStore :=
  match key.encode with
  | .error e => s.refuse e
  | .ok full =>
    let dir := full ++ "/"
    let cond : Expr := .binary .or (equals nodesTable "node_key" (.text full))
      (.like false false (qualified nodesTable "node_key") (.lit (.text (dir ++ "%"))) none)
    s.perform do
      let rows ← load (selectFrom nodesTable ["node_key"] cond none)
      let candidates ← rows.mapM fun r => decoded (readText (r.headD .null))
      let keys := candidates.filter fun k => k == full || k.startsWith dir
      if keys.isEmpty then throw (.kv (.notFound full))
      let _ ← change (.delete nodesTable
        (some (.inList false (qualified nodesTable "node_key") (keys.map fun k => .lit (.text k)))))

/-- The rows whose parent is the key, in row order. -/
def listChildren (s : RelationalStore) (key : Identity) : Except KvError (List (String × Node)) := do
  let full ← key.encode
  let rows ← s.inspect do
    let rows ← load (selectFrom nodesTable nodeColumns (equals nodesTable "parent_key" (.text full)) none)
    rows.mapM fun r => decoded (NodeRow.read r)
  .ok (rows.map fun r => (r.name, r.node))

/-- Adds a child named after the next revision. -/
def append (s : RelationalStore) (key : Identity) (value : String) :
    Except KvError (String × Nat) × RelationalStore :=
  match key.encode with
  | .error e => s.refuse e
  | .ok parent =>
    let (r, s) := s.perform <| transaction do
      let v ← nextRevision
      let name := inOrderName (versionOf v)
      insertNode (parent ++ "/" ++ name) parent name value v
      pure (name, v)
    (r.map fun (name, v) => (name, versionOf v), s)

/-- The outcome of a wait on a key that nothing else writes meanwhile, as `MemoryStore.watch`
says, without a closed state. -/
def watch (s : RelationalStore) (key : Identity) (since : Option Nat) : Except KvError Node := do
  let current ← match s.get key with
    | .ok n => .ok (some n)
    | .error (.notFound _) => .ok none
    | .error e => .error e
  let baseline : Option Nat := since.orElse fun _ => current.map Node.version
  match current, baseline with
  | some n, some b =>
    if n.version ≠ b then .ok n else .error (.waitFault ("timeout esperando cambios en " ++ key.display))
  | some n, none => .ok n
  | none, some _ => .error (.notFound key.display)
  | none, none => .error (.waitFault ("timeout esperando cambios en " ++ key.display))

/-- The keys of every node row, in row order; none when the table cannot be read. -/
def paths (s : RelationalStore) : List String :=
  match s.db.table? nodesTable with
  | some t =>
    match t.columnIndex? "node_key" with
    | some i => t.rows.map fun r => ((r.values[i]?).getD .null).toText
    | none => []
  | none => []

end RelationalStore

end MapReduce
