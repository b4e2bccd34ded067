import MapReduce.Sql.Engine
import MapReduce.Sql.Parse

/-! A connection to a database: statements run one at a time, each either entirely or not at
all, inside an explicit transaction or each on its own.

A failing statement leaves the database as it was before the statement, except after a failure
of kind `FAIL`, which keeps what the statement changed before it failed, and one of kind
`ROLLBACK`, which also undoes the open transaction and ends it. -/

namespace MapReduce.Sql

/-- A connection: the database, and the database as it was when the open transaction began. -/
structure Session where
  db : Database
  /-- The state to return to on `ROLLBACK`, when a transaction is open. -/
  saved : Option Database := none
  deriving Inhabited

/-- Changes a table's definition. -/
def Database.alter (db : Database) (tname : String) (change : Alteration) : Except String Database := do
  let t ← db.tableOrFail tname
  match change with
  | .addColumn c =>
    if (t.columnIndex? c.name).isSome then throw ("duplicate column name: " ++ c.name)
    if c.primaryKey then throw "Cannot add a PRIMARY KEY column"
    if c.unique then throw "Cannot add a UNIQUE column"
    let d ← match c.default with
      | none => .ok Value.null
      | some e => match compile db {} e with
        | .error err => .error err
        | .ok term => match eval db {} term with
          | .ok v => .ok v
          | .error f => .error f.message
    if c.notNull && d.isNull then throw "Cannot add a NOT NULL column with default value NULL"
    let col ← Column.ofDefinition c
    let stored := d.applyAffinity col.affinity
    .ok (db.putTable { t with columns := t.columns ++ [col],
                              rows := t.rows.map fun r => { r with values := r.values ++ [stored] } })
  | .renameTo n =>
    if (db.table? n).isSome || db.hasIndex n then
      throw ("there is already another table or index with this name: " ++ n)
    let renamed := { t with name := n }
    .ok { db with
      tables := db.tables.map (fun u => if nameEq u.name t.name then renamed else u),
      indexes := db.indexes.map (fun i => if nameEq i.table t.name then { i with table := n } else i),
      triggers := db.triggers.map (fun tr => if nameEq tr.table t.name then { tr with table := n } else tr) }
  | .renameColumn old new =>
    match t.columnIndex? old with
    | none => throw ("no such column: \"" ++ old ++ "\"")
    | some i =>
      if (t.columnIndex? new).isSome then throw ("duplicate column name: " ++ new)
      .ok (db.putTable { t with columns := t.columns.modify i fun c => { c with name := new } })
  | .dropColumn n =>
    match t.columnIndex? n with
    | none => throw ("no such column: \"" ++ n ++ "\"")
    | some i =>
      if t.rowidColumn == some i || t.keys.any (fun k => k.columns.contains i) then
        throw ("cannot drop " ++ (if t.rowidColumn == some i then "PRIMARY KEY" else "UNIQUE") ++
          " column: \"" ++ n ++ "\"")
      if t.columns.length ≤ 1 then throw ("cannot drop column \"" ++ n ++ "\": no other columns exist")
      let shift (j : Nat) : Nat := if j > i then j - 1 else j
      .ok (db.putTable { t with
        columns := t.columns.eraseIdx i,
        rowidColumn := t.rowidColumn.map shift,
        keys := t.keys.map fun k => { k with columns := k.columns.map shift },
        rows := t.rows.map fun r => { r with values := r.values.eraseIdx i } })

/-- Applies a statement that changes definitions. -/
def Database.define (db : Database) : Statement → Except String Database
  | .createTable ine name cols cons => do
    let db' ← db.createTable ine name cols cons
    match db'.table? name with
    | some t =>
      let _ ← t.checks.mapM fun (e, _) => checkTerm db' t e
      .ok db'
    | none => .ok db'
  | .createIndex unique ine name table cols => db.createIndex unique ine name table cols
  | .createTrigger ine trig => db.createTrigger ine trig
  | .dropTable ie name => db.dropTable ie name
  | .dropIndex ie name => db.dropIndex ie name
  | .dropTrigger ie name => db.dropTrigger ie name
  | .alter table change => db.alter table change
  | _ => .ok db

namespace Session

/-- Runs a compiled statement: the number of rows it changed, or why it failed, with the
connection in the state the failure leaves. -/
def runAction (s : Session) (a : Action) : Except String Nat × Session :=
  match (Sql.runAction {} none a).run s.db with
  | (.ok n, db) => (.ok n, { s with db })
  | (.error f, db) =>
    match f.kind with
    | .fail => (.error f.message, { s with db })
    | .rollback => (.error f.message, { db := s.saved.getD s.db, saved := none })
    | _ => (.error f.message, s)

/-- Runs a statement that reads or changes rows: the number of rows it changed. -/
def dml (s : Session) (d : Dml) : Except String Nat × Session :=
  match s.db.prepare d with
  | .error e => (.error e, s)
  | .ok a => s.runAction a

/-- Runs a statement: the number of rows it changed. -/
def execute (s : Session) : Statement → Except String Nat × Session
  | .dml d => s.dml d
  | .begin =>
    if s.saved.isSome then (.error "cannot start a transaction within a transaction", s)
    else (.ok 0, { s with saved := some s.db })
  | .commit =>
    if s.saved.isSome then (.ok 0, { s with saved := none })
    else (.error "cannot commit - no transaction is active", s)
  | .rollback =>
    match s.saved with
    | some db => (.ok 0, { db, saved := none })
    | none => (.error "cannot rollback - no transaction is active", s)
  | .noop => (.ok 0, s)
  | st =>
    match s.db.define st with
    | .ok db => (.ok 0, { s with db })
    | .error e => (.error e, s)

/-- Runs statements in order, stopping at the first failure. -/
def executeAll (s : Session) : List Statement → Except String Unit × Session
  | [] => (.ok (), s)
  | st :: rest =>
    match s.execute st with
    | (.ok _, s) => executeAll s rest
    | (.error e, s) => (.error e, s)

/-- Runs the statements of a text in order, stopping at the first failure. -/
def executeText (s : Session) (src : String) : Except String Unit × Session :=
  match parseScript src with
  | .error e => (.error e, s)
  | .ok stmts => s.executeAll stmts

/-- The rows a query answers. -/
def query (s : Session) (q : Query) : Except String (List (List Value)) :=
  match compileQuery s.db {} q with
  | .error e => .error e
  | .ok sel => match runSelect s.db {} sel with
    | .ok rows => .ok rows
    | .error f => .error f.message

end Session

end MapReduce.Sql
