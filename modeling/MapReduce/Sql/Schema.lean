import MapReduce.Sql.Syntax

/-! Tables, indexes and triggers of a relational database.

Every row has a row number, and a table keeps its rows in the order of their numbers. A column
declared `INTEGER PRIMARY KEY` is the row number itself; any other primary key, each `UNIQUE`
column or constraint and each unique index is a key on which no two rows may agree, rows with a
null in the key excepted. Triggers are kept newest first, the order in which they run. Names of
tables, columns, indexes and triggers are compared without regard to ASCII case. -/

namespace MapReduce.Sql

/-- Whether two names are equal up to ASCII case. -/
def nameEq (a b : String) : Bool := a == b || a.toLower == b.toLower

/-- A column of a table. -/
structure Column where
  name : String
  type : String
  affinity : Affinity
  notNull : Bool
  default : Option Expr
  /-- The collation its texts are compared by. -/
  collation : Collation := .binary
  deriving Repr, Inhabited

/-- A set of columns on which no two rows may agree, with the index that holds it. -/
structure UniqueKey where
  columns : List Nat
  /-- The collation of each column of the key, in the order of `columns`. -/
  collations : List Collation := []
  index : String
  /-- Whether the index was made by the table's definition rather than by `CREATE INDEX`. -/
  implicit : Bool
  deriving Repr, Inhabited

/-- A row: its number and its values in column order. -/
structure Row where
  rowid : Int
  values : List Value
  deriving Repr, Inhabited

/-- A table. -/
structure Table where
  name : String
  columns : List Column
  /-- The position of the column that is the row number, if the table has one. -/
  rowidColumn : Option Nat
  keys : List UniqueKey
  /-- The rows in increasing order of their numbers. -/
  rows : List Row
  /-- The `CHECK` constraints, in order, each with the text a failure reports. -/
  checks : List (Expr × String) := []
  deriving Repr, Inhabited

/-- An index that is not part of a table's definition. -/
structure Index where
  name : String
  table : String
  deriving Repr, Inhabited

/-- A database. -/
structure Database where
  tables : List Table := []
  indexes : List Index := []
  /-- The triggers, newest first. -/
  triggers : List TriggerDef := []
  deriving Repr, Inhabited

namespace Table

/-- The position of the column of a name. -/
def columnIndex? (t : Table) (col : String) : Option Nat :=
  t.columns.findIdx? fun c => nameEq c.name col

/-- The column at a position. -/
def column? (t : Table) (i : Nat) : Option Column := t.columns[i]?

/-- The greatest row number, or zero for an empty table. -/
def maxRowid (t : Table) : Int := (t.rows.getLast?.map Row.rowid).getD 0

/-- The row of a number. -/
def row? (t : Table) (rowid : Int) : Option Row := t.rows.find? (·.rowid == rowid)

/-- Puts a row in its place by number, replacing the row of the same number. -/
def putRow (t : Table) (r : Row) : Table :=
  let before := t.rows.filter (·.rowid < r.rowid)
  let after := t.rows.filter (·.rowid > r.rowid)
  { t with rows := before ++ [r] ++ after }

/-- Removes the row of a number. -/
def removeRow (t : Table) (rowid : Int) : Table :=
  { t with rows := t.rows.filter (·.rowid != rowid) }

/-- The qualified names of a key's columns, as constraint failures name them. -/
def keyNames (t : Table) (k : UniqueKey) : String :=
  ", ".intercalate (k.columns.map fun i => t.name ++ "." ++ ((t.column? i).map (·.name)).getD "?")

/-- The values of a row in a key's columns, or none when one of them is null. -/
def keyValues (k : UniqueKey) (vals : List Value) : Option (List Value) :=
  let vs := k.columns.map fun i => (vals[i]?).getD .null
  if vs.any Value.isNull then none else some vs

/-- Whether two rows agree on a key, each column compared by its collation. -/
def sameKey (k : UniqueKey) (a b : List Value) : Bool :=
  match keyValues k a, keyValues k b with
  | some xs, some ys =>
    let colls := k.collations ++ List.replicate xs.length .binary
    xs.length == ys.length && ((xs.zip ys).zip colls).all fun ((x, y), c) =>
      (x.collated c).compare (y.collated c) == .eq
  | _, _ => false

/-- The collations of columns, as a key over them compares them. -/
def collationsOf (t : Table) (cols : List Nat) : List Collation :=
  cols.map fun i => ((t.column? i).map (·.collation)).getD .binary

end Table

/-- The first name that an earlier name repeats, up to case. -/
def firstDuplicate : List String → Option String
  | [] => none
  | n :: rest => if rest.any (nameEq n) then some (rest.find? (nameEq n) |>.getD n) else firstDuplicate rest

/-- The text of a resolved label. -/
def CheckLabel.label : CheckLabel → String
  | .text s => s
  | .span _ _ => ""

/-- Whether a declared type makes a lone primary key column the row number. -/
def isRowidType (type : String) : Bool := type.toUpper == "INTEGER"

/-- The collation a `COLLATE` clause names, binary when there is none; an unknown name fails. -/
def collationNamed : Option String → Except String Collation
  | none => .ok .binary
  | some n => match Collation.ofName? n with
    | some c => .ok c
    | none => .error ("no such collation sequence: " ++ n)

/-- The column of a definition. -/
def Column.ofDefinition (d : ColumnDef) : Except String Column := do
  let collation ← collationNamed d.collation
  .ok { name := d.name, type := d.type, affinity := Affinity.ofType d.type,
        notNull := d.notNull, default := d.default, collation }

/-- The table of a definition, with no rows. -/
def Table.ofDefinition (name : String) (defs : List ColumnDef) (cons : List TableConstraint) :
    Except String Table := do
  let cols ← defs.mapM Column.ofDefinition
  let base : Table := { name, columns := cols, rowidColumn := none, keys := [], rows := [] }
  match firstDuplicate (defs.map (·.name)) with
  | some n => throw ("duplicate column name: " ++ n)
  | none => pure ()
  let tablePks := cons.filterMap fun
    | .primaryKey cs => some cs
    | _ => none
  let columnPks := defs.filter (·.primaryKey)
  if tablePks.length + columnPks.length > 1 then
    throw ("table \"" ++ name ++ "\" has more than one primary key")
  let pkNames : Option (List String) := match tablePks, columnPks with
    | cs :: _, _ => some cs
    | [], c :: _ => some [c.name]
    | [], [] => none
  let resolve (ns : List String) : Except String (List Nat) :=
    ns.mapM fun n => match base.columnIndex? n with
      | some i => .ok i
      | none => .error ("no such column: " ++ n)
  let autoName (k : Nat) : String := "sqlite_autoindex_" ++ name ++ "_" ++ toString (k + 1)
  let (rowidColumn, pkKey) ← match pkNames with
    | some [n] =>
      let idx ← resolve [n]
      let i := idx.headD 0
      if isRowidType ((base.column? i).map (·.type) |>.getD "") then .ok (some i, [])
      else .ok (none, [idx])
    | some ns => do
      let idx ← resolve ns
      .ok (none, [idx])
    | none => .ok (none, [])
  let uniques ← (defs.filter (·.unique)).mapM fun d => resolve [d.name]
  let tableUniques ← (cons.filterMap fun
    | .unique cs => some cs
    | _ => none).mapM resolve
  let keyCols := pkKey ++ uniques ++ tableUniques
  let keys := (List.range keyCols.length).zip keyCols |>.map fun (k, cs) =>
    ({ columns := cs, collations := base.collationsOf cs, index := autoName k, implicit := true } :
      UniqueKey)
  let checks := (defs.flatMap (·.checks)) ++ cons.filterMap fun
    | .check e l => some (e, l)
    | _ => none
  .ok { base with rowidColumn, keys := keys.reverse, checks := checks.map fun (e, l) => (e, l.label) }

namespace Database

/-- The table of a name. -/
def table? (db : Database) (name : String) : Option Table :=
  db.tables.find? fun t => nameEq t.name name

/-- The table of a name, or the failure naming it. -/
def tableOrFail (db : Database) (name : String) : Except String Table :=
  match db.table? name with
  | some t => .ok t
  | none => .error ("no such table: " ++ name)

/-- The database with a table replaced by its new state. -/
def putTable (db : Database) (t : Table) : Database :=
  { db with tables := db.tables.map fun u => if nameEq u.name t.name then t else u }

/-- Whether an index of a name exists, made by a table's definition or not. -/
def hasIndex (db : Database) (name : String) : Bool :=
  db.indexes.any (fun i => nameEq i.name name) ||
    db.tables.any fun t => t.keys.any fun k => nameEq k.index name

/-- Creates a table. -/
def createTable (db : Database) (ifNotExists : Bool) (name : String) (defs : List ColumnDef)
    (cons : List TableConstraint) : Except String Database := do
  if (db.table? name).isSome then
    if ifNotExists then return db else throw ("table " ++ name ++ " already exists")
  if db.hasIndex name then throw ("there is already an index named " ++ name)
  if name.toLower.startsWith "sqlite_" then
    throw ("object name reserved for internal use: " ++ name)
  let t ← Table.ofDefinition name defs cons
  .ok { db with tables := db.tables ++ [t] }

/-- Creates an index; a unique index is a new key, and fails when the rows already break it. -/
def createIndex (db : Database) (unique ifNotExists : Bool) (name tname : String)
    (cols : List (String × Option String)) : Except String Database := do
  let t ← match db.table? tname with
    | some t => .ok t
    | none => .error ("no such table: main." ++ tname)
  if db.hasIndex name then
    if ifNotExists then return db else throw ("index " ++ name ++ " already exists")
  if (db.table? name).isSome then throw ("there is already a table named " ++ name)
  let idx ← cols.mapM fun (c, _) => match t.columnIndex? c with
    | some i => .ok i
    | none => .error ("no such column: " ++ c)
  let colls ← (cols.zip idx).mapM fun ((_, named), i) =>
    match named with
    | some _ => collationNamed named
    | none => .ok ((t.column? i).map (·.collation) |>.getD .binary)
  let db := { db with indexes := db.indexes ++ [⟨name, t.name⟩] }
  if !unique then return db
  let key : UniqueKey := { columns := idx, collations := colls, index := name, implicit := false }
  let clash := t.rows.any fun r => t.rows.any fun s => r.rowid != s.rowid && Table.sameKey key r.values s.values
  if clash then throw ("UNIQUE constraint failed: " ++ t.keyNames key)
  .ok (db.putTable { t with keys := key :: t.keys })

/-- Creates a trigger. -/
def createTrigger (db : Database) (ifNotExists : Bool) (trig : TriggerDef) : Except String Database :=
  match db.table? trig.table with
  | none => .error ("no such table: main." ++ trig.table)
  | some t =>
    if db.triggers.any (fun u => nameEq u.name trig.name) then
      if ifNotExists then .ok db else .error ("trigger " ++ trig.name ++ " already exists")
    else if trig.timing == .insteadOf then
      .error ("cannot create INSTEAD OF trigger on table: " ++ t.name)
    else .ok { db with triggers := { trig with table := t.name } :: db.triggers }

/-- Drops a table with its indexes and triggers. -/
def dropTable (db : Database) (ifExists : Bool) (name : String) : Except String Database :=
  if (db.table? name).isSome then
    .ok { db with tables := db.tables.filter (fun t => !nameEq t.name name),
                  indexes := db.indexes.filter (fun i => !nameEq i.table name),
                  triggers := db.triggers.filter (fun t => !nameEq t.table name) }
  else if ifExists then .ok db else .error ("no such table: " ++ name)

/-- Drops an index; a unique index stops being a key. -/
def dropIndex (db : Database) (ifExists : Bool) (name : String) : Except String Database :=
  if db.indexes.any (fun i => nameEq i.name name) then
    let db := { db with indexes := db.indexes.filter (fun i => !nameEq i.name name) }
    .ok { db with tables := db.tables.map fun t => { t with keys := t.keys.filter fun k => !nameEq k.index name } }
  else if db.hasIndex name then
    .error "index associated with UNIQUE or PRIMARY KEY constraint cannot be dropped"
  else if ifExists then .ok db else .error ("no such index: " ++ name)

/-- Drops a trigger. -/
def dropTrigger (db : Database) (ifExists : Bool) (name : String) : Except String Database :=
  if db.triggers.any (fun t => nameEq t.name name) then
    .ok { db with triggers := db.triggers.filter (fun t => !nameEq t.name name) }
  else if ifExists then .ok db else .error ("no such trigger: " ++ name)

end Database

end MapReduce.Sql
