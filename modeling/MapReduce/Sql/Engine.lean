import MapReduce.Sql.Eval

/-! Changing rows: inserts, updates and deletes with their constraints and triggers.

A statement is compiled against the database before it runs, together with the triggers each of
its row changes fires; a trigger already running does not fire again inside itself. An insert
fills the columns it does not name with their defaults, converts every value toward its column's
affinity, takes the next row number when none is given, runs the `BEFORE` triggers, checks the
`NOT NULL` columns in order, then the `CHECK` conditions and then the keys, writes the row and
runs the `AFTER` triggers. An
update or a delete first collects the numbers of the rows its condition holds for and then
changes them one by one. A conflict is resolved as the statement says (`OR IGNORE` and the
like), as the statement that fired the trigger says when that one says anything, or else by
failing; `REPLACE` removes the rows in the way without firing their triggers. -/

namespace MapReduce.Sql

/-- Where the rows of a compiled insert come from. -/
inductive RowSource where
  | values (rows : List (List Term))
  | query (q : Select)
  | defaults
  deriving Inhabited

mutual

/-- A statement compiled against a database, with the triggers its row changes fire. -/
inductive Action where
  /-- An insert into the named columns; `defaults` has the default of each column. -/
  | insert (table : String) (conflict : Option Conflict) (columns : List Nat) (source : RowSource)
      (defaults : List (Option Term)) (before after : List TriggerPlan)
  | update (table : String) (conflict : Option Conflict) (sets : List (Nat × Term))
      (cond : Option Term) (before after : List TriggerPlan)
  | delete (table : String) (cond : Option Term) (before after : List TriggerPlan)
  | select (q : Select)
  deriving Inhabited

/-- A compiled trigger: its condition and its body. -/
inductive TriggerPlan where
  | mk (cond : Option Term) (body : List Action)
  deriving Inhabited

end

/-- The triggers of a table that watch an event at a time, newest first, leaving out those
already running; an update trigger with columns watches only updates assigning one of them. -/
def watching (db : Database) (t : Table) (ev : TriggerEvent) (timing : Timing)
    (assigned : List String) (active : List String) : List TriggerDef :=
  db.triggers.filter fun tr =>
    nameEq tr.table t.name && tr.event == ev && tr.timing == timing &&
      !active.any (nameEq tr.name) &&
      (ev != .update || tr.columns.isEmpty || tr.columns.any fun c => assigned.any (nameEq c))

/-- What names mean in a trigger of a table on an event. -/
def triggerScope (t : Table) (ev : TriggerEvent) : Scope :=
  { trigger := some (t, ev != .delete, ev != .insert) }

/-- The table a statement changes; inside a trigger a missing table is named with its schema. -/
def targetTable (db : Database) (sc : Scope) (name : String) : Except String Table :=
  match db.table? name with
  | some t => .ok t
  | none => .error ("no such table: " ++ (if sc.trigger.isSome then "main." else "") ++ name)

/-- The position a statement may assign under a name: a column's, or for a name of the row
number that no column has, the position of the column that is the row number, or one past the
last column when there is none. -/
def Table.assignable? (t : Table) (n : String) : Option Nat :=
  match t.columnIndex? n with
  | some i => some i
  | none => if isRowidName n then some (t.rowidColumn.getD t.columns.length) else none

/-- The positions of named columns. -/
def columnPositions (t : Table) (names : List String) : Except String (List Nat) :=
  names.mapM fun n => match t.assignable? n with
    | some i => .ok i
    | none => .error ("table " ++ t.name ++ " has no column named " ++ n)

/-- The failure of an insert whose rows have a different number of values than its columns. -/
def countMismatch (t : Table) (named : Bool) (cols got : Nat) : String :=
  if named then toString got ++ " values for " ++ toString cols ++ " columns"
  else "table " ++ t.name ++ " has " ++ toString cols ++ " columns but " ++ toString got ++ " values were supplied"

/-- Compiles a statement that reads or changes rows, with the triggers it fires. `active` names
the triggers running around it. The fuel bounds the nesting of triggers; since each level runs
inside one more trigger, the number of triggers plus one always suffices. -/
def prepare (db : Database) : Nat → Scope → List String → Dml → Except String Action
  | 0, _, _, _ => .error "too many levels of trigger recursion"
  | fuel + 1, sc, active, d =>
    let plans (t : Table) (ev : TriggerEvent) (timing : Timing) (assigned : List String) :
        Except String (List TriggerPlan) :=
      (watching db t ev timing assigned active).mapM fun tr => do
        let inner := triggerScope t ev
        let cond ← compileOpt db inner tr.condition
        let body ← tr.body.mapM fun step => prepare db fuel inner (tr.name :: active) step
        .ok (.mk cond body)
    match d with
    | .select q => do
      let s ← compileQuery db sc q
      .ok (.select s)
    | .insert conflict tname names source => do
      let t ← targetTable db sc tname
      let cols ← match names with
        | some ns => columnPositions t ns
        | none => .ok (List.range t.columns.length)
      let width := cols.length
      let src ← match source with
        | .values rows => do
          let bad := rows.find? fun r => r.length != width
          match bad with
          | some r =>
            if rows.any (fun s => s.length != (rows.headD []).length) then
              .error "all VALUES must have the same number of terms"
            else .error (countMismatch t names.isSome width r.length)
          | none => pure ()
          let compiled ← rows.mapM fun r => compileList db sc r
          .ok (RowSource.values compiled)
        | .query q => do
          let s ← compileQuery db sc q
          match s with
          | .mk _ results _ _ _ _ _ _ =>
            if results.length != width then .error (countMismatch t names.isSome width results.length)
            else .ok (RowSource.query s)
        | .defaults => .ok RowSource.defaults
      let defaults ← t.columns.mapM fun c => compileOpt db {} c.default
      let before ← plans t .insert .before []
      let after ← plans t .insert .after []
      .ok (.insert t.name conflict (if source matches .defaults then [] else cols) src defaults before after)
    | .update conflict tname sets cond => do
      let t ← targetTable db sc tname
      let inner : Scope := { sc with levels := (t.name, t) :: sc.levels }
      let assigned ← sets.mapM fun (n, e) => do
        let i ← match t.assignable? n with
          | some i => .ok i
          | none => .error ("no such column: " ++ n)
        let x ← compile db inner e
        .ok (i, x)
      let c ← compileOpt db inner cond
      let names := sets.map (·.1)
      let before ← plans t .update .before names
      let after ← plans t .update .after names
      .ok (.update t.name conflict assigned c before after)
    | .delete tname cond => do
      let t ← targetTable db sc tname
      let inner : Scope := { sc with levels := (t.name, t) :: sc.levels }
      let c ← compileOpt db inner cond
      let before ← plans t .delete .before []
      let after ← plans t .delete .after []
      .ok (.delete t.name c before after)

/-- Compiles a statement at the top of a database, outside every trigger. -/
def Database.prepare (db : Database) (d : Dml) : Except String Action :=
  Sql.prepare db (db.triggers.length + 1) {} [] d

/-- A step that changes the database and may fail. -/
abbrev Run := ExceptT Failure (StateM Database)

/-- An evaluation as a step. -/
def Run.eval {α : Type} (e : Eval α) : Run α :=
  match e with
  | .ok a => pure a
  | .error f => throw f

/-- The current state of a table. -/
def currentTable (name : String) : Run Table := do
  match (← get).table? name with
  | some t => pure t
  | none => throw (.abort ("no such table: " ++ name))

/-- Stores a table's new state. -/
def storeTable (t : Table) : Run Unit := modify fun db => db.putTable t

/-- Whether a condition holds: true, not false or null. -/
def holds (db : Database) (fr : Frame) : Option Term → Eval Bool
  | none => .ok true
  | some c => do
    let v ← eval db fr c
    .ok (v.truth == some true)

/-- The failure of a broken constraint under a way of resolving conflicts. -/
def constraintFailure (how : Conflict) (message : String) : Failure :=
  match how with
  | .rollback => ⟨.rollback, message⟩
  | .fail => ⟨.fail, message⟩
  | _ => ⟨.abort, message⟩

/-- Runs a row's trigger step, telling whether a `RAISE(IGNORE)` asked to skip the row. -/
def skipped (step : Run Unit) : Run Bool :=
  tryCatch (do step; pure false) fun f => if f.kind == .ignore then pure true else throw f

/-- Checks the `NOT NULL` columns of a new row in order: the row to write, or none when it is to
be skipped. Under `REPLACE` a null takes the column's default when that is not null. -/
def checkNotNull (t : Table) (how : Conflict) (defaults : List Value) (vals : List Value) :
    Except Failure (Option (List Value)) :=
  let step (acc : Option (List Value)) (ic : Nat × Column) : Except Failure (Option (List Value)) :=
    match acc with
    | none => .ok none
    | some vs =>
      let (i, c) := ic
      if c.notNull && ((vs[i]?).getD .null).isNull then
        let message := "NOT NULL constraint failed: " ++ t.name ++ "." ++ c.name
        match how with
        | .ignore => .ok none
        | .replace =>
          let d := (defaults[i]?).getD .null
          if d.isNull then .error (.abort message) else .ok (some (vs.set i d))
        | other => .error (constraintFailure other message)
      else .ok (some vs)
  ((List.range t.columns.length).zip t.columns).foldlM step (some vals)

/-- Checks the row number and keys of a new row against the other rows of its table: the table
with the rows in the way removed under `REPLACE`, or none when the row is to be skipped. -/
def checkKeys (t : Table) (how : Conflict) (self : Option Int) (r : Row) : Except Failure (Option Table) :=
  let others (tb : Table) : List Row := tb.rows.filter fun s => some s.rowid != self
  let rowidClash := (others t).any fun s => s.rowid == r.rowid
  let rowidName := match t.rowidColumn.bind t.column? with
    | some c => t.name ++ "." ++ c.name
    | none => t.name ++ ".rowid"
  let afterRowid : Except Failure (Option Table) :=
    if !rowidClash then .ok (some t)
    else match how with
      | .ignore => .ok none
      | .replace => .ok (some (t.removeRow r.rowid))
      | other => .error (constraintFailure other ("UNIQUE constraint failed: " ++ rowidName))
  let step (acc : Option Table) (k : UniqueKey) : Except Failure (Option Table) :=
    match acc with
    | none => .ok none
    | some tb =>
      let clash := (others tb).filter fun s => Table.sameKey k s.values r.values
      if clash.isEmpty then .ok (some tb)
      else match how with
        | .ignore => .ok none
        | .replace => .ok (some (clash.foldl (fun u s => u.removeRow s.rowid) tb))
        | other => .error (constraintFailure other ("UNIQUE constraint failed: " ++ t.keyNames k))
  match afterRowid with
  | .ok (some tb) => t.keys.foldlM step (some tb)
  | other => other

/-- A `CHECK` condition of a table resolved against its columns; a subquery is not allowed. -/
def checkTerm (db : Database) (t : Table) (e : Expr) : Except String Term := do
  let term ← compile db { levels := [(t.name, t)] } e
  if term.hasQuery then .error "subqueries prohibited in CHECK constraints" else .ok term

/-- Checks the `CHECK` constraints of a table on a new row in order: whether the row may be
written, false when it is to be skipped. A condition fails only when it is false, not when it is
null; `REPLACE` cannot resolve such a failure. -/
def checkConditions (db : Database) (t : Table) (how : Conflict) (r : Row) : Except Failure Bool :=
  t.checks.foldlM (fun ok (e, label) =>
    if !ok then .ok false
    else match checkTerm db t e with
      | .error msg => .error (.abort msg)
      | .ok term =>
        match eval db { rows := [r] } term with
        | .error f => .error f
        | .ok v =>
          if v.truth != some false then .ok true
          else
            let message := "CHECK constraint failed: " ++ label
            match how with
            | .ignore => .ok false
            | .replace => .error (.abort message)
            | other => .error (constraintFailure other message)) true

/-- Checks a new row and writes it: whether it was written. -/
def writeRow (tname : String) (how : Conflict) (defaults : List Value) (self : Option Int) (r : Row) :
    Run Bool := do
  let t ← currentTable tname
  match checkNotNull t how defaults r.values with
  | .error f => throw f
  | .ok none => pure false
  | .ok (some vals) =>
    let r := { r with values := vals }
    match checkConditions (← get) t how r with
    | .error f => throw f
    | .ok false => pure false
    | .ok true =>
      match checkKeys t how self r with
      | .error f => throw f
      | .ok none => pure false
      | .ok (some tb) =>
        let tb := match self with
          | some old => tb.removeRow old
          | none => tb
        storeTable (tb.putRow r)
        pure true

/-- The values of a row with each converted toward its column's affinity. -/
def withAffinity (t : Table) (vals : List Value) : List Value :=
  (vals.zip t.columns).map fun (v, c) => v.applyAffinity c.affinity

/-- A row number given for the column that is the row number: none when null, the failure when
it is not an integer. -/
def givenRowid (v : Value) : Except Failure (Option Int) :=
  match v.applyAffinity .integer with
  | .null => .ok none
  | .int i => .ok (some i)
  | _ => .error (.abort "datatype mismatch")

/-- Inserts one row given the values of the named columns; `fire` runs the `BEFORE` triggers
(when its flag is set) or the `AFTER` ones on a frame. The number of rows written. -/
def insertRow (fire : Bool → Frame → Run Unit) (tname : String) (how : Conflict) (cols : List Nat)
    (defaults : List (Option Term)) (given : List Value) : Run Nat := do
  let db ← get
  let t ← currentTable tname
  let defaultValues ← Run.eval (defaults.mapM fun d => match d with
    | some e => eval db {} e
    | none => .ok .null)
  let pick (i : Nat) : Value :=
    match cols.idxOf? i with
    | some j => (given[j]?).getD .null
    | none => (defaultValues[i]?).getD .null
  let vals := withAffinity t ((List.range t.columns.length).map pick)
  let rowidGiven : Value := match t.rowidColumn with
    | some k => (vals[k]?).getD .null
    | none => match cols.idxOf? t.columns.length with
      | some j => (given[j]?).getD .null
      | none => .null
  let explicit ← match givenRowid rowidGiven with
    | .ok r => pure r
    | .error f => throw f
  let withRowid (n : Int) : List Value := match t.rowidColumn with
    | some k => vals.set k (.int n)
    | none => vals
  let early : Row := ⟨explicit.getD (-1), withRowid (explicit.getD (-1))⟩
  if ← skipped (fire true { new := some early }) then return 0
  let rowid := explicit.getD ((← currentTable tname).maxRowid + 1)
  let r : Row := ⟨rowid, withRowid rowid⟩
  if !(← writeRow tname how defaultValues none r) then return 0
  let _ ← skipped (fire false { new := some r })
  pure 1

/-- Updates one row, given by its number, when it still exists: the number of rows written. -/
def updateRow (fire : Bool → Frame → Run Unit) (outer : Frame) (tname : String) (how : Conflict)
    (sets : List (Nat × Term)) (rowid : Int) : Run Nat := do
  let db ← get
  let t ← currentTable tname
  match t.row? rowid with
  | none => pure 0
  | some old =>
    let fr := outer.push old
    let assigned ← Run.eval (sets.mapM fun (i, e) => do
      let v ← eval db fr e
      .ok (i, v))
    let change (vals : List Value) : List Value :=
      assigned.foldl (fun vs (i, v) => vs.set i v) vals
    let k := t.rowidColumn.getD t.columns.length
    let newRowid ← match assigned.reverse.find? (·.1 == k) with
      | some (_, v) =>
        match givenRowid v with
        | .ok (some n) => pure n
        | .ok none => throw (.abort "datatype mismatch")
        | .error f => throw f
      | none => pure old.rowid
    let setRowid (vals : List Value) : List Value := match t.rowidColumn with
      | some k => vals.set k (.int newRowid)
      | none => vals
    let early : Row := ⟨newRowid, setRowid (withAffinity t (change old.values))⟩
    if ← skipped (fire true { old := some old, new := some early }) then return 0
    let t ← currentTable tname
    match t.row? rowid with
    | none => pure 0
    | some now =>
      let r : Row := ⟨newRowid, setRowid (withAffinity t (change now.values))⟩
      if !(← writeRow tname how [] (some rowid) r) then return 0
      let _ ← skipped (fire false { old := some old, new := some r })
      pure 1

/-- Deletes one row, given by its number, when it still exists: the number of rows removed. -/
def deleteRow (fire : Bool → Frame → Run Unit) (tname : String) (rowid : Int) : Run Nat := do
  let t ← currentTable tname
  match t.row? rowid with
  | none => pure 0
  | some old =>
    if ← skipped (fire true { old := some old }) then return 0
    let t ← currentTable tname
    match t.row? rowid with
    | none => pure 0
    | some _ =>
      storeTable (t.removeRow rowid)
      let _ ← skipped (fire false { old := some old })
      pure 1

/-- The numbers of the rows of a table that a condition holds for. -/
def matchingRowids (outer : Frame) (tname : String) (cond : Option Term) : Run (List Int) := do
  let db ← get
  let t ← currentTable tname
  let kept ← Run.eval (t.rows.filterM fun r => holds db (outer.push r) cond)
  pure (kept.map Row.rowid)

mutual

/-- Runs a compiled statement on a frame; `outer` is the conflict resolution of the statement
that fired the trigger this one is in, if that one names one. The number of rows it changed. -/
def runAction (fr : Frame) (outer : Option Conflict) : Action → Run Nat
  | .select q => do
    let db ← get
    let _ ← Run.eval (runSelect db fr q)
    pure 0
  | .insert tname conflict cols source defaults before after => do
    let own := outer.orElse fun _ => conflict
    let how := own.getD .abort
    let fire (early : Bool) (tf : Frame) : Run Unit :=
      if early then fireAll tf own before else fireAll tf own after
    match source with
    | .values rows =>
      rows.foldlM (fun n r => do
        let db ← get
        let vals ← Run.eval (evalList db fr r)
        let k ← insertRow fire tname how cols defaults vals
        pure (n + k)) 0
    | .query q => do
      let db ← get
      let rows ← Run.eval (runSelect db fr q)
      rows.foldlM (fun n vals => do
        let k ← insertRow fire tname how cols defaults vals
        pure (n + k)) 0
    | .defaults => insertRow fire tname how [] defaults []
  | .update tname conflict sets cond before after => do
    let own := outer.orElse fun _ => conflict
    let how := own.getD .abort
    let fire (early : Bool) (tf : Frame) : Run Unit :=
      if early then fireAll tf own before else fireAll tf own after
    let ids ← matchingRowids fr tname cond
    ids.foldlM (fun n rowid => do
      let k ← updateRow fire fr tname how sets rowid
      pure (n + k)) 0
  | .delete tname cond before after => do
    let fire (early : Bool) (tf : Frame) : Run Unit :=
      if early then fireAll tf outer before else fireAll tf outer after
    let ids ← matchingRowids fr tname cond
    ids.foldlM (fun n rowid => do
      let k ← deleteRow fire tname rowid
      pure (n + k)) 0

/-- Runs the triggers whose conditions hold, in order. -/
def fireAll (fr : Frame) (outer : Option Conflict) : List TriggerPlan → Run Unit
  | [] => pure ()
  | .mk cond body :: rest => do
    let db ← get
    if ← Run.eval (holds db fr cond) then runBody fr outer body
    fireAll fr outer rest

/-- Runs the statements of a trigger's body in order. -/
def runBody (fr : Frame) (outer : Option Conflict) : List Action → Run Unit
  | [] => pure ()
  | a :: rest => do
    let _ ← runAction fr outer a
    runBody fr outer rest

end

end MapReduce.Sql
