import MapReduce.Sql.Value

/-! The statements the relational store understands, as they are written: expressions over
named columns, queries of one table, changes of rows, and the definitions of tables, indexes and
triggers. Names are resolved only when a statement runs. -/

namespace MapReduce.Sql

/-- A comparison operator. -/
inductive CmpOp where
  | eq | ne | lt | le | gt | ge
  deriving DecidableEq, Repr, Inhabited

/-- A prefix operator. -/
inductive UnaryOp where
  | neg | plus | not | bitNot
  deriving DecidableEq, Repr, Inhabited

/-- An infix operator. -/
inductive BinaryOp where
  | arith (op : ArithOp)
  | concat
  | cmp (op : CmpOp)
  /-- `IS` (`negated` false) and `IS NOT`: equality where null equals null. -/
  | is (negated : Bool)
  | and | or
  | bitAnd | bitOr | shiftLeft | shiftRight
  /-- `->` (`asText` false) and `->>`: the element of a JSON document at a path. -/
  | arrow (asText : Bool)
  deriving DecidableEq, Repr, Inhabited

/-- What a `RAISE` in a trigger does: skip the row, or fail with a message, undoing the
transaction, the statement, or nothing already done. -/
inductive RaiseKind where
  | ignore | rollback | abort | fail
  deriving DecidableEq, Repr, Inhabited

mutual

/-- An expression. -/
inductive Expr where
  | lit (v : Value)
  /-- A column, qualified or not; `quoted` when the name was written in double quotes, so that it
  reads as a text when no column has that name. -/
  | column (table : Option String) (name : String) (quoted : Bool)
  | unary (op : UnaryOp) (a : Expr)
  | binary (op : BinaryOp) (a b : Expr)
  /-- `LIKE` (`glob` false) or `GLOB`, with an escape character for `LIKE`. -/
  | like (negated glob : Bool) (subject pattern : Expr) (escape : Option Expr)
  | between (negated : Bool) (subject lo hi : Expr)
  | inList (negated : Bool) (subject : Expr) (items : List Expr)
  | inQuery (negated : Bool) (subject : Expr) (q : Query)
  | exists (q : Query)
  | scalar (q : Query)
  | isNull (negated : Bool) (a : Expr)
  | cast (a : Expr) (type : String)
  /-- A function call; `star` for `count(*)`. -/
  | call (fn : String) (args : List Expr) (star distinct : Bool)
  | case (subject : Option Expr) (arms : List (Expr × Expr)) (otherwise : Option Expr)
  /-- `RAISE(kind, message)`; `RAISE(IGNORE)` has no message. -/
  | raise (kind : RaiseKind) (message : Option Expr)
  | collate (a : Expr) (collation : String)
  deriving Repr, Inhabited

/-- A query of at most one table: result columns (none for `*`), a condition, an order and a
limit. -/
inductive Query where
  | mk (distinct : Bool) (results : Option (List Expr)) (source : Option (String × Option String))
      (cond : Option Expr) (orderBy : List (Expr × Bool)) (limit offset : Option Expr)
  deriving Repr, Inhabited

end

/-- How a statement resolves a row that breaks a constraint. -/
inductive Conflict where
  | rollback | abort | fail | ignore | replace
  deriving DecidableEq, Repr, Inhabited

/-- Where the rows of an insert come from. -/
inductive InsertSource where
  | values (rows : List (List Expr))
  | query (q : Query)
  | defaults
  deriving Repr, Inhabited

/-- A statement that reads or changes rows. -/
inductive Dml where
  | insert (conflict : Option Conflict) (table : String) (columns : Option (List String))
      (source : InsertSource)
  | update (conflict : Option Conflict) (table : String) (sets : List (String × Expr))
      (cond : Option Expr)
  | delete (table : String) (cond : Option Expr)
  | select (q : Query)
  deriving Repr, Inhabited

/-- What a failing `CHECK` constraint is reported by: its name, or the text its condition was
written as. While a statement is being read, the text is given by the numbers of tokens left
after the condition's opening parenthesis and at its closing one. -/
inductive CheckLabel where
  | text (s : String)
  | span (first last : Nat)
  deriving Repr, Inhabited

/-- A column of a table definition. -/
structure ColumnDef where
  name : String
  type : String
  primaryKey : Bool := false
  notNull : Bool := false
  unique : Bool := false
  default : Option Expr := none
  /-- The `CHECK` constraints of the column, in order. -/
  checks : List (Expr × CheckLabel) := []
  /-- The collation named by a `COLLATE` clause. -/
  collation : Option String := none
  deriving Repr, Inhabited

/-- A constraint of a table over several columns. -/
inductive TableConstraint where
  | primaryKey (columns : List String)
  | unique (columns : List String)
  | check (cond : Expr) (label : CheckLabel)
  /-- A foreign key, which is not enforced. -/
  | foreignKey
  deriving Repr, Inhabited

/-- When a trigger runs relative to the change of its row. -/
inductive Timing where
  | before | after | insteadOf
  deriving DecidableEq, Repr, Inhabited

/-- The change a trigger watches. -/
inductive TriggerEvent where
  | insert | update | delete
  deriving DecidableEq, Repr, Inhabited

/-- A trigger: on a change of a row of its table, when its condition holds, it runs its body. An
update trigger with columns runs only for updates that assign one of them. -/
structure TriggerDef where
  name : String
  table : String
  timing : Timing
  event : TriggerEvent
  columns : List String
  condition : Option Expr
  body : List Dml
  deriving Repr, Inhabited

/-- A change of a table's definition. -/
inductive Alteration where
  | addColumn (c : ColumnDef)
  | renameTo (name : String)
  | renameColumn (old new : String)
  | dropColumn (name : String)
  deriving Repr, Inhabited

/-- A statement. -/
inductive Statement where
  | dml (d : Dml)
  | createTable (ifNotExists : Bool) (name : String) (columns : List ColumnDef)
      (constraints : List TableConstraint)
  /-- `CREATE INDEX`; each column with the collation its `COLLATE` clause names. -/
  | createIndex (unique ifNotExists : Bool) (name table : String)
      (columns : List (String × Option String))
  | createTrigger (ifNotExists : Bool) (trigger : TriggerDef)
  | dropTable (ifExists : Bool) (name : String)
  | dropIndex (ifExists : Bool) (name : String)
  | dropTrigger (ifExists : Bool) (name : String)
  | alter (table : String) (change : Alteration)
  | begin
  | commit
  | rollback
  /-- A statement that changes nothing here, such as a pragma. -/
  | noop
  deriving Repr, Inhabited

end MapReduce.Sql
