import MapReduce.Sql.Schema
import MapReduce.Sql.Functions

/-! Statements with their names resolved against the database, ready to run.

A column reference becomes a position in the row of a query level or in the `NEW` or `OLD` row of
a trigger, carrying the column's affinity. An unqualified name is looked up in the innermost query
first; a name in double quotes that names no column is a text. A comparison carries the affinity
its operands are converted toward: the numeric affinity of either side when both sides have one
(a column, a `CAST` or a subquery of one), else the affinity of the side that has one. -/

namespace MapReduce.Sql

/-- The row a column reference reads. -/
inductive Source where
  /-- The current row of the query `depth` levels out from the innermost. -/
  | row (depth : Nat)
  | new
  | old
  deriving DecidableEq, Repr, Inhabited

mutual

/-- An expression with its names resolved. -/
inductive Term where
  | lit (v : Value)
  /-- A column of a row, or its row number when `index` is none. -/
  | col (src : Source) (index : Option Nat)
  | unary (op : UnaryOp) (a : Term)
  /-- An infix operator; a comparison reads its operands as `cmp` says. -/
  | binary (op : BinaryOp) (a b : Term) (cmp : Comparison)
  | like (negated glob : Bool) (subject pattern : Term) (escape : Option Term)
  | between (negated : Bool) (subject lo hi : Term) (cmpLo cmpHi : Comparison)
  | inList (negated : Bool) (subject : Term) (items : List Term) (cmp : Comparison)
  | inQuery (negated : Bool) (subject : Term) (q : Select) (cmp : Comparison)
  | exists (q : Select)
  | scalar (q : Select)
  | isNull (negated : Bool) (a : Term)
  | cast (a : Term) (aff : Affinity)
  | call (fn : String) (args : List Term)
  /-- An aggregate over the rows of the enclosing query. -/
  | aggregate (fn : String) (args : List Term) (star distinct : Bool)
  | case (subject : Option Term) (arms : List (Term × Term)) (otherwise : Option Term)
  | raise (kind : RaiseKind) (message : Option Term)
  deriving Repr, Inhabited

/-- A query with its names resolved; `aggregate` when its results aggregate over its rows. Each
key of its order is sorted descending when its flag says so, texts by its collation. -/
inductive Select where
  | mk (table : Option String) (results : List Term) (cond : Option Term)
      (orderBy : List (Term × Bool × Collation)) (limit offset : Option Term)
      (aggregate distinct : Bool)
  deriving Repr, Inhabited

end

mutual

/-- Whether a term holds an aggregate outside its subqueries. -/
def Term.hasAggregate : Term → Bool
  | .aggregate _ _ _ _ => true
  | .unary _ a | .isNull _ a | .cast a _ => a.hasAggregate
  | .binary _ a b _ => a.hasAggregate || b.hasAggregate
  | .like _ _ a b e => a.hasAggregate || b.hasAggregate || Term.optAggregate e
  | .between _ a b c _ _ => a.hasAggregate || b.hasAggregate || c.hasAggregate
  | .inList _ a xs _ => a.hasAggregate || Term.anyAggregate xs
  | .inQuery _ a _ _ => a.hasAggregate
  | .call _ xs => Term.anyAggregate xs
  | .case s arms o => Term.optAggregate s || Term.armsAggregate arms || Term.optAggregate o
  | _ => false

/-- Whether one of the terms holds an aggregate. -/
def Term.anyAggregate : List Term → Bool
  | [] => false
  | t :: ts => t.hasAggregate || Term.anyAggregate ts

/-- Whether an optional term holds an aggregate. -/
def Term.optAggregate : Option Term → Bool
  | none => false
  | some t => t.hasAggregate

/-- Whether the arms of a `CASE` hold an aggregate. -/
def Term.armsAggregate : List (Term × Term) → Bool
  | [] => false
  | (a, b) :: rest => a.hasAggregate || b.hasAggregate || Term.armsAggregate rest

end

mutual

/-- Whether a term holds a subquery. -/
def Term.hasQuery : Term → Bool
  | .inQuery _ _ _ _ | .exists _ | .scalar _ => true
  | .unary _ a | .isNull _ a | .cast a _ => a.hasQuery
  | .binary _ a b _ => a.hasQuery || b.hasQuery
  | .like _ _ a b e => a.hasQuery || b.hasQuery || Term.optQuery e
  | .between _ a b c _ _ => a.hasQuery || b.hasQuery || c.hasQuery
  | .inList _ a xs _ => a.hasQuery || Term.anyQuery xs
  | .call _ xs | .aggregate _ xs _ _ => Term.anyQuery xs
  | .case s arms o => Term.optQuery s || Term.armsQuery arms || Term.optQuery o
  | _ => false

/-- Whether one of the terms holds a subquery. -/
def Term.anyQuery : List Term → Bool
  | [] => false
  | t :: ts => t.hasQuery || Term.anyQuery ts

/-- Whether an optional term holds a subquery. -/
def Term.optQuery : Option Term → Bool
  | none => false
  | some t => t.hasQuery

/-- Whether the arms of a `CASE` hold a subquery. -/
def Term.armsQuery : List (Term × Term) → Bool
  | [] => false
  | (a, b) :: rest => a.hasQuery || b.hasQuery || Term.armsQuery rest

end

mutual

/-- Whether a term reads nothing of a row or a table, so that its value is the same wherever it
is evaluated. -/
def Term.isConstant : Term → Bool
  | .lit _ => true
  | .unary _ a | .isNull _ a | .cast a _ => a.isConstant
  | .binary _ a b _ => a.isConstant && b.isConstant
  | .like _ _ a b e => a.isConstant && b.isConstant && Term.optConstant e
  | .between _ a b c _ _ => a.isConstant && b.isConstant && c.isConstant
  | .inList _ a xs _ => a.isConstant && Term.allConstant xs
  | .call _ xs => Term.allConstant xs
  | .case s arms o => Term.optConstant s && Term.armsConstant arms && Term.optConstant o
  | _ => false

/-- Whether all of the terms are constant. -/
def Term.allConstant : List Term → Bool
  | [] => true
  | t :: ts => t.isConstant && Term.allConstant ts

/-- Whether an optional term is constant. -/
def Term.optConstant : Option Term → Bool
  | none => true
  | some t => t.isConstant

/-- Whether the arms of a `CASE` are constant. -/
def Term.armsConstant : List (Term × Term) → Bool
  | [] => true
  | (a, b) :: rest => a.isConstant && b.isConstant && Term.armsConstant rest

end

/-- What names mean where an expression stands. -/
structure Scope where
  /-- The tables of the enclosing queries, innermost first, each with the name it goes by. -/
  levels : List (String × Table) := []
  /-- Inside a trigger: its table, and whether `NEW` and `OLD` exist. -/
  trigger : Option (Table × Bool × Bool) := none
  /-- Whether aggregate functions may appear. -/
  aggregates : Bool := false
  deriving Inhabited

/-- The names of the aggregate functions of one argument or of `*`. -/
def aggregateNames : List String := ["count", "sum", "total", "avg", "group_concat", "min", "max"]

/-- Whether a call is an aggregate: `count`, `sum`, `total`, `avg`, `group_concat`, and `min` or
`max` of one argument. -/
def isAggregateCall (fn : String) (n : Nat) (star : Bool) : Bool :=
  if fn == "min" || fn == "max" then n == 1 && !star
  else aggregateNames.contains fn

/-- Whether a name is one of the names of the row number. -/
def isRowidName (n : String) : Bool := ["rowid", "oid", "_rowid_"].contains n.toLower

/-- The table of a query without `FROM`, whose one row has no columns. -/
def emptyTable : Table := { name := "", columns := [], rowidColumn := none, keys := [], rows := [] }

/-- The affinity a `CAST` converts to: that of its type name, numeric when the name is empty. -/
def castAffinity (ty : String) : Affinity := if ty.isEmpty then .numeric else Affinity.ofType ty

/-- Whether an expression is a number literal written with a point or an exponent, without a
sign, and at most 1: the only probabilities `likelihood` accepts. -/
def isProbability : Expr → Bool
  | .lit (.real (.finite x)) => !x.neg && Float64.compare (.finite x) (.finite (Binary64.ofInt 1)) != .gt
  | _ => false

/-- The column of a name in the innermost level that has one. -/
def findLevel (n : String) : Nat → List (String × Table) → Option (Nat × Table × Nat)
  | _, [] => none
  | d, (_, t) :: rest =>
    match t.columnIndex? n with
    | some i => some (d, t, i)
    | none => findLevel n (d + 1) rest

/-- The level of a name a query goes by. -/
def findNamedLevel (q : String) : Nat → List (String × Table) → Option (Nat × Table)
  | _, [] => none
  | d, (label, t) :: rest => if !label.isEmpty && nameEq label q then some (d, t) else findNamedLevel q (d + 1) rest

/-- Resolves a column reference: where it reads, the affinity of its column and its collation.
A column of a trigger's `NEW` or `OLD` row has no affinity, so comparing it converts neither
side, but it has its collation; the row number is an integer with no collation. -/
def resolveColumn (sc : Scope) (q : Option String) (n : String) (quoted : Bool) :
    Except String (Term × Affinity × Option Collation) :=
  let ofColumn (src : Source) (t : Table) (i : Nat) (aff : Bool) : Term × Affinity × Option Collation :=
    (.col src (some i), (if aff then ((t.column? i).map (·.affinity)).getD .none else .none),
      (t.column? i).map (·.collation))
  match q with
  | none =>
    match findLevel n 0 sc.levels with
    | some (d, t, i) => .ok (ofColumn (.row d) t i true)
    | none =>
      let firstTable := (sc.levels.zip (List.range sc.levels.length)).find? fun ((_, t), _) => !t.name.isEmpty
      match firstTable with
      | some (_, d) =>
        if isRowidName n then .ok (.col (.row d) none, .integer, none)
        else if quoted then .ok (.lit (.text n), .none, none)
        else .error ("no such column: " ++ n)
      | none => if quoted then .ok (.lit (.text n), .none, none) else .error ("no such column: " ++ n)
  | some qq =>
    let missing : Except String (Term × Affinity × Option Collation) :=
      .error ("no such column: " ++ qq ++ "." ++ n)
    let trig : Option (Source × Table) := match sc.trigger with
      | some (t, hasNew, hasOld) =>
        if nameEq qq "new" then (if hasNew then some (.new, t) else none)
        else if nameEq qq "old" then (if hasOld then some (.old, t) else none)
        else none
      | none => none
    let isPseudo := sc.trigger.isSome && (nameEq qq "new" || nameEq qq "old")
    match trig with
    | some (src, t) =>
      match t.columnIndex? n with
      | some i => .ok (ofColumn src t i false)
      | none => if isRowidName n then .ok (.col src none, .integer, none) else missing
    | none =>
      if isPseudo then missing
      else
        match findNamedLevel qq 0 sc.levels with
        | some (d, t) =>
          match t.columnIndex? n with
          | some i => .ok (ofColumn (.row d) t i true)
          | none => if isRowidName n then .ok (.col (.row d) none, .integer, none) else missing
        | none => missing

/-- The affinity of an expression: that of a column, of a `CAST` type, or of a subquery's first
result; none otherwise. The fuel bounds the nesting of subqueries looked into. -/
def exprAffinity (db : Database) : Nat → Scope → Expr → Affinity
  | 0, _, _ => .none
  | fuel + 1, sc, e =>
    match e with
    | .column q n quoted => match resolveColumn sc q n quoted with
      | .ok (_, aff, _) => aff
      | .error _ => .none
    | .cast _ ty => castAffinity ty
    | .collate a _ => exprAffinity db fuel sc a
    | .scalar (.mk _ (some (r :: _)) source _ _ _ _) =>
      let levels := match source.bind fun (tname, label) => (db.table? tname).map (label.getD tname, ·) with
        | some lv => lv :: sc.levels
        | none => ("", emptyTable) :: sc.levels
      exprAffinity db fuel { sc with levels } r
    | _ => .none

/-- The affinity a comparison converts its operands toward. -/
def comparisonAffinity (a b : Affinity) : Affinity :=
  if a.isColumn && b.isColumn then
    if a.isNumeric || b.isNumeric then .numeric else .blob
  else if a.isColumn then a else b

mutual

/-- Whether an expression holds a `COLLATE` outside its subqueries. -/
def Expr.hasCollate : Expr → Bool
  | .collate _ _ => true
  | .unary _ a | .isNull _ a | .cast a _ | .inQuery _ a _ => a.hasCollate
  | .binary _ a b => a.hasCollate || b.hasCollate
  | .like _ _ a b e => a.hasCollate || b.hasCollate || Expr.optCollate e
  | .between _ a b c => a.hasCollate || b.hasCollate || c.hasCollate
  | .inList _ a xs => a.hasCollate || Expr.anyCollate xs
  | .call _ xs _ _ => Expr.anyCollate xs
  | .case s arms o => Expr.optCollate s || Expr.armsCollate arms || Expr.optCollate o
  | .raise _ m => Expr.optCollate m
  | _ => false

/-- Whether one of the expressions holds a `COLLATE`. -/
def Expr.anyCollate : List Expr → Bool
  | [] => false
  | e :: es => e.hasCollate || Expr.anyCollate es

/-- Whether an optional expression holds a `COLLATE`. -/
def Expr.optCollate : Option Expr → Bool
  | none => false
  | some e => e.hasCollate

/-- Whether the arms of a `CASE` hold a `COLLATE`. -/
def Expr.armsCollate : List (Expr × Expr) → Bool
  | [] => false
  | (a, b) :: rest => a.hasCollate || b.hasCollate || Expr.armsCollate rest

end

/-- The operands of an expression in the order a search for its collation visits them: the left
operand first, then the others; the pattern of a `LIKE` comes before its subject. -/
def Expr.operands : Expr → List Expr
  | .unary _ a | .isNull _ a | .cast a _ | .inQuery _ a _ | .collate a _ => [a]
  | .binary _ a b => [a, b]
  | .like _ _ a b e => [b, a] ++ e.toList
  | .between _ a b c => [a, b, c]
  | .inList _ a xs => a :: xs
  | .call _ xs _ _ => xs
  | .case s arms o => s.toList ++ arms.flatMap (fun (a, b) => [a, b]) ++ o.toList
  | .raise _ m => m.toList
  | _ => []

/-- The collation of a name; an unknown name fails. -/
def namedCollation (n : String) : Except String Collation :=
  match Collation.ofName? n with
  | some c => .ok c
  | none => .error ("no such collation sequence: " ++ n)

/-- The collation an expression brings to a comparison: that of its column, looked for through
a `CAST` and a unary plus; that of its `COLLATE`; for an expression holding a `COLLATE` deeper
down, the collation of its first operand that holds one; none otherwise. The fuel bounds the
depth searched. -/
def exprCollation (sc : Scope) : Nat → Expr → Except String (Option Collation)
  | 0, _ => .ok none
  | fuel + 1, e =>
    match e with
    | .column q n quoted => .ok (match resolveColumn sc q n quoted with
      | .ok (_, _, c) => c
      | .error _ => none)
    | .cast a _ | .unary .plus a => exprCollation sc fuel a
    | .collate _ n => (namedCollation n).map some
    | e =>
      if e.hasCollate then
        match e.operands.find? Expr.hasCollate with
        | some a => exprCollation sc fuel a
        | none => .ok none
      else .ok none

/-- The collation a comparison of two operands uses: that of an operand written with `COLLATE`,
the left one first; else the collation of the left operand, then of the right; else `BINARY`. -/
def comparisonCollation (sc : Scope) (a b : Expr) : Except String Collation := do
  if a.hasCollate then return (← exprCollation sc 64 a).getD .binary
  if b.hasCollate then return (← exprCollation sc 64 b).getD .binary
  match ← exprCollation sc 64 a with
  | some c => return c
  | none => return (← exprCollation sc 64 b).getD .binary

mutual

/-- Resolves the names of an expression. -/
def compile (db : Database) (sc : Scope) : Expr → Except String Term
  | .lit v => .ok (.lit v)
  | .column q n quoted => (resolveColumn sc q n quoted).map (·.1)
  | .unary op a => do
    .ok (.unary op (← compile db sc a))
  | .binary op a b => do
    let x ← compile db sc a
    let y ← compile db sc b
    match op with
    | .cmp _ | .is _ =>
      let aff := comparisonAffinity (exprAffinity db 8 sc a) (exprAffinity db 8 sc b)
      let coll ← comparisonCollation sc a b
      .ok (.binary op x y { aff, coll })
    | _ => .ok (.binary op x y { aff := .none })
  | .like neg gl a b esc => do
    let x ← compile db sc a
    let y ← compile db sc b
    let e ← compileOpt db sc esc
    .ok (.like neg gl x y e)
  | .between neg a lo hi => do
    let x ← compile db sc a
    let l ← compile db sc lo
    let h ← compile db sc hi
    let ax := exprAffinity db 8 sc a
    let collLo ← comparisonCollation sc a lo
    let collHi ← comparisonCollation sc a hi
    .ok (.between neg x l h { aff := comparisonAffinity ax (exprAffinity db 8 sc lo), coll := collLo }
      { aff := comparisonAffinity ax (exprAffinity db 8 sc hi), coll := collHi })
  | .inList neg a items => do
    let x ← compile db sc a
    let ys ← compileList db sc items
    let coll ← exprCollation sc 64 a
    .ok (.inList neg x ys { aff := exprAffinity db 8 sc a, coll := coll.getD .binary })
  | .inQuery neg a q => do
    let x ← compile db sc a
    let s ← compileQuery db sc q
    let aff := comparisonAffinity (exprAffinity db 8 sc a) (exprAffinity db 8 sc (.scalar q))
    let coll ← exprCollation sc 64 a
    .ok (.inQuery neg x s { aff, coll := coll.getD .binary })
  | .exists q => do
    .ok (.exists (← compileQuery db sc q))
  | .scalar q => do
    .ok (.scalar (← compileQuery db sc q))
  | .isNull neg a => do
    .ok (.isNull neg (← compile db sc a))
  | .cast a ty => do
    .ok (.cast (← compile db sc a) (castAffinity ty))
  | .call written args star distinct => do
    let xs ← compileList db sc args
    let fn := written.toLower
    if isAggregateCall fn args.length star then
      if !sc.aggregates then .error ("misuse of aggregate function " ++ written ++ "()")
      else if fn == "count" && args.length > 1 then .error (wrongArity written)
      else if fn != "count" && fn != "group_concat" && args.length != 1 then .error (wrongArity written)
      else if fn == "group_concat" && (args.isEmpty || args.length > 2) then .error (wrongArity written)
      else .ok (.aggregate fn xs star distinct)
    else if star then .error (wrongArity written)
    else
      match arityError written args.length with
      | some e => .error e
      | none =>
        if fn == "likelihood" && !(args[1]?.any isProbability) then
          .error ("second argument to " ++ written ++ "() must be a constant between 0.0 and 1.0")
        else .ok (.call fn xs)
  | .case subject arms otherwise => do
    let s ← compileOpt db sc subject
    let ars ← compileArms db sc arms
    let o ← compileOpt db sc otherwise
    .ok (.case s ars o)
  | .raise kind msg =>
    if sc.trigger.isNone then .error "RAISE() may only be used within a trigger-program"
    else do
      let m ← compileOpt db sc msg
      .ok (.raise kind m)
  | .collate a _ => compile db sc a

/-- Resolves a list of expressions. -/
def compileList (db : Database) (sc : Scope) : List Expr → Except String (List Term)
  | [] => .ok []
  | e :: es => do
    let t ← compile db sc e
    let ts ← compileList db sc es
    .ok (t :: ts)

/-- Resolves an optional expression. -/
def compileOpt (db : Database) (sc : Scope) : Option Expr → Except String (Option Term)
  | none => .ok none
  | some e => do
    .ok (some (← compile db sc e))

/-- Resolves the arms of a `CASE`. -/
def compileArms (db : Database) (sc : Scope) : List (Expr × Expr) → Except String (List (Term × Term))
  | [] => .ok []
  | (c, v) :: rest => do
    let x ← compile db sc c
    let y ← compile db sc v
    let more ← compileArms db sc rest
    .ok ((x, y) :: more)

/-- Resolves the terms of an `ORDER BY`, each with the collation it sorts texts by. -/
def compileOrder (db : Database) (sc : Scope) :
    List (Expr × Bool) → Except String (List (Term × Bool × Collation))
  | [] => .ok []
  | (e, desc) :: rest => do
    let x ← compile db sc e
    let coll ← exprCollation sc 64 e
    let more ← compileOrder db sc rest
    .ok ((x, desc, coll.getD .binary) :: more)

/-- Resolves a query inside the scope of the enclosing ones. -/
def compileQuery (db : Database) (sc : Scope) : Query → Except String Select
  | .mk distinct results source cond orderBy limit offset => do
    let (levels, table) ← match source with
      | some (tname, label) => do
        let t ← db.tableOrFail tname
        .ok ((label.getD t.name, t) :: sc.levels, some t.name)
      | none => .ok (sc.levels, none)
    let inner : Scope := { sc with levels := if source.isSome then levels else ("", emptyTable) :: levels,
                                   aggregates := true }
    let plain : Scope := { inner with aggregates := false }
    let rs ← match results with
      | some es => compileList db inner es
      | none =>
        match source with
        | some _ => .ok ((levels.head?.map fun (_, t) =>
            (List.range t.columns.length).map fun i => Term.col (.row 0) (some i)).getD [])
        | none => .error "no tables specified"
    let c ← compileOpt db plain cond
    let o ← compileOrder db inner orderBy
    let l ← compileOpt db plain limit
    let off ← compileOpt db plain offset
    let agg := Term.anyAggregate rs
    .ok (.mk table rs c o l off agg distinct)

end

end MapReduce.Sql
