import MapReduce.Sql.Plan

/-! Evaluating resolved expressions and running queries.

`AND` and `OR` look at their right operand only when the left one does not decide the outcome,
so a condition such as `a = 'x' AND json_extract(b, '$.k') = 1` never reads `b` where `a` differs.
A comparison with a null operand is null, except `IS`, which treats null as a value. A query reads
the rows of its table in the order of their numbers, keeps those its condition holds for, and
stops reading once its limit is reached when no order or aggregate needs every row. -/

namespace MapReduce.Sql

/-- Why a statement stopped: a failure, with how much of the work it undoes, or a
`RAISE(IGNORE)`, which skips the row being changed. -/
structure Failure where
  kind : RaiseKind
  message : String
  deriving Repr, Inhabited

/-- A failure that undoes the statement. -/
def Failure.abort (message : String) : Failure := ⟨.abort, message⟩

/-- The rows expressions see: the current row of each query level, innermost first, the `NEW`
and `OLD` rows of a trigger, and the rows an aggregate runs over. -/
structure Frame where
  rows : List Row := []
  new : Option Row := none
  old : Option Row := none
  group : Option (List Row) := none
  deriving Inhabited

/-- The frame with a row as the current row of a new innermost level. -/
def Frame.push (fr : Frame) (r : Row) : Frame := { fr with rows := r :: fr.rows, group := none }

/-- The frame with its innermost row replaced. -/
def Frame.withRow (fr : Frame) (r : Row) : Frame := { fr with rows := r :: fr.rows.drop 1, group := none }

/-- A result of a step that may fail. -/
abbrev Eval := Except Failure

/-- A failure of a function, which undoes the statement. -/
def liftFn {α : Type} : Except String α → Eval α
  | .ok a => .ok a
  | .error e => .error (.abort e)

/-- Three-valued conjunction. -/
def andTruth : Option Bool → Option Bool → Option Bool
  | some false, _ => some false
  | _, some false => some false
  | some true, some true => some true
  | _, _ => none

/-- Three-valued disjunction. -/
def orTruth : Option Bool → Option Bool → Option Bool
  | some true, _ => some true
  | _, some true => some true
  | some false, some false => some false
  | _, _ => none

/-- Compares two values after converting them toward the comparison's affinity, texts by its
collation; none when one is null. -/
def compareWith (cmp : Comparison) (a b : Value) : Option Ordering :=
  if a.isNull || b.isNull then none
  else some (((a.compareForm cmp.aff).collated cmp.coll).compare
    ((b.compareForm cmp.aff).collated cmp.coll))

/-- Whether a comparison outcome satisfies an operator. -/
def CmpOp.holds : CmpOp → Ordering → Bool
  | .eq, o => o == .eq
  | .ne, o => o != .eq
  | .lt, o => o == .lt
  | .le, o => o != .gt
  | .gt, o => o == .gt
  | .ge, o => o != .lt

/-- Converts a value as `CAST` does. -/
def castValue (aff : Affinity) (v : Value) : Value :=
  match v with
  | .null => .null
  | _ =>
    match aff with
    | .blob | .none => .blob v.toBytes
    | .text => .text v.toText
    | .integer => .int v.toInt64
    | .real => .real v.toReal
    | .numeric =>
      match v with
      | .int _ | .real _ => v
      | w =>
        let s := w.toText
        let sc := scanReal s
        let (irc, iv) := scanInt s
        if (sc.code = 0 ∨ sc.code = 1) ∧ irc ≤ 1 then .int iv
        else
          let i := sc.value.toInt64
          if realSameAsInt sc.value i then .int i else .real sc.value

/-- A 64-bit integer wrapped into range. -/
def wrap64 (i : Int) : Int :=
  let m := i % 18446744073709551616
  if m ≥ 9223372036854775808 then m - 18446744073709551616 else m

/-- A bit operator on two values; null when one is null. -/
def bitApply (op : BinaryOp) (a b : Value) : Value :=
  if a.isNull || b.isNull then .null
  else
    let x := a.toInt64
    let y := b.toInt64
    let toNat (i : Int) : Nat := (i % 18446744073709551616).toNat
    let shift (left : Bool) (n : Int) : Int :=
      if n < 0 then (if left then shiftBy false (-n) else shiftBy true (-n)) else shiftBy left n
    match op with
    | .bitAnd => .int (wrap64 (Nat.land (toNat x) (toNat y)))
    | .bitOr => .int (wrap64 (Nat.lor (toNat x) (toNat y)))
    | .shiftLeft => .int (shift true y)
    | .shiftRight => .int (shift false y)
    | _ => .null
where
  /-- Shifts `x` by `n ≥ 0` places, left or right with the sign kept. -/
  shiftBy (left : Bool) (n : Int) : Int :=
    let x := a.toInt64
    if left then (if n ≥ 64 then 0 else wrap64 (x * Int.pow 2 n.toNat))
    else if n ≥ 64 then (if x < 0 then -1 else 0) else x / Int.pow 2 n.toNat

/-- Removes repeated values, keeping first occurrences. -/
def dedupValues (vs : List Value) : List Value :=
  (vs.foldl (fun acc v => if acc.any (fun w => w.compare v == .eq) then acc else v :: acc) []).reverse

/-- Removes repeated result rows, keeping first occurrences. -/
def dedupRows (rs : List (List Value)) : List (List Value) :=
  let same (r s : List Value) : Bool := s.length == r.length && (s.zip r).all fun (a, b) => a.compare b == .eq
  (rs.foldl (fun acc r => if acc.any (same r) then acc else r :: acc) []).reverse

/-- The value of an aggregate over argument values, one list per row. -/
def aggregateOf (fn : String) (star distinct : Bool) (rows : Nat) (args : List (List Value)) : Eval Value :=
  let firsts := args.map fun a => a.headD .null
  let present := firsts.filter (!·.isNull)
  let present := if distinct then dedupValues present else present
  match fn with
  | "count" => .ok (.int (if star || args.all List.isEmpty then rows else present.length))
  | "sum" =>
    if present.isEmpty then .ok .null
    else if present.all (fun v => match v.arithForm with | .int _ => true | _ => false) then
      let s : Int := present.foldl (fun acc v => acc + v.toInt64) 0
      if int64Min ≤ s ∧ s ≤ int64Max then .ok (.int s) else .error (.abort "integer overflow")
    else .ok (.real (present.foldl (fun acc v => acc.add v.toReal) Float64.zero))
  | "total" => .ok (.real (present.foldl (fun acc v => acc.add v.toReal) Float64.zero))
  | "avg" =>
    if present.isEmpty then .ok .null
    else .ok (.real ((present.foldl (fun acc v => acc.add v.toReal) Float64.zero).div
      (Float64.ofInt present.length)))
  | "min" | "max" =>
    match present with
    | [] => .ok .null
    | v :: vs => .ok (vs.foldl (fun best w =>
        let o := w.compare best
        if (fn == "max" && o == .gt) || (fn == "min" && o == .lt) then w else best) v)
  | "group_concat" =>
    let pairs := args.filter fun a => !(a.headD .null).isNull
    match pairs with
    | [] => .ok .null
    | p :: ps =>
      let sep (a : List Value) : String := match a with
        | [_, s] => s.toText
        | _ => ","
      .ok (.text (ps.foldl (fun acc a => acc ++ sep a ++ (a.headD .null).toText) (p.headD .null).toText))
  | _ => .error (.abort ("no such function: " ++ fn))

/-- Sorts rows by their keys: nulls first, each key ascending or, when its flag says so,
descending; rows with equal keys keep their order. -/
def sortByKeys (keyed : List (List Value × Row)) (desc : List Bool) : List Row :=
  let before (a b : List Value × Row) : Bool :=
    let rec go : List Value → List Value → List Bool → Bool
      | x :: xs, y :: ys, d :: ds =>
        match x.compare y with
        | .eq => go xs ys ds
        | .lt => !d
        | .gt => d
      | _, _, _ => true
    go a.1 b.1 desc
  (keyed.mergeSort before).map (·.2)

/-- The row of a query level that has no rows, where every column is null. -/
def nullRow (width : Nat) : Row := ⟨0, List.replicate width .null⟩

/-- The outcome of `x IN (values)`. -/
def memberOf (neg : Bool) (aff : Comparison) (x : Value) (vs : List Value) (empty : Bool) : Value :=
  if empty then Value.ofTruth (some neg)
  else if x.isNull then .null
  else if vs.any (fun v => compareWith aff x v == some .eq) then Value.ofTruth (some !neg)
  else if vs.any Value.isNull then .null
  else Value.ofTruth (some neg)

/-- Whether the value of a term carries a JSON mark: the result of a function that builds or
edits JSON, of `->`, or of `json_extract` of several paths. -/
def Term.jsonMarked (t : Term) (v : Value) : Bool :=
  match t, v with
  | .call fn args, .text _ =>
    jsonMarking.contains fn || (fn == "json_extract" && args.length > 2)
  | .binary (.arrow false) _ _ _, .text _ => true
  | _, _ => false

mutual

/-- Evaluates a term. -/
def eval (db : Database) (fr : Frame) : Term → Eval Value
  | .lit v => .ok v
  | .col src idx =>
    let row? : Option Row := match src with
      | .row d => fr.rows[d]?
      | .new => fr.new
      | .old => fr.old
    match row?, idx with
    | some r, some i => .ok ((r.values[i]?).getD .null)
    | some r, none => .ok (.int r.rowid)
    | none, _ => .ok .null
  | .unary op a => do
    match op with
    | .not => do
      let v ← eval db fr a
      .ok (Value.ofTruth (v.truth.map (!·)))
    | _ => do
      let v ← eval db fr a
      match op with
      | .neg => .ok (ArithOp.apply .sub (.int 0) v)
      | .bitNot => .ok (if v.isNull then .null else .int (-v.toInt64 - 1))
      | _ => .ok v
  | .binary op a b aff =>
    match op with
    | .and => do
      let x := (← eval db fr a).truth
      if x == some false then .ok (Value.ofTruth (some false))
      else .ok (Value.ofTruth (andTruth x (← eval db fr b).truth))
    | .or => do
      let x := (← eval db fr a).truth
      if x == some true then .ok (Value.ofTruth (some true))
      else .ok (Value.ofTruth (orTruth x (← eval db fr b).truth))
    | _ => do
      let x ← eval db fr a
      let y ← eval db fr b
      match op with
      | .cmp c => .ok ((compareWith aff x y).map (fun o => Value.ofTruth (some (c.holds o))) |>.getD .null)
      | .is neg =>
        let same := if x.isNull && y.isNull then true
          else if x.isNull || y.isNull then false
          else (compareWith aff x y) == some .eq
        .ok (Value.ofTruth (some (same != neg)))
      | .arith o => .ok (o.apply x y)
      | .concat => .ok (if x.isNull || y.isNull then .null else .text (x.toText ++ y.toText))
      | .arrow asText => liftFn (jsonArrow asText x y)
      | o => .ok (bitApply o x y)
  | .like neg gl a b esc => do
    let y ← eval db fr b
    let x ← eval db fr a
    let e ← evalOpt db fr esc
    let r ← liftFn (matchValue gl y x e)
    .ok (if neg then Value.ofTruth (r.truth.map (!·)) else r)
  | .between neg a lo hi affLo affHi => do
    let x ← eval db fr a
    let l ← eval db fr lo
    let h ← eval db fr hi
    let ge := (compareWith affLo x l).map fun o => o != .lt
    let le := (compareWith affHi x h).map fun o => o != .gt
    let t := andTruth ge le
    .ok (Value.ofTruth (if neg then t.map (!·) else t))
  | .inList neg a items aff =>
    if items.isEmpty then .ok (Value.ofTruth (some neg))
    else if items.length > 2 && Term.allConstant items then do
      let vs ← evalList db fr items
      let x ← eval db fr a
      .ok (memberOf neg aff x vs false)
    else do
      let x ← eval db fr a
      let found ← evalMember db fr aff x items
      .ok (Value.ofTruth (found.map (· != neg)))
  | .inQuery neg a q aff => do
    let x ← eval db fr a
    let rows ← runSelect db fr q
    let vs := rows.map fun r => r.headD .null
    .ok (memberOf neg aff x vs vs.isEmpty)
  | .exists q => do
    let rows ← runSelect db fr q
    .ok (.int (if rows.isEmpty then 0 else 1))
  | .scalar q => do
    let rows ← runSelect db fr q
    .ok ((rows.head?.bind List.head?).getD .null)
  | .isNull neg a => do
    let v ← eval db fr a
    .ok (Value.ofTruth (some (v.isNull != neg)))
  | .cast a aff => do
    let v ← eval db fr a
    .ok (castValue aff v)
  | .call fn args =>
    if fn == "coalesce" || fn == "ifnull" then evalFirst db fr args
    else if fn == "iif" || fn == "likely" || fn == "unlikely" || fn == "likelihood" then
      evalChoice db fr args
    else if jsonBuilders.contains fn then do
      let xs ← evalMarked db fr args
      liftFn (callJson fn xs)
    else do
      let vs ← evalList db fr args
      liftFn (callFunction fn vs)
  | .aggregate fn args star distinct => do
    let rows := fr.group.getD []
    let perRow ← rows.mapM fun r => evalList db (fr.withRow r) args
    aggregateOf fn star distinct rows.length perRow
  | .case subject arms otherwise => do
    let s ← evalOpt db fr subject
    let chosen ← chooseArm db fr s arms
    match chosen with
    | some v => .ok v
    | none => do
      let o ← evalOpt db fr otherwise
      .ok (o.getD .null)
  | .raise kind msg => do
    let m ← evalOpt db fr msg
    .error ⟨kind, (m.map Value.toText).getD ""⟩

/-- Evaluates terms in order. -/
def evalList (db : Database) (fr : Frame) : List Term → Eval (List Value)
  | [] => .ok []
  | t :: ts => do
    let v ← eval db fr t
    let vs ← evalList db fr ts
    .ok (v :: vs)

/-- The values of the arguments of a function that reads JSON marks, each with its mark; a
`json_extract` of one path carries the mark when it finds an array or an object. -/
def evalMarked (db : Database) (fr : Frame) : List Term → Eval (List (Value × Bool))
  | [] => .ok []
  | .call "json_extract" [a, p] :: ts => do
    let va ← eval db fr a
    let vp ← eval db fr p
    let v ← liftFn (callFunction "json_extract" [va, vp])
    let rest ← evalMarked db fr ts
    .ok ((v, extractsContainer va vp) :: rest)
  | t :: ts => do
    let v ← eval db fr t
    let rest ← evalMarked db fr ts
    .ok ((v, t.jsonMarked v) :: rest)

/-- The first of terms whose value is not null, evaluating no term after it. -/
def evalFirst (db : Database) (fr : Frame) : List Term → Eval Value
  | [] => .ok .null
  | t :: ts => do
    let v ← eval db fr t
    if v.isNull then evalFirst db fr ts else .ok v

/-- `iif(c, a, b)`, evaluating only the arm the condition chooses, or the first argument alone for
the hints `likely`, `unlikely` and `likelihood`. -/
def evalChoice (db : Database) (fr : Frame) : List Term → Eval Value
  | [c, a, b] => do
    let t ← eval db fr c
    if t.truth == some true then eval db fr a else eval db fr b
  | a :: _ => eval db fr a
  | [] => .ok .null

/-- Whether a value is among the values of terms, evaluated in order up to the first equal one:
none when no value is equal and one comparison was unknown. -/
def evalMember (db : Database) (fr : Frame) (aff : Comparison) (x : Value) :
    List Term → Eval (Option Bool)
  | [] => .ok (some false)
  | t :: ts => do
    let v ← eval db fr t
    match compareWith aff x v with
    | some .eq => .ok (some true)
    | known => do
      let rest ← evalMember db fr aff x ts
      .ok (if known.isNone && rest != some true then none else rest)

/-- Evaluates the terms of sort keys in order, each as its collation sees it. -/
def evalKeys (db : Database) (fr : Frame) : List (Term × Bool × Collation) → Eval (List Value)
  | [] => .ok []
  | (t, _, c) :: ts => do
    let v ← eval db fr t
    let vs ← evalKeys db fr ts
    .ok (v.collated c :: vs)

/-- Evaluates an optional term. -/
def evalOpt (db : Database) (fr : Frame) : Option Term → Eval (Option Value)
  | none => .ok none
  | some t => do
    let v ← eval db fr t
    .ok (some v)

/-- The value of the first arm of a `CASE` that applies: with a subject, the first whose value
equals it; without, the first whose condition holds. -/
def chooseArm (db : Database) (fr : Frame) (subject : Option Value) : List (Term × Term) → Eval (Option Value)
  | [] => .ok none
  | (c, v) :: rest => do
    let hit ← match subject with
      | some s => do
        let w ← eval db fr c
        .ok (compareWith { aff := .none } s w == some .eq)
      | none => do
        let t ← eval db fr c
        .ok (t.truth == some true)
    if hit then do
      let x ← eval db fr v
      .ok (some x)
    else chooseArm db fr subject rest

/-- Runs a query: its result rows. -/
def runSelect (db : Database) (fr : Frame) : Select → Eval (List (List Value))
  | .mk table results cond orderBy limit offset agg distinct => do
    let (rows, width) := match table with
      | some t => match db.table? t with
        | some tb => (tb.rows, tb.columns.length)
        | none => ([], 0)
      | none => ([⟨0, []⟩], 0)
    let lim ← evalOpt db fr limit
    let off ← evalOpt db fr offset
    let limN : Option Nat := lim.bind fun v => if v.toInt64 < 0 then none else some v.toInt64.toNat
    let offN : Nat := (off.map fun v => (max 0 v.toInt64).toNat).getD 0
    let window (xs : List (List Value)) : List (List Value) :=
      let xs := xs.drop offN
      match limN with
      | some n => xs.take n
      | none => xs
    let lazy := !agg && orderBy.isEmpty && !distinct
    let want : Option Nat := if lazy then limN.map (· + offN) else none
    let step (acc : List Row) (r : Row) : Eval (List Row) :=
      if want.any (acc.length ≥ ·) then .ok acc
      else match cond with
        | none => .ok (r :: acc)
        | some c => do
          let t ← eval db (fr.push r) c
          .ok (if t.truth == some true then r :: acc else acc)
    let keptRev ← rows.foldlM step []
    let kept := keptRev.reverse
    if agg then do
      let last := kept.getLast?.getD (nullRow width)
      let vs ← evalList db { fr.push last with group := some kept } results
      .ok (window [vs])
    else if lazy then
      (kept.drop offN).mapM fun r => evalList db (fr.push r) results
    else do
      let keyed ← kept.mapM fun r => do
        let ks ← evalKeys db (fr.push r) orderBy
        .ok (ks, r)
      let sorted := sortByKeys keyed (orderBy.map (·.2.1))
      let out ← sorted.mapM fun r => evalList db (fr.push r) results
      .ok (window (if distinct then dedupRows out else out))

end

end MapReduce.Sql
