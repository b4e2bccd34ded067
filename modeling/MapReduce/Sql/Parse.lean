import MapReduce.Sql.Syntax
import MapReduce.Sql.Lexer

/-! Reading statements from tokens. Keywords are read without regard to case. Operators bind, from
loosest to tightest: `OR`; `AND`; prefix `NOT`; the equalities `=`, `<>`, `IS`, `LIKE`, `GLOB`,
`BETWEEN`, `IN` and the null tests; the orderings; the bit operators; `+` and `-`; `*`, `/` and
`%`; `||`, `->` and `->>`; `COLLATE`; the prefix signs. A minus sign before a number literal makes
a negative literal, so that the least 64-bit integer can be written. Each reader takes a fuel
bound by the number of tokens times the number of levels, since every nested call either consumes
a token or descends a level. -/

namespace MapReduce.Sql

/-- A reader of a prefix of the tokens. -/
abbrev Reader (α : Type) := List Token → Except String (α × List Token)

namespace Parse

/-- Whether a token is the keyword `kw` (given in upper case). -/
def isKw (kw : String) : Token → Bool
  | .word w => w.toUpper == kw
  | _ => false

/-- Whether a token is the symbol `s`. -/
def isSym (s : String) : Token → Bool
  | .sym t => t == s
  | _ => false

/-- The failure for an unexpected token. -/
def near {α : Type} : List Token → Except String α
  | t :: _ => .error ("near \"" ++ t.text ++ "\": syntax error")
  | [] => .error "incomplete input"

/-- Consumes the keyword `kw`. -/
def kw (k : String) : Reader Unit
  | t :: rest => if isKw k t then .ok ((), rest) else near (t :: rest)
  | [] => near []

/-- Consumes the symbol `s`. -/
def sym (s : String) : Reader Unit
  | t :: rest => if isSym s t then .ok ((), rest) else near (t :: rest)
  | [] => near []

/-- Consumes the keyword `kw` if it is next. -/
def optKw (k : String) (ts : List Token) : Bool × List Token :=
  match ts with
  | t :: rest => if isKw k t then (true, rest) else (false, ts)
  | [] => (false, [])

/-- Consumes the symbol `s` if it is next. -/
def optSym (s : String) (ts : List Token) : Bool × List Token :=
  match ts with
  | t :: rest => if isSym s t then (true, rest) else (false, ts)
  | [] => (false, [])

/-- Consumes a sequence of keywords if they are all next. -/
def optKws (ks : List String) (ts : List Token) : Bool × List Token :=
  if ks.length ≤ ts.length && (ks.zip ts).all fun (k, t) => isKw k t then (true, ts.drop ks.length)
  else (false, ts)

/-- The words that cannot name a column or a table without quotes. -/
def reserved : List String :=
  ["SELECT", "FROM", "WHERE", "AND", "OR", "NOT", "NULL", "IS", "IN", "LIKE", "GLOB", "BETWEEN",
   "CASE", "WHEN", "THEN", "ELSE", "END", "AS", "ON", "SET", "VALUES", "INTO", "ORDER", "BY",
   "LIMIT", "OFFSET", "GROUP", "HAVING", "UNION", "EXISTS", "CAST", "COLLATE", "ESCAPE",
   "DEFAULT", "CHECK", "REFERENCES", "UNIQUE", "PRIMARY", "CONSTRAINT", "CREATE", "TABLE",
   "INDEX", "TRIGGER", "DROP", "INSERT", "UPDATE", "DELETE", "BEGIN", "COMMIT", "ROLLBACK",
   "RAISE", "DISTINCT", "ALL", "ISNULL", "NOTNULL", "REGEXP", "MATCH"]

/-- Reads a name: a word that is not reserved, a quoted name, or a text. -/
def name : Reader String
  | .word w :: rest => if reserved.contains w.toUpper then near (.word w :: rest) else .ok (w, rest)
  | .name s _ _ :: rest => .ok (s, rest)
  | .str s :: rest => .ok (s, rest)
  | ts => near ts

/-- Reads a table name, which may be qualified by its schema (`main.t`). -/
def tableName (ts : List Token) : Except String (String × List Token) := do
  let (n, ts) ← name ts
  match ts with
  | d :: rest =>
    if isSym "." d then do
      let (t, rest) ← name rest
      let schema := n.toLower
      if schema == "main" || schema == "temp" then .ok (t, rest)
      else .error ("unknown database " ++ n)
    else .ok (n, ts)
  | [] => .ok (n, [])

/-- Reads `IF NOT EXISTS` if it is next. -/
def ifNotExists (ts : List Token) : Bool × List Token := optKws ["IF", "NOT", "EXISTS"] ts

/-- Reads `IF EXISTS` if it is next. -/
def ifExists (ts : List Token) : Bool × List Token := optKws ["IF", "EXISTS"] ts

/-- The value of hexadecimal digits. -/
def hexValue (ds : List Char) : Nat :=
  ds.foldl (fun acc c =>
    acc * 16 + (if c.isDigit then c.toNat - 48 else if 'a' ≤ c ∧ c ≤ 'f' then c.toNat - 87 else c.toNat - 55)) 0

/-- The value of a number literal, negated when `neg`: an integer when it fits in 64 bits, a
binary64 number otherwise; a hexadecimal literal is the 64-bit pattern it spells. -/
def numberValue (s : String) (real neg : Bool) : Except String Value :=
  if real then
    let x := (scanReal s).value
    .ok (.real (if neg then x.neg else x))
  else
    match s.toList with
    | '0' :: x :: ds =>
      if x = 'x' || x = 'X' then
        let n := hexValue ds
        if ds.length > 16 then .error ("hex literal too big: " ++ (if neg then "-" else "") ++ s)
        else
          let v : Int := if n ≥ Nat.pow 2 63 then (n : Int) - 18446744073709551616 else n
          if neg then
            if v = int64Min then .error ("hex literal too big: -" ++ s) else .ok (.int (-v))
          else .ok (.int v)
      else decimal
    | _ => decimal
where
  /-- A decimal integer literal. -/
  decimal : Except String Value :=
    let (rc, v) := scanInt s
    if rc = 0 then .ok (.int (if neg then -v else v))
    else if rc = 3 && neg then .ok (.int int64Min)
    else
      let x := (scanReal s).value
      .ok (.real (if neg then x.neg else x))

/-- Reads the words of a type name and an optional parenthesised size. -/
def typeName : Nat → List Token → List String → String × List Token
  | 0, ts, acc => (" ".intercalate acc.reverse, ts)
  | fuel + 1, ts, acc =>
    match ts with
    | .word w :: rest =>
      if ["PRIMARY", "NOT", "NULL", "UNIQUE", "DEFAULT", "CHECK", "REFERENCES", "CONSTRAINT",
          "COLLATE", "GENERATED", "AS"].contains w.toUpper then (" ".intercalate acc.reverse, ts)
      else typeName fuel rest (w :: acc)
    | .name s _ _ :: rest => typeName fuel rest (s :: acc)
    | .sym "(" :: rest =>
      let inner := rest.takeWhile (fun t => !isSym ")" t)
      let after := (rest.dropWhile (fun t => !isSym ")" t)).drop 1
      let size := "(" ++ ",".intercalate (inner.filter (fun t => !isSym "," t) |>.map Token.text) ++ ")"
      match acc with
      | w :: more => typeName fuel after ((w ++ size) :: more)
      | [] => typeName fuel after [size]
    | _ => (" ".intercalate acc.reverse, ts)

/-- The binary operator of an ordering symbol. -/
def orderingOp (t : Token) : Option BinaryOp :=
  if isSym "<" t then some (.cmp .lt) else if isSym "<=" t then some (.cmp .le)
  else if isSym ">" t then some (.cmp .gt) else if isSym ">=" t then some (.cmp .ge) else none

/-- The binary operator of a bit symbol. -/
def bitOp (t : Token) : Option BinaryOp :=
  if isSym "&" t then some .bitAnd else if isSym "|" t then some .bitOr
  else if isSym "<<" t then some .shiftLeft else if isSym ">>" t then some .shiftRight else none

/-- The binary operator of `+` or `-`. -/
def sumOp (t : Token) : Option BinaryOp :=
  if isSym "+" t then some (.arith .add) else if isSym "-" t then some (.arith .sub) else none

/-- The binary operator of `*`, `/` or `%`. -/
def productOp (t : Token) : Option BinaryOp :=
  if isSym "*" t then some (.arith .mul) else if isSym "/" t then some (.arith .div)
  else if isSym "%" t then some (.arith .rem) else none

/-- The binary operator of `||`, `->` or `->>`. -/
def concatOp (t : Token) : Option BinaryOp :=
  if isSym "||" t then some .concat else if isSym "->" t then some (.arrow false)
  else if isSym "->>" t then some (.arrow true) else none

/-- The kind of a `RAISE`. -/
def raiseKind (w : String) : Option RaiseKind :=
  match w.toUpper with
  | "IGNORE" => some .ignore
  | "ROLLBACK" => some .rollback
  | "ABORT" => some .abort
  | "FAIL" => some .fail
  | _ => none

mutual

/-- Reads an expression. -/
def expr : Nat → Reader Expr
  | 0, ts => near ts
  | fuel + 1, ts => do
    let (a, ts) ← conj fuel ts
    orRest fuel a ts

/-- Reads further `OR` operands. -/
def orRest : Nat → Expr → Reader Expr
  | 0, a, ts => .ok (a, ts)
  | fuel + 1, a, ts =>
    match optKw "OR" ts with
    | (true, ts) => do
      let (b, ts) ← conj fuel ts
      orRest fuel (.binary .or a b) ts
    | (false, ts) => .ok (a, ts)

/-- Reads conjunctions. -/
def conj : Nat → Reader Expr
  | 0, ts => near ts
  | fuel + 1, ts => do
    let (a, ts) ← negation fuel ts
    andRest fuel a ts

/-- Reads further `AND` operands. -/
def andRest : Nat → Expr → Reader Expr
  | 0, a, ts => .ok (a, ts)
  | fuel + 1, a, ts =>
    match optKw "AND" ts with
    | (true, ts) => do
      let (b, ts) ← negation fuel ts
      andRest fuel (.binary .and a b) ts
    | (false, ts) => .ok (a, ts)

/-- Reads prefix `NOT`s and an equality. -/
def negation : Nat → Reader Expr
  | 0, ts => near ts
  | fuel + 1, ts =>
    match ts with
    | t :: rest =>
      if isKw "NOT" t then do
        let (a, ts) ← negation fuel rest
        .ok (.unary .not a, ts)
      else do
        let (a, ts) ← ordering fuel ts
        equalityRest fuel a ts
    | [] => near []

/-- Reads further equality operators, pattern matches, ranges, memberships and null tests. -/
def equalityRest : Nat → Expr → Reader Expr
  | 0, a, ts => .ok (a, ts)
  | fuel + 1, a, ts =>
    match ts with
    | t :: rest =>
      if isSym "=" t || isSym "==" t then do
        let (b, ts) ← ordering fuel rest
        equalityRest fuel (.binary (.cmp .eq) a b) ts
      else if isSym "!=" t || isSym "<>" t then do
        let (b, ts) ← ordering fuel rest
        equalityRest fuel (.binary (.cmp .ne) a b) ts
      else if isKw "IS" t then
        let (neg, r) := optKw "NOT" rest
        let (distinct, r) := optKws ["DISTINCT", "FROM"] r
        match r with
        | u :: r' =>
          if isKw "NULL" u && !distinct then equalityRest fuel (.isNull neg a) r'
          else do
            let (b, ts) ← ordering fuel r
            equalityRest fuel (.binary (.is (neg != distinct)) a b) ts
        | [] => near []
      else if isKw "ISNULL" t then equalityRest fuel (.isNull false a) rest
      else if isKw "NOTNULL" t then equalityRest fuel (.isNull true a) rest
      else if isKw "NOT" t then
        match rest with
        | u :: rest' =>
          if isKw "NULL" u then equalityRest fuel (.isNull true a) rest'
          else afterSubject fuel true a (u :: rest')
        | [] => near []
      else if isKw "LIKE" t || isKw "GLOB" t || isKw "IN" t || isKw "BETWEEN" t then
        afterSubject fuel false a ts
      else .ok (a, ts)
    | [] => .ok (a, [])

/-- Reads `LIKE`, `GLOB`, `IN` or `BETWEEN` after its subject (and a `NOT`), then further
equality operators. -/
def afterSubject : Nat → Bool → Expr → Reader Expr
  | 0, _, _, ts => near ts
  | fuel + 1, neg, a, ts =>
    match ts with
    | t :: rest =>
      if isKw "LIKE" t || isKw "GLOB" t then do
        let (b, r) ← ordering fuel rest
        let (esc, r) ← (match optKw "ESCAPE" r with
          | (true, r) => do
            let (e, r) ← ordering fuel r
            .ok (some e, r)
          | (false, r) => .ok (none, r) : Except String (Option Expr × List Token))
        equalityRest fuel (.like neg (isKw "GLOB" t) a b esc) r
      else if isKw "BETWEEN" t then do
        let (lo, r) ← ordering fuel rest
        let ((), r) ← kw "AND" r
        let (hi, r) ← ordering fuel r
        equalityRest fuel (.between neg a lo hi) r
      else if isKw "IN" t then
        match rest with
        | p :: q :: r =>
          if isSym "(" p then
            if isKw "SELECT" q then do
              let (sel, r) ← query fuel (q :: r)
              let ((), r) ← sym ")" r
              equalityRest fuel (.inQuery neg a sel) r
            else if isSym ")" q then equalityRest fuel (.inList neg a []) r
            else do
              let (items, r) ← exprList fuel (q :: r)
              equalityRest fuel (.inList neg a items) r
          else do
            let (tbl, r) ← tableName (p :: q :: r)
            equalityRest fuel (.inQuery neg a (.mk false none (some (tbl, none)) none [] none none)) r
        | _ => near rest
      else near ts
    | [] => near []

/-- Reads expressions separated by commas up to a closing parenthesis, which it consumes. -/
def exprList : Nat → Reader (List Expr)
  | 0, ts => near ts
  | fuel + 1, ts => do
    let (e, ts) ← expr fuel ts
    match ts with
    | t :: rest =>
      if isSym "," t then do
        let (es, ts) ← exprList fuel rest
        .ok (e :: es, ts)
      else if isSym ")" t then .ok ([e], rest)
      else near (t :: rest)
    | [] => near []

/-- Reads an ordering comparison. -/
def ordering : Nat → Reader Expr
  | 0, ts => near ts
  | fuel + 1, ts => do
    let (a, ts) ← bits fuel ts
    orderingRest fuel a ts

/-- Reads further ordering operators. -/
def orderingRest : Nat → Expr → Reader Expr
  | 0, a, ts => .ok (a, ts)
  | fuel + 1, a, ts =>
    match ts with
    | t :: rest =>
      match orderingOp t with
      | some op => do
        let (b, ts) ← bits fuel rest
        orderingRest fuel (.binary op a b) ts
      | none => .ok (a, ts)
    | [] => .ok (a, [])

/-- Reads bit operations. -/
def bits : Nat → Reader Expr
  | 0, ts => near ts
  | fuel + 1, ts => do
    let (a, ts) ← sum fuel ts
    bitsRest fuel a ts

/-- Reads further bit operators. -/
def bitsRest : Nat → Expr → Reader Expr
  | 0, a, ts => .ok (a, ts)
  | fuel + 1, a, ts =>
    match ts with
    | t :: rest =>
      match bitOp t with
      | some op => do
        let (b, ts) ← sum fuel rest
        bitsRest fuel (.binary op a b) ts
      | none => .ok (a, ts)
    | [] => .ok (a, [])

/-- Reads sums and differences. -/
def sum : Nat → Reader Expr
  | 0, ts => near ts
  | fuel + 1, ts => do
    let (a, ts) ← product fuel ts
    sumRest fuel a ts

/-- Reads further `+` and `-` operands. -/
def sumRest : Nat → Expr → Reader Expr
  | 0, a, ts => .ok (a, ts)
  | fuel + 1, a, ts =>
    match ts with
    | t :: rest =>
      match sumOp t with
      | some op => do
        let (b, ts) ← product fuel rest
        sumRest fuel (.binary op a b) ts
      | none => .ok (a, ts)
    | [] => .ok (a, [])

/-- Reads products and quotients. -/
def product : Nat → Reader Expr
  | 0, ts => near ts
  | fuel + 1, ts => do
    let (a, ts) ← joined fuel ts
    productRest fuel a ts

/-- Reads further `*`, `/` and `%` operands. -/
def productRest : Nat → Expr → Reader Expr
  | 0, a, ts => .ok (a, ts)
  | fuel + 1, a, ts =>
    match ts with
    | t :: rest =>
      match productOp t with
      | some op => do
        let (b, ts) ← joined fuel rest
        productRest fuel (.binary op a b) ts
      | none => .ok (a, ts)
    | [] => .ok (a, [])

/-- Reads texts joined by `||` and JSON paths. -/
def joined : Nat → Reader Expr
  | 0, ts => near ts
  | fuel + 1, ts => do
    let (a, ts) ← collated fuel ts
    joinedRest fuel a ts

/-- Reads further `||`, `->` and `->>` operands. -/
def joinedRest : Nat → Expr → Reader Expr
  | 0, a, ts => .ok (a, ts)
  | fuel + 1, a, ts =>
    match ts with
    | t :: rest =>
      match concatOp t with
      | some op => do
        let (b, ts) ← collated fuel rest
        joinedRest fuel (.binary op a b) ts
      | none => .ok (a, ts)
    | [] => .ok (a, [])

/-- Reads an operand with its collations. -/
def collated : Nat → Reader Expr
  | 0, ts => near ts
  | fuel + 1, ts => do
    let (a, ts) ← unary fuel ts
    collateRest fuel a ts

/-- Reads further `COLLATE` names. -/
def collateRest : Nat → Expr → Reader Expr
  | 0, a, ts => .ok (a, ts)
  | fuel + 1, a, ts =>
    match optKw "COLLATE" ts with
    | (true, r) => do
      let (n, r) ← name r
      collateRest fuel (.collate a n) r
    | (false, r) => .ok (a, r)

/-- Reads a signed operand. -/
def unary : Nat → Reader Expr
  | 0, ts => near ts
  | fuel + 1, ts =>
    match ts with
    | t :: rest =>
      if isSym "-" t then
        match rest with
        | .num s real :: r => do
          let v ← numberValue s real true
          .ok (.lit v, r)
        | _ => do
          let (a, ts) ← unary fuel rest
          .ok (.unary .neg a, ts)
      else if isSym "+" t then do
        let (a, ts) ← unary fuel rest
        .ok (.unary .plus a, ts)
      else if isSym "~" t then do
        let (a, ts) ← unary fuel rest
        .ok (.unary .bitNot a, ts)
      else if isKw "NOT" t then do
        let (a, ts) ← negation fuel rest
        .ok (.unary .not a, ts)
      else primary fuel ts
    | [] => near []

/-- Reads a literal, a column, a call, a parenthesised expression, a subquery, `CASE`, `CAST`,
`EXISTS` or `RAISE`. -/
def primary : Nat → Reader Expr
  | 0, ts => near ts
  | fuel + 1, ts =>
    match ts with
    | .num s real :: rest => do
      let v ← numberValue s real false
      .ok (.lit v, rest)
    | .str s :: rest => .ok (.lit (.text s), rest)
    | .bytes h :: rest =>
      let ds := h.toList
      let pairs := (List.range (ds.length / 2)).map fun i => (hexValue (ds.drop (2 * i) |>.take 2)).toUInt8
      .ok (.lit (.blob pairs), rest)
    | .sym "(" :: rest =>
      match rest with
      | s :: _ =>
        if isKw "SELECT" s then do
          let (q, r) ← query fuel rest
          let ((), r) ← sym ")" r
          .ok (.scalar q, r)
        else do
          let (e, r) ← expr fuel rest
          let ((), r) ← sym ")" r
          .ok (e, r)
      | [] => near []
    | .word w :: rest =>
      let up := w.toUpper
      if up == "NULL" then .ok (.lit .null, rest)
      else if up == "TRUE" then .ok (.lit (.int 1), rest)
      else if up == "FALSE" then .ok (.lit (.int 0), rest)
      else if up == "CURRENT_TIMESTAMP" then .ok (.lit (.text "2024-01-01 00:00:00"), rest)
      else if up == "CURRENT_DATE" then .ok (.lit (.text "2024-01-01"), rest)
      else if up == "CURRENT_TIME" then .ok (.lit (.text "00:00:00"), rest)
      else if up == "EXISTS" then do
        let ((), r) ← sym "(" rest
        let (q, r) ← query fuel r
        let ((), r) ← sym ")" r
        .ok (.exists q, r)
      else if up == "CASE" then caseExpr fuel rest
      else if up == "CAST" then do
        let ((), r) ← sym "(" rest
        let (e, r) ← expr fuel r
        let ((), r) ← kw "AS" r
        let (ty, r) := typeName (r.length + 1) r []
        let ((), r) ← sym ")" r
        .ok (.cast e ty, r)
      else if up == "RAISE" then do
        let ((), r) ← sym "(" rest
        match r with
        | .word k :: r =>
          match raiseKind k with
          | some .ignore => do
            let ((), r) ← sym ")" r
            .ok (.raise .ignore none, r)
          | some kind => do
            let ((), r) ← sym "," r
            let (m, r) ← expr fuel r
            let ((), r) ← sym ")" r
            .ok (.raise kind (some m), r)
          | none => near (.word k :: r)
        | other => near other
      else
        match rest with
        | .sym "(" :: r => callArgs fuel w r
        | _ => column fuel ts
    | .name _ _ _ :: _ => column fuel ts
    | ts => near ts

/-- Reads the arguments of a call after its opening parenthesis. -/
def callArgs : Nat → String → Reader Expr
  | 0, _, ts => near ts
  | fuel + 1, fn, ts =>
    match ts with
    | .sym ")" :: r => .ok (.call fn [] false false, r)
    | .sym "*" :: .sym ")" :: r => .ok (.call fn [] true false, r)
    | t :: r =>
      let (distinct, r) := if isKw "DISTINCT" t then (true, r) else (false, t :: r)
      match exprList fuel r with
      | .ok (args, r) => .ok (.call fn args false distinct, r)
      | .error e => .error e
    | [] => near []

/-- Reads a column reference: a name, or a name qualified by a table, itself perhaps qualified
by a schema. -/
def column : Nat → Reader Expr
  | 0, ts => near ts
  | _ + 1, ts => do
    let quoted := match ts with
      | .name _ true _ :: _ => true
      | _ => false
    let (a, r) ← name ts
    match r with
    | d :: r' =>
      if isSym "." d then do
        let (b, r'') ← name r'
        match r'' with
        | d2 :: r3 =>
          if isSym "." d2 then do
            let (c, r4) ← name r3
            .ok (.column (some b) c false, r4)
          else .ok (.column (some a) b false, r'')
        | [] => .ok (.column (some a) b false, [])
      else .ok (.column none a quoted, r)
    | [] => .ok (.column none a quoted, [])

/-- Reads a `CASE` expression after its keyword. -/
def caseExpr : Nat → Reader Expr
  | 0, ts => near ts
  | fuel + 1, ts => do
    let (subject, r) ← (match ts with
      | t :: _ =>
        if isKw "WHEN" t then .ok (none, ts)
        else do
          let (e, r) ← expr fuel ts
          .ok (some e, r)
      | [] => near [] : Except String (Option Expr × List Token))
    let (arms, r) ← caseArms fuel r
    if arms.isEmpty then near r
    else
      match optKw "ELSE" r with
      | (true, r) => do
        let (e, r) ← expr fuel r
        let ((), r) ← kw "END" r
        .ok (.case subject arms (some e), r)
      | (false, r) => do
        let ((), r) ← kw "END" r
        .ok (.case subject arms none, r)

/-- Reads the `WHEN ... THEN ...` arms of a `CASE`. -/
def caseArms : Nat → Reader (List (Expr × Expr))
  | 0, ts => .ok ([], ts)
  | fuel + 1, ts =>
    match optKw "WHEN" ts with
    | (true, r) => do
      let (c, r) ← expr fuel r
      let ((), r) ← kw "THEN" r
      let (v, r) ← expr fuel r
      let (more, r) ← caseArms fuel r
      .ok ((c, v) :: more, r)
    | (false, r) => .ok ([], r)

/-- Reads a query starting at `SELECT`. -/
def query : Nat → Reader Query
  | 0, ts => near ts
  | fuel + 1, ts => do
    let ((), r) ← kw "SELECT" ts
    let (distinct, r) := optKw "DISTINCT" r
    let r := (optKw "ALL" r).2
    let (results, r) ← (match r with
      | .sym "*" :: r' => .ok (none, r')
      | _ => do
        let (rs, r') ← resultColumns fuel r
        .ok (some rs, r') : Except String (Option (List Expr) × List Token))
    let (source, r) ← (match optKw "FROM" r with
      | (true, r) => do
        let (t, r) ← tableName r
        let (hasAs, r) := optKw "AS" r
        match r with
        | .word w :: r' =>
          if !reserved.contains w.toUpper then .ok (some (t, some w), r')
          else if hasAs then near r else .ok (some (t, none), r)
        | .name a _ _ :: r' => .ok (some (t, some a), r')
        | _ => if hasAs then near r else .ok (some (t, none), r)
      | (false, r) => .ok (none, r) : Except String (Option (String × Option String) × List Token))
    let (cond, r) ← (match optKw "WHERE" r with
      | (true, r) => do
        let (e, r) ← expr fuel r
        .ok (some e, r)
      | (false, r) => .ok (none, r) : Except String (Option Expr × List Token))
    let (order, r) ← (match optKws ["ORDER", "BY"] r with
      | (true, r) => orderTerms fuel r
      | (false, r) => .ok ([], r))
    match optKw "LIMIT" r with
    | (true, r) => do
      let (lim, r) ← expr fuel r
      match r with
      | t :: r' =>
        if isKw "OFFSET" t then do
          let (off, r'') ← expr fuel r'
          .ok (.mk distinct results source cond order (some lim) (some off), r'')
        else if isSym "," t then do
          let (cnt, r'') ← expr fuel r'
          .ok (.mk distinct results source cond order (some cnt) (some lim), r'')
        else .ok (.mk distinct results source cond order (some lim) none, r)
      | [] => .ok (.mk distinct results source cond order (some lim) none, [])
    | (false, r) => .ok (.mk distinct results source cond order none none, r)

/-- Reads result columns, each with an optional alias, separated by commas. -/
def resultColumns : Nat → Reader (List Expr)
  | 0, ts => near ts
  | fuel + 1, ts => do
    let (e, r) ← expr fuel ts
    let (hasAs, r) := optKw "AS" r
    let r ← (match r with
      | .word w :: r' => if !reserved.contains w.toUpper then .ok r' else if hasAs then near r else .ok r
      | .name _ _ _ :: r' | .str _ :: r' => .ok r'
      | _ => if hasAs then near r else .ok r : Except String (List Token))
    match optSym "," r with
    | (true, r) => do
      let (more, r) ← resultColumns fuel r
      .ok (e :: more, r)
    | (false, r) => .ok ([e], r)

/-- Reads the terms of an `ORDER BY`, each with an optional direction. -/
def orderTerms : Nat → Reader (List (Expr × Bool))
  | 0, ts => near ts
  | fuel + 1, ts => do
    let (e, r) ← expr fuel ts
    let (desc, r) := match r with
      | t :: r' => if isKw "DESC" t then (true, r') else if isKw "ASC" t then (false, r') else (false, r)
      | [] => (false, [])
    match optSym "," r with
    | (true, r) => do
      let (more, r) ← orderTerms fuel r
      .ok ((e, desc) :: more, r)
    | (false, r) => .ok ([(e, desc)], r)

end

/-- Reads names separated by commas up to a closing parenthesis, each with the collation it may
name; a direction after a name is skipped. -/
def keyList : Nat → Reader (List (String × Option String))
  | 0, ts => near ts
  | fuel + 1, ts => do
    let (n, ts) ← name ts
    let (coll, ts) ← match optKw "COLLATE" ts with
      | (true, r) => do
        let (c, r) ← name r
        .ok (some c, r)
      | (_, r) => .ok (none, r)
    let ts := (optKw "ASC" ts).2
    let ts := (optKw "DESC" ts).2
    match ts with
    | t :: rest =>
      if isSym "," t then do
        let (ns, ts) ← keyList fuel rest
        .ok ((n, coll) :: ns, ts)
      else if isSym ")" t then .ok ([(n, coll)], rest)
      else near (t :: rest)
    | [] => near []

/-- Reads names separated by commas up to a closing parenthesis; each may carry a collation and
a direction. -/
def nameList (fuel : Nat) (ts : List Token) : Except String (List String × List Token) := do
  let (ks, r) ← keyList fuel ts
  .ok (ks.map (·.1), r)

/-- Skips a parenthesised group whose opening parenthesis has been read. -/
def skipGroup : Nat → Nat → List Token → List Token
  | 0, _, ts => ts
  | _ + 1, _, [] => []
  | fuel + 1, depth, t :: rest =>
    if isSym "(" t then skipGroup fuel (depth + 1) rest
    else if isSym ")" t then (if depth = 0 then rest else skipGroup fuel (depth - 1) rest)
    else skipGroup fuel depth rest

/-- Skips an `ON CONFLICT` clause of a constraint. -/
def skipConflictClause (ts : List Token) : List Token :=
  match optKws ["ON", "CONFLICT"] ts with
  | (true, _ :: r) => r
  | (_, r) => r

/-- Reads an optional `FOR EACH ROW`. -/
def forEachRow (ts : List Token) : Except String (List Token × Unit) :=
  match ts with
  | f :: e :: rest =>
    if isKw "FOR" f then
      if isKw "EACH" e then do
        let ((), rest) ← kw "ROW" rest
        .ok (rest, ())
      else near (e :: rest)
    else .ok (ts, ())
  | _ => .ok (ts, ())

/-- Reads the constraints of a column; `label` is the name the last `CONSTRAINT` gave. -/
def columnConstraints (fuel : Nat) : Nat → Option String → List Token → ColumnDef →
    Except String (ColumnDef × List Token)
  | 0, _, ts, c => .ok (c, ts)
  | n + 1, label, ts, c =>
    match ts with
    | t :: rest =>
      if isKw "CONSTRAINT" t then do
        let (nm, r) ← name rest
        columnConstraints fuel n (some nm) r c
      else if isKw "PRIMARY" t then do
        let ((), r) ← kw "KEY" rest
        let r := (optKw "ASC" r).2
        let r := (optKw "DESC" r).2
        let r := skipConflictClause r
        let r := (optKw "AUTOINCREMENT" r).2
        columnConstraints fuel n label r { c with primaryKey := true }
      else if isKw "NOT" t then do
        let ((), r) ← kw "NULL" rest
        columnConstraints fuel n label (skipConflictClause r) { c with notNull := true }
      else if isKw "NULL" t then columnConstraints fuel n label (skipConflictClause rest) c
      else if isKw "UNIQUE" t then columnConstraints fuel n label (skipConflictClause rest) { c with unique := true }
      else if isKw "DEFAULT" t then
        match rest with
        | .sym "(" :: r => do
          let (e, r) ← expr fuel r
          let ((), r) ← sym ")" r
          columnConstraints fuel n label r { c with default := some e }
        | .sym s :: .num v real :: r =>
          if s == "-" || s == "+" then do
            let value ← numberValue v real (s == "-")
            columnConstraints fuel n label r { c with default := some (.lit value) }
          else near rest
        | _ => do
          let (e, r) ← primary fuel rest
          columnConstraints fuel n label r { c with default := some e }
      else if isKw "CHECK" t then do
        let ((), r) ← sym "(" rest
        let first := r.length
        let (e, r) ← expr fuel r
        let last := r.length
        let ((), r) ← sym ")" r
        let lbl := match label with
          | some nm => CheckLabel.text nm
          | none => .span first last
        columnConstraints fuel n label r { c with checks := c.checks ++ [(e, lbl)] }
      else if isKw "COLLATE" t then do
        let (coll, r) ← name rest
        columnConstraints fuel n label r { c with collation := some coll }
      else if isKw "REFERENCES" t then do
        let (_, r) ← name rest
        let r := match r with
          | .sym "(" :: r' => skipGroup (r'.length + 1) 0 r'
          | r' => r'
        let r := r.dropWhile fun u => isKw "ON" u || isKw "DELETE" u || isKw "UPDATE" u ||
          isKw "CASCADE" u || isKw "RESTRICT" u || isKw "SET" u || isKw "NULL" u || isKw "DEFAULT" u ||
          isKw "NO" u || isKw "ACTION" u || isKw "DEFERRABLE" u || isKw "INITIALLY" u ||
          isKw "DEFERRED" u || isKw "IMMEDIATE" u || isKw "MATCH" u
        columnConstraints fuel n label r c
      else if isKw "GENERATED" t || isKw "AS" t then
        let r := r0 t rest
        columnConstraints fuel n label r c
      else .ok (c, ts)
    | [] => .ok (c, [])
where
  /-- The tokens after a generated column clause. -/
  r0 (t : Token) (rest : List Token) : List Token :=
    let r := if isKw "GENERATED" t then (optKws ["ALWAYS", "AS"] rest).2 else rest
    let r := match r with
      | .sym "(" :: r' => skipGroup (r'.length + 1) 0 r'
      | r' => r'
    let r := (optKw "STORED" r).2
    (optKw "VIRTUAL" r).2

/-- Reads the column definitions and table constraints of a table up to its closing
parenthesis. -/
def tableBody (fuel : Nat) : Nat → List Token → List ColumnDef → List TableConstraint →
    Except String ((List ColumnDef × List TableConstraint) × List Token)
  | 0, ts, _, _ => near ts
  | n + 1, ts, cols, cons => do
    let (label, ts) : Option String × List Token := match optKw "CONSTRAINT" ts with
      | (true, u :: r) => (match u with
        | .word w => some w
        | .name w _ _ => some w
        | .str w => some w
        | other => some other.text, r)
      | (_, r) => (none, r)
    let (item, r) ← (match ts with
      | t :: rest =>
        if isKw "PRIMARY" t then do
          let ((), r) ← kw "KEY" rest
          let ((), r) ← sym "(" r
          let (keys, r) ← nameList (r.length + 1) r
          .ok (Sum.inr (TableConstraint.primaryKey keys), skipConflictClause r)
        else if isKw "UNIQUE" t then do
          let ((), r) ← sym "(" rest
          let (keys, r) ← nameList (r.length + 1) r
          .ok (Sum.inr (TableConstraint.unique keys), skipConflictClause r)
        else if isKw "CHECK" t then do
          let ((), r) ← sym "(" rest
          let first := r.length
          let (e, r) ← expr fuel r
          let last := r.length
          let ((), r) ← sym ")" r
          let lbl := match label with
            | some nm => CheckLabel.text nm
            | none => .span first last
          .ok (Sum.inr (TableConstraint.check e lbl), r)
        else if isKw "FOREIGN" t then do
          let ((), r) ← kw "KEY" rest
          let ((), r) ← sym "(" r
          let (_, r) ← nameList (r.length + 1) r
          let ((), r) ← kw "REFERENCES" r
          let (_, r) ← name r
          let r := match r with
            | .sym "(" :: r' => skipGroup (r'.length + 1) 0 r'
            | r' => r'
          let r := r.dropWhile fun u => !(isSym "," u || isSym ")" u)
          .ok (Sum.inr TableConstraint.foreignKey, r)
        else do
          let (nm, r) ← name ts
          let (ty, r) := typeName (r.length + 1) r []
          let (c, r) ← columnConstraints fuel (r.length + 1) none r { name := nm, type := ty }
          .ok (Sum.inl c, r)
      | [] => near [] : Except String ((ColumnDef ⊕ TableConstraint) × List Token))
    let (cols, cons) := match item with
      | .inl c => (cols ++ [c], cons)
      | .inr k => (cols, cons ++ [k])
    match r with
    | u :: r' =>
      if isSym "," u then tableBody fuel n r' cols cons
      else if isSym ")" u then .ok ((cols, cons), r')
      else near (u :: r')
    | [] => near []

/-- Reads rows of values: parenthesised expression lists separated by commas. -/
def valueRows (fuel : Nat) : Nat → Reader (List (List Expr))
  | 0, ts => near ts
  | n + 1, ts => do
    let ((), ts) ← sym "(" ts
    let (row, ts) ← exprList fuel ts
    match optSym "," ts with
    | (true, ts) => do
      let (more, ts) ← valueRows fuel n ts
      .ok (row :: more, ts)
    | (false, ts) => .ok ([row], ts)

/-- Reads assignments `col = expr` separated by commas. -/
def assignments (fuel : Nat) : Nat → Reader (List (String × Expr))
  | 0, ts => near ts
  | n + 1, ts => do
    let (c, ts) ← name ts
    let ((), ts) ← sym "=" ts
    let (e, ts) ← expr fuel ts
    match optSym "," ts with
    | (true, ts) => do
      let (more, ts) ← assignments fuel n ts
      .ok ((c, e) :: more, ts)
    | (false, ts) => .ok ([(c, e)], ts)

/-- Reads an optional `WHERE` condition. -/
def whereClause (fuel : Nat) (ts : List Token) : Except String (Option Expr × List Token) :=
  match optKw "WHERE" ts with
  | (true, ts) => do
    let (e, ts) ← expr fuel ts
    .ok (some e, ts)
  | (false, ts) => .ok (none, ts)

/-- Reads an `OR` conflict clause after `INSERT` or `UPDATE`. -/
def orConflict (ts : List Token) : Except String (Option Conflict × List Token) :=
  match ts with
  | o :: c :: rest =>
    if isKw "OR" o then
      match c with
      | .word w =>
        match w.toUpper with
        | "ROLLBACK" => .ok (some .rollback, rest)
        | "ABORT" => .ok (some .abort, rest)
        | "FAIL" => .ok (some .fail, rest)
        | "IGNORE" => .ok (some .ignore, rest)
        | "REPLACE" => .ok (some .replace, rest)
        | _ => near (c :: rest)
      | _ => near (c :: rest)
    else .ok (none, ts)
  | _ => .ok (none, ts)

/-- Reads a statement that reads or changes rows. -/
def dml (fuel : Nat) (ts : List Token) : Except String (Dml × List Token) :=
  match ts with
  | t :: rest =>
    if isKw "INSERT" t || isKw "REPLACE" t then do
      let (conflict, r) ← if isKw "REPLACE" t then .ok (some Conflict.replace, rest) else orConflict rest
      let ((), r) ← kw "INTO" r
      let (tbl, r) ← tableName r
      let r := match r with
        | a :: _ :: r' => if isKw "AS" a then r' else r
        | _ => r
      let (cols, r) ← (match r with
        | .sym "(" :: r => do
          let (cs, r) ← nameList (r.length + 1) r
          .ok (some cs, r)
        | _ => .ok (none, r) : Except String (Option (List String) × List Token))
      match r with
      | u :: r' =>
        if isKw "VALUES" u then do
          let (rows, r) ← valueRows fuel (r'.length + 1) r'
          .ok (.insert conflict tbl cols (.values rows), r)
        else if isKw "SELECT" u then do
          let (q, r) ← query fuel r
          .ok (.insert conflict tbl cols (.query q), r)
        else if isKw "DEFAULT" u then do
          let ((), r) ← kw "VALUES" r'
          .ok (.insert conflict tbl cols .defaults, r)
        else near r
      | [] => near []
    else if isKw "UPDATE" t then do
      let (conflict, r) ← orConflict rest
      let (tbl, r) ← tableName r
      let ((), r) ← kw "SET" r
      let (sets, r) ← assignments fuel (r.length + 1) r
      let (cond, r) ← whereClause fuel r
      .ok (.update conflict tbl sets cond, r)
    else if isKw "DELETE" t then do
      let ((), r) ← kw "FROM" rest
      let (tbl, r) ← tableName r
      let (cond, r) ← whereClause fuel r
      .ok (.delete tbl cond, r)
    else if isKw "SELECT" t then do
      let (q, r) ← query fuel ts
      .ok (.select q, r)
    else near ts
  | [] => near []

/-- Reads the statements of a trigger body up to its `END`. -/
def triggerBody (fuel : Nat) : Nat → Reader (List Dml)
  | 0, ts => near ts
  | n + 1, ts =>
    match ts with
    | t :: rest =>
      if isKw "END" t then .ok ([], rest)
      else do
        let (d, r) ← dml fuel ts
        let ((), r) ← sym ";" r
        let (more, r) ← triggerBody fuel n r
        .ok (d :: more, r)
    | [] => near []

/-- Reads `CREATE TRIGGER` after its keywords. -/
def createTrigger (fuel : Nat) (ts : List Token) : Except String (Statement × List Token) := do
  let (ine, r) := ifNotExists ts
  let (n, r) ← tableName r
  let (timing, r) : Timing × List Token := match r with
    | v :: r' =>
      if isKw "BEFORE" v then (.before, r')
      else if isKw "AFTER" v then (.after, r')
      else match optKws ["INSTEAD", "OF"] r with
        | (true, r2) => (.insteadOf, r2)
        | (false, _) => (.before, r)
    | [] => (.before, [])
  let (event, columns, r) ← (match r with
    | v :: r' =>
      if isKw "INSERT" v then .ok (TriggerEvent.insert, [], r')
      else if isKw "DELETE" v then .ok (TriggerEvent.delete, [], r')
      else if isKw "UPDATE" v then
        match optKw "OF" r' with
        | (true, r2) => do
          let rec columnsOf : Nat → Reader (List String)
            | 0, ts => near ts
            | k + 1, ts => do
              let (c, ts) ← name ts
              match optSym "," ts with
              | (true, ts) => do
                let (more, ts) ← columnsOf k ts
                .ok (c :: more, ts)
              | (false, ts) => .ok ([c], ts)
          let (cols, r3) ← columnsOf (r2.length + 1) r2
          .ok (TriggerEvent.update, cols, r3)
        | (false, r2) => .ok (TriggerEvent.update, [], r2)
      else near (v :: r')
    | [] => near [] : Except String (TriggerEvent × List String × List Token))
  let ((), r) ← kw "ON" r
  let (tbl, r) ← tableName r
  let (r, _) ← forEachRow r
  let (cond, r) ← (match optKw "WHEN" r with
    | (true, r) => do
      let (e, r) ← expr fuel r
      .ok (some e, r)
    | (false, r) => .ok (none, r) : Except String (Option Expr × List Token))
  let ((), r) ← kw "BEGIN" r
  let (body, r) ← triggerBody fuel (r.length + 1) r
  .ok (.createTrigger ine { name := n, table := tbl, timing, event, columns, condition := cond, body }, r)

/-- Reads one statement. -/
def statement (fuel : Nat) (ts : List Token) : Except String (Statement × List Token) :=
  match ts with
  | t :: rest =>
    if isKw "CREATE" t then
      let rest := (optKw "TEMP" rest).2
      let rest := (optKw "TEMPORARY" rest).2
      let (unique, rest) := optKw "UNIQUE" rest
      match rest with
      | u :: rest =>
        if isKw "TABLE" u && !unique then do
          let (ine, r) := ifNotExists rest
          let (n, r) ← tableName r
          let ((), r) ← sym "(" r
          let ((cols, cons), r) ← tableBody fuel (r.length + 1) r [] []
          let r := (optKws ["WITHOUT", "ROWID"] r).2
          let r := (optSym "," r).2
          let r := (optKw "STRICT" r).2
          .ok (.createTable ine n cols cons, r)
        else if isKw "INDEX" u then do
          let (ine, r) := ifNotExists rest
          let (n, r) ← tableName r
          let ((), r) ← kw "ON" r
          let (tbl, r) ← tableName r
          let ((), r) ← sym "(" r
          let (cols, r) ← keyList (r.length + 1) r
          let (_, r) ← whereClause fuel r
          .ok (.createIndex unique ine n tbl cols, r)
        else if isKw "TRIGGER" u && !unique then createTrigger fuel rest
        else near (u :: rest)
      | [] => near []
    else if isKw "DROP" t then
      match rest with
      | u :: r =>
        let (ie, r) := ifExists r
        match tableName r with
        | .ok (n, r) =>
          if isKw "TABLE" u then .ok (.dropTable ie n, r)
          else if isKw "INDEX" u then .ok (.dropIndex ie n, r)
          else if isKw "TRIGGER" u then .ok (.dropTrigger ie n, r)
          else near (u :: r)
        | .error e => .error e
      | [] => near []
    else if isKw "ALTER" t then do
      let ((), r) ← kw "TABLE" rest
      let (tbl, r) ← tableName r
      match r with
      | u :: r =>
        if isKw "ADD" u then do
          let r := (optKw "COLUMN" r).2
          let (nm, r) ← name r
          let (ty, r) := typeName (r.length + 1) r []
          let (c, r) ← columnConstraints fuel (r.length + 1) none r { name := nm, type := ty }
          .ok (.alter tbl (.addColumn c), r)
        else if isKw "RENAME" u then
          match optKw "TO" r with
          | (true, r) => do
            let (nm, r) ← name r
            .ok (.alter tbl (.renameTo nm), r)
          | (false, r) => do
            let r := (optKw "COLUMN" r).2
            let (old, r) ← name r
            let ((), r) ← kw "TO" r
            let (new, r) ← name r
            .ok (.alter tbl (.renameColumn old new), r)
        else if isKw "DROP" u then do
          let r := (optKw "COLUMN" r).2
          let (nm, r) ← name r
          .ok (.alter tbl (.dropColumn nm), r)
        else near (u :: r)
      | [] => near []
    else if isKw "BEGIN" t then
      let r := rest.dropWhile fun u => isKw "DEFERRED" u || isKw "IMMEDIATE" u || isKw "EXCLUSIVE" u
      .ok (.begin, (optKw "TRANSACTION" r).2)
    else if isKw "COMMIT" t || isKw "END" t then .ok (.commit, (optKw "TRANSACTION" rest).2)
    else if isKw "ROLLBACK" t then .ok (.rollback, (optKw "TRANSACTION" rest).2)
    else if isKw "PRAGMA" t || isKw "VACUUM" t || isKw "ANALYZE" t || isKw "REINDEX" t then
      .ok (.noop, rest.dropWhile (fun u => !isSym ";" u))
    else do
      let (d, r) ← dml fuel ts
      .ok (.dml d, r)
  | [] => near []

/-- Reads statements separated by semicolons. -/
def script (fuel : Nat) : Nat → List Token → Except String (List Statement)
  | 0, _ => .ok []
  | n + 1, ts =>
    match ts with
    | [] => .ok []
    | t :: rest =>
      if isSym ";" t then script fuel n rest
      else do
        let (s, r) ← statement fuel ts
        match r with
        | [] => .ok [s]
        | u :: r' =>
          if isSym ";" u then do
            let more ← script fuel n r'
            .ok (s :: more)
          else near (u :: r')

end Parse

/-- Whether a character is a blank at the ends of a `CHECK` condition's text. -/
def isTextBlank (c : Char) : Bool :=
  c = ' ' || c = '\t' || c = '\n' || c = '\r' || c.toNat = 11 || c.toNat = 12

/-- The text of a statement between the parentheses of a `CHECK` condition, without blanks at its
ends, given the numbers of tokens left after the opening parenthesis and at the closing one. -/
def spanText (src : List Char) (toks : List Spanned) (first last : Nat) : String :=
  let n := toks.length
  let start := ((toks[n - first - 1]?).map (·.2.2)).getD 0
  let stop := ((toks[n - last]?).map (·.2.1)).getD src.length
  let cs := (src.drop start).take (stop - start)
  String.ofList ((cs.dropWhile isTextBlank).reverse.dropWhile isTextBlank).reverse

/-- A label with its text filled in. -/
def CheckLabel.resolve (text : Nat → Nat → String) : CheckLabel → CheckLabel
  | .span a b => .text (text a b)
  | l => l

/-- A column definition with the texts of its `CHECK` labels filled in. -/
def ColumnDef.resolveChecks (text : Nat → Nat → String) (c : ColumnDef) : ColumnDef :=
  { c with checks := c.checks.map fun (e, l) => (e, l.resolve text) }

/-- A statement with the texts of its `CHECK` labels filled in. -/
def Statement.resolveChecks (text : Nat → Nat → String) : Statement → Statement
  | .createTable ine name cols cons =>
    .createTable ine name (cols.map (·.resolveChecks text)) (cons.map fun
      | .check e l => .check e (l.resolve text)
      | k => k)
  | .alter t (.addColumn c) => .alter t (.addColumn (c.resolveChecks text))
  | st => st

/-- Reads a script of statements, or the reason it cannot be read. -/
def parseScript (src : String) : Except String (List Statement) := do
  let spanned ← spannedTokens src
  let ts := spanned.map (·.1)
  let stmts ← Parse.script (32 * (ts.length + 1)) (ts.length + 1) ts
  .ok (stmts.map (Statement.resolveChecks (spanText src.toList spanned)))

end MapReduce.Sql
