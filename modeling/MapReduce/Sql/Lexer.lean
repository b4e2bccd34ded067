import MapReduce.Sql.Numeric

/-! Cutting statement text into tokens: words, quoted names, texts, numbers, byte strings and
symbols, with blanks and comments between them. A number is digits with an optional point and
fraction and an optional exponent, or a point followed by digits, or `0x` and hexadecimal digits;
a number running into letters is not a token. -/

namespace MapReduce.Sql

/-- A token of statement text. -/
inductive Token where
  | word (s : String)
  /-- A name in double quotes, backquotes or brackets, with the text it was written as. -/
  | name (s : String) (doubleQuoted : Bool) (raw : String)
  | str (s : String)
  /-- A number, `real` when it has a point or an exponent. -/
  | num (s : String) (real : Bool)
  | bytes (hex : String)
  | sym (s : String)
  deriving DecidableEq, Repr, Inhabited

namespace Token

/-- The token as it was written, for messages. -/
def text : Token → String
  | .word s => s
  | .name _ _ raw => raw
  | .str s => "'" ++ String.ofList (s.toList.flatMap fun c => if c = '\'' then ['\'', '\''] else [c]) ++ "'"
  | .num s _ => s
  | .bytes h => "X'" ++ h ++ "'"
  | .sym s => s

end Token

/-- Whether a character may continue a word. -/
def wordChar (c : Char) : Bool := c.isAlphanum || c = '_' || c = '$' || c.toNat ≥ 128

/-- Whether a character may start a word. -/
def wordStart (c : Char) : Bool := c.isAlpha || c = '_' || c.toNat ≥ 128

/-- Whether a character is a blank between tokens. -/
def tokenBlank (c : Char) : Bool := c = ' ' || c = '\t' || c = '\n' || c = '\r' || c.toNat = 12

/-- The body of a quoted text after its opening quote, up to the closing quote `q`; a doubled
quote stands for one. -/
def quotedBody (q : Char) : List Char → List Char → Option (String × List Char)
  | acc, c :: rest =>
    if c = q then
      match rest with
      | d :: rest' => if d = q then quotedBody q (q :: acc) rest' else some (String.ofList acc.reverse, rest)
      | [] => some (String.ofList acc.reverse, [])
    else quotedBody q (c :: acc) rest
  | _, [] => none

/-- The text after a block comment whose opening has been read. -/
def afterBlockComment : List Char → List Char
  | '*' :: '/' :: rest => rest
  | _ :: rest => afterBlockComment rest
  | [] => []

/-- The symbols of three and two characters, longest first. -/
def longSyms : List String := ["->>", "<=", ">=", "<>", "!=", "==", "||", "<<", ">>", "->"]

/-- The symbols of one character. -/
def shortSyms : List Char := "(),;.=<>*+-/%&|~".toList

/-- Whether a character is a hexadecimal digit. -/
def isHexDigit (c : Char) : Bool := c.isDigit || ('a' ≤ c ∧ c ≤ 'f') || ('A' ≤ c ∧ c ≤ 'F')

/-- Reads a number at the start of a text that begins with a digit or a point followed by a
digit: its text, whether it is real, and the rest. -/
def numberToken (cs : List Char) : List Char × Bool × List Char :=
  match cs with
  | '0' :: x :: h :: rest =>
    if (x = 'x' || x = 'X') && isHexDigit h then
      let ds := (h :: rest).takeWhile isHexDigit
      (['0', x] ++ ds, false, (h :: rest).dropWhile isHexDigit)
    else decimal cs
  | _ => decimal cs
where
  /-- A decimal number. -/
  decimal (cs : List Char) : List Char × Bool × List Char :=
    let whole := cs.takeWhile Char.isDigit
    let rest := cs.dropWhile Char.isDigit
    let (frac, real, rest) := match rest with
      | '.' :: r => ('.' :: r.takeWhile Char.isDigit, true, r.dropWhile Char.isDigit)
      | r => ([], false, r)
    let (expo, real, rest) := match rest with
      | e :: r =>
        if e = 'e' || e = 'E' then
          match r with
          | s :: d :: r' =>
            if (s = '+' || s = '-') && d.isDigit then
              (e :: s :: d :: r'.takeWhile Char.isDigit, true, r'.dropWhile Char.isDigit)
            else if s.isDigit then (e :: (s :: d :: r').takeWhile Char.isDigit, true,
              (s :: d :: r').dropWhile Char.isDigit)
            else ([], real, e :: r)
          | [s] => if s.isDigit then ([e, s], true, []) else ([], real, e :: r)
          | [] => ([], real, e :: r)
        else ([], real, e :: r)
      | [] => ([], real, [])
    (whole ++ frac ++ expo, real, rest)

/-- Why a text could not be cut into tokens. -/
def unrecognized (cs : List Char) : String :=
  "unrecognized token: \"" ++ String.ofList cs ++ "\""

/-- A token with the positions in its text where it starts and where it ends. -/
abbrev Spanned := Token × Nat × Nat

/-- Cuts the last `n` characters of a text into tokens with their positions, or answers why it
cannot. Each round consumes a character. -/
def tokenize (n : Nat) : Nat → List Char → List Spanned → Except String (List Spanned)
  | 0, _, acc => .ok acc.reverse
  | _ + 1, [], acc => .ok acc.reverse
  | fuel + 1, c :: rest, acc =>
    let start := n - (rest.length + 1)
    let emit (t : Token) (r : List Char) : List Spanned := (t, start, n - r.length) :: acc
    if tokenBlank c then tokenize n fuel rest acc
    else if c = '-' ∧ rest.head? = some '-' then tokenize n fuel (rest.dropWhile (· ≠ '\n')) acc
    else if c = '/' ∧ rest.head? = some '*' then tokenize n fuel (afterBlockComment (rest.drop 1)) acc
    else if (c = 'x' || c = 'X') && rest.head? = some '\'' then
      let body := (rest.drop 1).takeWhile (· ≠ '\'')
      let after := (rest.drop 1).dropWhile (· ≠ '\'')
      match after with
      | '\'' :: r =>
        if body.all isHexDigit && body.length % 2 = 0 then
          tokenize n fuel r (emit (.bytes (String.ofList body)) r)
        else .error (unrecognized (c :: '\'' :: body ++ ['\'']))
      | _ => .error (unrecognized (c :: rest))
    else if wordStart c then
      let w := (c :: rest).takeWhile wordChar
      let r := (c :: rest).dropWhile wordChar
      tokenize n fuel r (emit (.word (String.ofList w)) r)
    else if c.isDigit || (c = '.' && (rest.head?.map Char.isDigit).getD false) then
      let (t, real, r) := numberToken (c :: rest)
      match r with
      | d :: _ =>
        if wordChar d then .error (unrecognized (t ++ r.takeWhile wordChar))
        else tokenize n fuel r (emit (.num (String.ofList t) real) r)
      | [] => tokenize n fuel r (emit (.num (String.ofList t) real) r)
    else if c = '\'' then
      match quotedBody '\'' [] rest with
      | some (s, r) => tokenize n fuel r (emit (.str s) r)
      | none => .error (unrecognized (c :: rest))
    else if c = '"' || c = '`' then
      match quotedBody c [] rest with
      | some (s, r) =>
        let raw := (c :: rest).take ((c :: rest).length - r.length)
        tokenize n fuel r (emit (.name s (c = '"') (String.ofList raw)) r)
      | none => .error (unrecognized (c :: rest))
    else if c = '[' then
      let body := rest.takeWhile (· ≠ ']')
      match rest.dropWhile (· ≠ ']') with
      | ']' :: r =>
        tokenize n fuel r (emit (.name (String.ofList body) false ("[" ++ String.ofList body ++ "]")) r)
      | _ => .error (unrecognized (c :: rest))
    else
      let three := String.ofList ((c :: rest).take 3)
      let two := String.ofList ((c :: rest).take 2)
      if three = "->>" then tokenize n fuel (rest.drop 2) (emit (.sym three) (rest.drop 2))
      else if longSyms.contains two then tokenize n fuel (rest.drop 1) (emit (.sym two) (rest.drop 1))
      else if shortSyms.contains c then tokenize n fuel rest (emit (.sym (String.singleton c)) rest)
      else .error (unrecognized [c])

/-- The tokens of a text with their positions. -/
def spannedTokens (src : String) : Except String (List Spanned) :=
  tokenize src.length (src.length + 1) src.toList []

/-- The tokens of a text. -/
def tokens (src : String) : Except String (List Token) :=
  (spannedTokens src).map (·.map (·.1))

end MapReduce.Sql
