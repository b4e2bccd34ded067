import MapReduce.Text.Letters
import MapReduce.Text.Blank

/-! Environment files. A file of `KEY=value` lines sets the variables that are not set yet, in
order, and stops at the first line it cannot read; the lines before it keep their effect.

A logical line may run over several physical lines while a quote is open. A physical line that
starts with `#` after blanks is skipped, and a comment after a blank ends a line. A key starts
with an ASCII letter or `_` and goes on with ASCII letters, digits, `_` and `.`, and may follow
`export`. A value is read character by character: single quotes keep everything, double quotes
allow the escapes `\\`, `\'`, `\"`, `\$`, `\ ` and `\n`, a blank outside quotes ends the value, and
`$NAME` or `$\x7bNAME\x7d` is replaced by the variable of that name, else by an earlier line's value. -/

namespace MapReduce

/-- Variables by name; the first binding of a name counts. -/
abbrev Environment := List (String × String)

namespace Environment

/-- The value of a variable. -/
def get? (env : Environment) (name : String) : Option String :=
  (env.find? (·.1 == name)).map (·.2)

/-- Sets a variable. -/
def set (env : Environment) (name value : String) : Environment :=
  (name, value) :: env.filter (·.1 != name)

/-- Removes a variable. -/
def unset (env : Environment) (name : String) : Environment :=
  env.filter (·.1 != name)

end Environment

namespace Dotenv

/-- Where the scan of a physical line leaves a logical line: complete, after a blank, after a
backslash, inside a quote (after a backslash in it), or at a comment. -/
inductive LineState where
  | complete
  | whiteSpace
  | escape
  | weakOpen
  | weakOpenEscape
  | strongOpen
  | strongOpenEscape
  | comment
  deriving DecidableEq, Repr

/-- The state after one character. -/
def LineState.next : LineState → Char → LineState
  | .whiteSpace, c =>
    if c = '#' then .comment
    else if c = '\\' then .escape
    else if c = '"' then .weakOpen
    else if c = '\'' then .strongOpen
    else .complete
  | .escape, _ => .complete
  | .complete, c =>
    if Text.isBlank c && c != '\n' && c != '\r' then .whiteSpace
    else if c = '\\' then .escape
    else if c = '"' then .weakOpen
    else if c = '\'' then .strongOpen
    else .complete
  | .weakOpen, c => if c = '\\' then .weakOpenEscape else if c = '"' then .complete else .weakOpen
  | .weakOpenEscape, _ => .weakOpen
  | .strongOpen, c => if c = '\\' then .strongOpenEscape else if c = '\'' then .complete else .strongOpen
  | .strongOpenEscape, _ => .strongOpen
  | .comment, _ => .comment

/-- Scans a physical line from a state: the final state and the position of the last character
read, the scan stopping at a comment. -/
def scan (st : LineState) (cs : List Char) (pos : Nat := 0) : LineState × Nat :=
  match cs with
  | [] => (st, pos)
  | c :: rest =>
    match st.next c with
    | .comment => (.comment, pos)
    | st' => if rest.isEmpty then (st', pos) else scan st' rest (pos + 1)

/-- The physical lines of a text, each with its line break. -/
def physicalLines (cs : List Char) : List (List Char) :=
  match cs with
  | [] => []
  | c :: rest =>
    match (c :: rest).findIdx? (· = '\n') with
    | some i => (c :: rest).take (i + 1) :: physicalLines ((c :: rest).drop (i + 1))
    | none => [c :: rest]
termination_by cs.length
decreasing_by simp only [List.length_drop, List.length_cons]; omega

/-- Drops one line break, and a carriage return before it, from the end. -/
def dropBreak (cs : List Char) : List Char :=
  match cs.reverse with
  | '\n' :: '\r' :: rest => rest.reverse
  | '\n' :: rest => rest.reverse
  | _ => cs

/-- The logical lines of physical lines, given the line gathered so far and its state. A logical
line left open at the end of the text is a failure, which ends the list. -/
def logicalLines : List (List Char) → List Char → LineState → List (Except Unit String)
  | [], _, .complete => []
  | [], _, _ => [.error ()]
  | line :: rest, buf, st =>
    let whole := buf ++ line
    if (whole.dropWhile Text.isBlank).head? = some '#' then
      .ok "" :: logicalLines rest [] .complete
    else
      let (st', pos) := scan st line
      match st' with
      | .complete => .ok (String.ofList (dropBreak whole)) :: logicalLines rest [] .complete
      | .comment => .ok (String.ofList (whole.take (buf.length + pos))) :: logicalLines rest [] .complete
      | _ => logicalLines rest whole st'

/-- Whether a character may continue a key. -/
def isKeyChar (c : Char) : Bool := c.isAlphanum || c = '_' || c = '.'

/-- Whether a character may continue a variable name in a value: a letter or a digit, in the
Unicode sense. -/
def isNameChar (c : Char) : Bool := Text.isAlphanumeric c

/-- The value of a variable for a substitution: the environment's, else an earlier line's. -/
def substitute (env : Environment) (earlier : List (String × Option String)) (name : String) :
    String :=
  match env.get? name with
  | some v => v
  | none => ((earlier.find? (·.1 == name)).bind (·.2)).getD ""

/-- How a value reads a variable name: not at all, after `$`, or inside `$\x7b…\x7d`. -/
inductive Substitution where
  | none
  | block
  | escapedBlock
  deriving DecidableEq, Repr

/-- The state of reading a value. -/
structure ValueState where
  strong : Bool := false
  weak : Bool := false
  escaped : Bool := false
  expectingEnd : Bool := false
  mode : Substitution := .none
  name : String := ""
  out : String := ""

/-- What one character does to a value: go on, stop at a comment, or fail. -/
inductive ValueStep where
  | next (st : ValueState)
  | stop (st : ValueState)
  | fail

/-- Reads one character of a value. -/
def valueStep (sub : String → String) (st : ValueState) (c : Char) : ValueStep :=
  if st.expectingEnd then
    if c = ' ' || c = '\t' then .next st
    else if c = '#' then .stop st
    else .fail
  else if st.escaped then
    if c = '\\' || c = '\'' || c = '"' || c = '$' || c = ' ' then
      .next { st with out := st.out.push c, escaped := false }
    else if c = 'n' then .next { st with out := st.out.push '\n', escaped := false }
    else .fail
  else if st.strong then
    if c = '\'' then .next { st with strong := false } else .next { st with out := st.out.push c }
  else if st.mode != .none then
    if isNameChar c then .next { st with name := st.name.push c }
    else match st.mode with
      | .block =>
        if c = '\x7b' && st.name.isEmpty then .next { st with mode := .escapedBlock }
        else
          let st := { st with out := st.out ++ sub st.name, name := "" }
          if c = '$' then .next { st with mode := .block }
          else .next { st with mode := .none, out := st.out.push c }
      | _ =>
        if c = '\x7d' then .next { st with mode := .none, out := st.out ++ sub st.name, name := "" }
        else .next { st with name := st.name.push c }
  else if c = '$' then .next { st with mode := .block }
  else if st.weak then
    if c = '"' then .next { st with weak := false }
    else if c = '\\' then .next { st with escaped := true }
    else .next { st with out := st.out.push c }
  else if c = '\'' then .next { st with strong := true }
  else if c = '"' then .next { st with weak := true }
  else if c = '\\' then .next { st with escaped := true }
  else if c = ' ' || c = '\t' then .next { st with expectingEnd := true }
  else .next { st with out := st.out.push c }

/-- Reads the characters of a value from a state. -/
def readValue (sub : String → String) : ValueState → List Char → Option ValueState
  | st, [] => some st
  | st, c :: rest =>
    match valueStep sub st c with
    | .next st => readValue sub st rest
    | .stop st => some st
    | .fail => none

/-- The value of a line's text after its `=`, or none when it cannot be read: a quote or a
`$\x7b` left open fails. -/
def parseValue (sub : String → String) (text : String) : Option String := do
  let st ← readValue sub {} text.toList
  if st.mode = .escapedBlock || st.strong || st.weak then none
  else some (st.out ++ sub st.name)

/-- A key at the start of characters, and the characters after it. -/
def parseKey (cs : List Char) : Option (String × List Char) :=
  match cs with
  | c :: _ =>
    if c.isAlpha || c = '_' then some (String.ofList (cs.takeWhile isKeyChar), cs.dropWhile isKeyChar)
    else none
  | [] => none

/-- The characters after an `=` that starts them. -/
def expectEqual : List Char → Option (List Char)
  | '=' :: rest => some rest
  | _ => none

/-- Reads one logical line: nothing for a blank or comment line, a key and its value, or none
when the line cannot be read. Blanks are skipped before the key and around the `=`; what
follows is the value's text up to the end of the line. -/
def parseLine (env : Environment) (earlier : List (String × Option String)) (line : String) :
    Option (Option (String × Option String)) := do
  let trimmed := ((line.toList.reverse.dropWhile Text.isBlank).reverse).dropWhile Text.isBlank
  if trimmed.isEmpty || trimmed.head? = some '#' then return none
  let (key, rest) ← parseKey trimmed
  let rest := rest.dropWhile Text.isBlank
  let (key, rest) ← if key = "export" then
      match expectEqual rest with
      | some r => some (key, r)
      | none => do
        let (k, r) ← parseKey rest
        let r ← expectEqual (r.dropWhile Text.isBlank)
        some (k, r)
    else do
      let r ← expectEqual rest
      some (key, r)
  let rest := rest.dropWhile Text.isBlank
  if rest.isEmpty || rest.head? = some '#' then return some (key, none)
  let v ← parseValue (substitute env earlier) (String.ofList rest)
  return some (key, some v)

/-- Loads logical lines into an environment: a variable already set keeps its value, and the first
line that cannot be read ends the loading. -/
def loadLines (env : Environment) (earlier : List (String × Option String)) :
    List (Except Unit String) → Environment
  | [] => env
  | .error () :: _ => env
  | .ok line :: rest =>
    match parseLine env earlier line with
    | none => env
    | some none => loadLines env earlier rest
    | some (some (k, v)) =>
      let env := if (env.get? k).isSome then env else env.set k (v.getD "")
      loadLines env ((k, v) :: earlier) rest

/-- Loads an environment file's text into an environment. -/
def load (env : Environment) (text : String) : Environment :=
  let cs := match text.toList with
    | '\uFEFF' :: rest => rest
    | cs => cs
  loadLines env [] (logicalLines (physicalLines cs) [] .complete)

end Dotenv

end MapReduce
