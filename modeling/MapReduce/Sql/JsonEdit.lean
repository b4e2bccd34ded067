import MapReduce.Sql.JsonText
import MapReduce.Sql.Format

/-! # Building and editing JSON documents

The functions that build JSON (`json_quote`, `json_array`, `json_object`) and those that edit a
document (`json_insert`, `json_replace`, `json_set`, `json_remove`, `json_patch`).

A store value enters a document as `null`, a number or a string. A text that comes straight from
a JSON function carries a JSON mark and enters as the document it holds. A byte string cannot
enter at all. The builders write a binary64 number with fifteen significant digits; an edit keeps
the number's text as the store writes it, and writes infinities as `9e999`.

An edit follows its path the way a lookup does. `json_insert` and `json_set` make the element the
path names when only its last step is missing from an object, or is the index just past the end
of an array. Further missing steps become empty objects (a key step) or arrays (an index step) on
the way. When the path cannot be completed, nothing is made. A key made by an edit is written
with its escapes when it was quoted with escapes, and as its text otherwise. -/

namespace MapReduce.Sql

namespace JsonDoc

/-- What an edit does at the element its path names. -/
inductive EditKind where
  | insert
  | replace
  | set
  | remove
  deriving DecidableEq, Repr

/-- Whether an edit makes elements that are missing. -/
def EditKind.creates : EditKind → Bool
  | .insert | .set => true
  | _ => false

/-- How an edit's path fared: it named an element or made one, it named nothing, or it was
malformed. -/
inductive EditStatus where
  | done
  | missing
  | badPath
  deriving DecidableEq, Repr

/-- A key step of a path after its `.`: the key to compare with the members' keys, the key to
write when a member is made, and the text after the step; none when the step is malformed. -/
def keyStep (rest : List Char) : Option (String × JsonString × List Char) :=
  match rest with
  | '"' :: r =>
    let k := r.takeWhile (· ≠ '"')
    match r.dropWhile (· ≠ '"') with
    | '"' :: after =>
      if k.contains '\\' then
        some (pathKey k, ⟨pathKey k, some (standardBody (k.length + 1) k "")⟩, after)
      else some (String.ofList k, ⟨String.ofList k, none⟩, after)
    | _ => none
  | _ =>
    let k := rest.takeWhile fun c => c ≠ '.' ∧ c ≠ '['
    if k.isEmpty then none
    else some (String.ofList k, ⟨String.ofList k, none⟩, rest.dropWhile fun c => c ≠ '.' ∧ c ≠ '[')

/-- What an index step names in an array of `len` elements. -/
inductive IndexStep where
  | at (k : Nat) (after : List Char)
  | missing
  | bad

/-- Decimal digits as a 32-bit unsigned number. -/
def digits32 (ds : List Char) : Nat := ds.foldl (fun acc d => (acc * 10 + digitOf d) % 4294967296) 0

/-- An index step after its `[`: `n]`, `#]` (the end) or `#-n]` (`n` before the end, missing
when that is before the start). -/
def indexStep (len : Nat) (rest : List Char) : IndexStep :=
  let ds := rest.takeWhile Char.isDigit
  match ds, rest.dropWhile Char.isDigit with
  | _ :: _, ']' :: after => .at (digits32 ds) after
  | _, _ =>
    match rest with
    | '#' :: '-' :: d :: r =>
      if d.isDigit then
        let nn := digits32 (d :: r.takeWhile Char.isDigit)
        if nn > len then .missing
        else match r.dropWhile Char.isDigit with
          | ']' :: after => .at (len - nn) after
          | _ => .bad
      else .bad
    | '#' :: ']' :: after => .at len after
    | _ => .bad

/-- Edits the element a path names within a document: the document after the edit (none when
the element itself is removed) and how the path fared. A missing element is made, when the edit
makes elements, from `value` and the steps after it. -/
def editAt (kind : EditKind) (value : JsonDoc) : Nat → JsonDoc → List Char →
    Option JsonDoc × EditStatus
  | _, d, [] =>
    match kind with
    | .insert => (some d, .done)
    | .remove => (none, .done)
    | _ => (some value, .done)
  | 0, d, _ :: _ => (some d, .badPath)
  | fuel + 1, d, '.' :: rest =>
    match keyStep rest with
    | none => (some d, .badPath)
    | some (k, label, after) =>
      match d with
      | .obj kvs =>
        match kvs.findIdx? (fun (key, _) => key.value == k) with
        | some i =>
          match kvs.drop i with
          | (key, v) :: post =>
            let (nv, st) := editAt kind value fuel v after
            let kvs := match nv with
              | some x => kvs.take i ++ (key, x) :: post
              | none => kvs.take i ++ post
            (some (.obj kvs), st)
          | [] => (some d, .missing)
        | none =>
          if kind.creates then
            let (made, st) := if after.isEmpty then (some value, EditStatus.done)
              else editAt kind value fuel (if after.head? == some '.' then .obj [] else .arr []) after
            match made, st with
            | some m, .done => (some (.obj (kvs ++ [(label, m)])), .done)
            | _, st => (some d, st)
          else (some d, .missing)
      | _ => (some d, .missing)
  | fuel + 1, d, '[' :: rest =>
    match d with
    | .arr xs =>
      match indexStep xs.length rest with
      | .bad => (some d, .badPath)
      | .missing => (some d, .missing)
      | .at k after =>
        match xs.drop k with
        | v :: post =>
          let (nv, st) := editAt kind value fuel v after
          let xs := match nv with
            | some x => xs.take k ++ x :: post
            | none => xs.take k ++ post
          (some (.arr xs), st)
        | [] =>
          if k == xs.length && kind.creates then
            let (made, st) := if after.isEmpty then (some value, EditStatus.done)
              else editAt kind value fuel (if after.head? == some '.' then .obj [] else .arr []) after
            match made, st with
            | some m, .done => (some (.arr (xs ++ [m])), .done)
            | _, st => (some d, st)
          else (some d, .missing)
    | _ => (some d, .missing)
  | _ + 1, d, _ :: _ => (some d, .badPath)

/-- Edits a document at a path written with its `$`. -/
def editPath (kind : EditKind) (value d : JsonDoc) (path : String) : Option JsonDoc × EditStatus :=
  match path.toList with
  | '$' :: steps => editAt kind value (steps.length + 1) d steps
  | _ => (some d, .badPath)

/-- Merges a patch into a document, to as many levels as the fuel allows: a patch that is not
an object replaces the document; otherwise the document becomes an object if it is not one, and
each member of the patch, in order, removes the first member of that key when it is null, is
merged into it when there is one, and is added otherwise, merged into null. -/
def mergePatch : Nat → JsonDoc → JsonDoc → JsonDoc
  | 0, _, patch => patch
  | fuel + 1, target, .obj pkvs =>
    let tkvs := match target with
      | .obj kvs => kvs
      | _ => []
    .obj (pkvs.foldl (fun (acc : List (JsonString × JsonDoc)) (pk, pv) =>
      match acc.findIdx? (fun (k, _) => k.value == pk.value) with
      | some i =>
        match acc.drop i with
        | (k, tv) :: post =>
          match pv with
          | .null => acc.take i ++ post
          | _ => acc.take i ++ (k, mergePatch fuel tv pv) :: post
        | [] => acc
      | none =>
        match pv with
        | .null => acc
        | .obj _ => acc ++ [(pk, mergePatch fuel .null pv)]
        | _ => acc ++ [(pk, pv)]) tkvs)
  | _ + 1, _, patch => patch

end JsonDoc

/-- The text of a binary64 number as the JSON builders write it: fifteen significant digits, a
point always, and an infinity as `9.0e+999`. -/
def jsonRealText (x : Float64) : String := formatReal "%!0.15g" x

/-- A store value as a document for an edit: a marked text is read as JSON, any other text is a
string, a number keeps the text the store writes for it. -/
def editValue (v : Value) (marked : Bool) : Except String JsonDoc :=
  match v with
  | .null => .ok .null
  | .int i => .ok (.num (toString i))
  | .real x =>
    match x with
    | .infinite neg => .ok (.num (if neg then "-9e999" else "9e999"))
    | _ => .ok (.num (renderReal x))
  | .text s =>
    if marked then
      match JsonDoc.read s with
      | some d => .ok d
      | none => .error "malformed JSON"
    else .ok (.str ⟨s, none⟩)
  | .blob _ => .error "JSON cannot hold BLOB values"

/-- Appends a store value to JSON text as the builders write it: a marked text as it is. -/
def appendJson (acc : String) (v : Value) (marked : Bool) : Except String String :=
  match v with
  | .null => .ok (acc ++ "null")
  | .int i => .ok (acc ++ toString i)
  | .real x => .ok (acc ++ jsonRealText x)
  | .text s => .ok (if marked then acc ++ s else JsonDoc.writeString acc ⟨s, none⟩)
  | .blob _ => .error "JSON cannot hold BLOB values"

/-- Appends values separated by commas. -/
def appendItems (acc : String) (first : Bool) : List (Value × Bool) → Except String String
  | [] => .ok acc
  | (v, m) :: rest => do
    let acc ← appendJson (if first then acc else acc.push ',') v m
    appendItems acc false rest

/-- Appends the members of `json_object` from its arguments in pairs. -/
def appendMembers (acc : String) (first : Bool) : List (Value × Bool) → Except String String
  | (.text k, _) :: (v, m) :: rest => do
    let acc := JsonDoc.writeString (if first then acc else acc.push ',') ⟨k, none⟩
    let acc ← appendJson (acc.push ':') v m
    appendMembers acc false rest
  | [] => .ok acc
  | [_] => .error "json_object() requires an even number of arguments"
  | _ => .error "json_object() labels must be TEXT"

/-- `json_array(...)`. -/
def jsonArray (args : List (Value × Bool)) : Except String Value := do
  let t ← appendItems "[" true args
  .ok (.text (t.push ']'))

/-- `json_object(...)`. -/
def jsonObject (args : List (Value × Bool)) : Except String Value :=
  if args.length % 2 == 1 then .error "json_object() requires an even number of arguments"
  else do
    let t ← appendMembers "\x7b" true args
    .ok (.text (t.push '}'))

/-- The document of an edited value, or the failure of a malformed one. -/
def editDoc (v : Value) : Except String JsonDoc :=
  match JsonDoc.read v.toText with
  | some d => .ok d
  | none => .error "malformed JSON"

/-- Applies the pairs of path and value of `json_insert`, `json_replace` or `json_set` in order;
a null path is skipped. -/
def editPairs (kind : JsonDoc.EditKind) (d : JsonDoc) : List (Value × Bool) → Except String JsonDoc
  | (p, _) :: (v, m) :: rest =>
    if p.isNull then editPairs kind d rest
    else do
      let path := p.leadingText
      if path.toList.head? != some '$' then .error (badPathMessage path)
      else do
        let value ← editValue v m
        let (nd, st) := JsonDoc.editPath kind value d path
        match st with
        | .badPath => .error (badPathMessage path)
        | _ => editPairs kind (nd.getD d) rest
  | _ => .ok d
where
  /-- The failure of a malformed path. -/
  badPathMessage (path : String) : String := "bad JSON path: " ++ quoteText path
  /-- A text in single quotes with its quotes doubled. -/
  quoteText (s : String) : String :=
    "'" ++ String.ofList (s.toList.flatMap fun c => if c = '\'' then ['\'', '\''] else [c]) ++ "'"

/-- `json_insert`, `json_replace` and `json_set`: null for a null document. -/
def jsonEdit (name : String) (kind : JsonDoc.EditKind) (args : List (Value × Bool)) :
    Except String Value :=
  match args with
  | [] => .ok .null
  | (x, _) :: pairs =>
    if pairs.length % 2 == 1 then .error ("json_" ++ name ++ "() needs an odd number of arguments")
    else if x.isNull then .ok .null
    else do
      let d ← editDoc x
      let d ← editPairs kind d pairs
      .ok (.text d.write)

/-- Removes the elements of paths in order; a null path or `$` makes the result null. -/
def removePaths (d : JsonDoc) : List Value → Except String (Option JsonDoc)
  | [] => .ok (some d)
  | p :: rest =>
    if p.isNull then .ok none
    else
      let path := p.leadingText
      match path.toList with
      | ['$'] => .ok none
      | '$' :: _ =>
        match JsonDoc.editPath .remove .null d path with
        | (_, .badPath) => .error (editPairs.badPathMessage path)
        | (nd, _) => removePaths (nd.getD d) rest
      | _ => .error (editPairs.badPathMessage path)

/-- `json_remove(json, path, ...)`. -/
def jsonRemove (args : List Value) : Except String Value :=
  match args with
  | [] => .ok .null
  | x :: paths =>
    if x.isNull then .ok .null
    else do
      let d ← editDoc x
      let r ← removePaths d paths
      .ok ((r.map fun d => Value.text d.write).getD .null)

/-- `json_patch(target, patch)`. -/
def jsonPatch (target patch : Value) : Except String Value :=
  if target.isNull then .ok .null
  else do
    let t ← editDoc target
    if patch.isNull then .ok .null
    else do
      let p ← editDoc patch
      .ok (.text (JsonDoc.mergePatch (patch.toText.length + 1) t p).write)

end MapReduce.Sql
