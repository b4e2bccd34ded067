import MapReduce.Kv.Error

/-! Hierarchical identities and their paths. A path joins the segments with `/`; a segment may be
neither empty nor hold `/` or `-`, and that is checked when a path is made, not when an identity
is built. -/

namespace MapReduce

/-- A hierarchical identity: a list of segments. -/
structure Identity where
  segments : List String
  deriving DecidableEq, Repr, Inhabited

namespace Identity

/-- The root of entity records. -/
def entityRoot : String := "entities"

/-- The root of ordered queues. -/
def queueRoot : String := "queues"

/-- The root of named trees. -/
def treeRoot : String := "entity_trees"

/-- A segment is valid when it is not empty and holds neither `/` nor `-`. -/
def validateSegment (segment : String) : Except KvError Unit :=
  if segment.isEmpty then .error (.reservedCharacter "segmento vacío")
  else if segment.toList.any (fun c => c = '/' || c = '-') then .error (.reservedCharacter segment)
  else .ok ()

/-- Whether a segment is valid. -/
def ValidSegment (segment : String) : Prop :=
  segment ≠ "" ∧ '/' ∉ segment.toList ∧ '-' ∉ segment.toList

/-- The identity with one more segment. -/
def child (id : Identity) (segment : String) : Identity := ⟨id.segments ++ [segment]⟩

/-- The identity followed by another. -/
def join (id other : Identity) : Identity := ⟨id.segments ++ other.segments⟩

/-- The last segment. -/
def last? (id : Identity) : Option String := id.segments.getLast?

/-- The segments joined by `/`, without any check. -/
def display (id : Identity) : String := "/".intercalate id.segments

/-- The path of the identity: the first invalid segment fails, otherwise the segments joined by
`/`. -/
def encode (id : Identity) : Except KvError String :=
  match id.segments.mapM validateSegment with
  | .error e => .error e
  | .ok _ => .ok id.display

/-- The identity of a path: the path split at each `/`, every piece checked. -/
def decode (path : String) : Except KvError Identity :=
  let id : Identity := ⟨path.splitOn "/"⟩
  match id.encode with
  | .error e => .error e
  | .ok _ => .ok id

/-- The identity made of the given segments. -/
def ofList (segments : List String) : Identity := ⟨segments⟩

end Identity

/-- The segments of a stored path between its slashes, empty ones included, as splitting the path
at every slash gives them. -/
def pathSegments (path : String) : List String :=
  go path.toList []
where
  /-- The segments of the characters left, after the current segment's characters (reversed). -/
  go : List Char → List Char → List String
    | [], seg => [String.ofList seg.reverse]
    | c :: cs, seg => if c = '/' then String.ofList seg.reverse :: go cs [] else go cs (c :: seg)

/-- The name of the child made by an ordered append: the revision as twenty decimal digits, so
that names sort as the revisions do. -/
def inOrderName (revision : Nat) : String :=
  let digits := toString revision
  String.ofList (List.replicate (20 - digits.length) '0') ++ digits

end MapReduce
