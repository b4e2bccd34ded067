import MapReduce.Kv.Identity

/-! The in-memory store: nodes sorted by path, a global revision and a closed flag. Every
successful write or delete takes the next revision; a written node carries it as its version, and
an appended child is named after it. A failed call changes nothing. -/

namespace MapReduce

/-- A stored node: its version and its raw value. -/
structure Node where
  version : Nat
  value : String
  deriving DecidableEq, Repr, Inhabited

/-- The in-memory store, an ordered map: `nodes` is sorted by path, each path once. -/
structure MemoryStore where
  nodes : List (String × Node) := []
  revision : Nat := 0
  closed : Bool := false
  /-- The paths strictly increase along the nodes. -/
  sorted : (nodes.map (·.1)).Pairwise (· < ·) := by decide
  deriving Repr, Inhabited

namespace MemoryStore

/-- The greatest revision; the counter stays there once reached. -/
def revisionBound : Nat := Nat.pow 2 64 - 1

/-- The node at a path. -/
def find? (s : MemoryStore) (path : String) : Option Node :=
  (s.nodes.find? (·.1 == path)).map (·.2)

/-- Puts a node at a path, keeping the paths sorted. -/
def insertNode (path : String) (n : Node) : List (String × Node) → List (String × Node)
  | [] => [(path, n)]
  | (p, m) :: rest =>
    if path < p then (path, n) :: (p, m) :: rest
    else if path = p then (path, n) :: rest
    else (p, m) :: insertNode path n rest

/-- The paths after a node is put in are the path put and the paths there before. -/
theorem mem_map_insertNode {path k : String} {n : Node} :
    ∀ {nodes : List (String × Node)}, k ∈ (insertNode path n nodes).map (·.1) →
      k = path ∨ k ∈ nodes.map (·.1)
  | [], h => by simpa [insertNode] using h
  | (p, m) :: rest, h => by
    unfold insertNode at h
    split at h
    · simpa using h
    · split at h
      · simp only [List.map_cons, List.mem_cons] at h ⊢
        rcases h with h | h
        · exact .inl h
        · exact .inr (.inr h)
      · simp only [List.map_cons, List.mem_cons] at h ⊢
        rcases h with h | h
        · exact .inr (.inl h)
        · rcases mem_map_insertNode h with h | h
          · exact .inl h
          · exact .inr (.inr h)

/-- Putting a node in keeps the paths sorted, each once. -/
theorem sorted_insertNode {path : String} {n : Node} :
    ∀ {nodes : List (String × Node)}, (nodes.map (·.1)).Pairwise (· < ·) →
      ((insertNode path n nodes).map (·.1)).Pairwise (· < ·)
  | [], _ => List.pairwise_singleton _ _
  | (p, m) :: rest, h => by
    rw [List.map_cons, List.pairwise_cons] at h
    obtain ⟨hp, hrest⟩ := h
    unfold insertNode
    split
    · next hlt =>
      simp only [List.map_cons, List.pairwise_cons, List.mem_cons]
      refine ⟨fun k hk => ?_, hp, hrest⟩
      rcases hk with rfl | hk
      · exact hlt
      · exact String.lt_trans hlt (hp k hk)
    · split
      · next heq =>
        subst heq
        simp only [List.map_cons, List.pairwise_cons]
        exact ⟨hp, hrest⟩
      · next hlt hne =>
        -- the path goes after the first one, which stays less than every path after it
        have hgt : p < path := Std.lt_of_le_of_ne hlt (Ne.symm hne)
        simp only [List.map_cons, List.pairwise_cons]
        refine ⟨fun k hk => ?_, sorted_insertNode hrest⟩
        rcases mem_map_insertNode hk with rfl | hk
        · exact hgt
        · exact hp k hk

/-- Dropping nodes keeps the paths sorted. -/
theorem sorted_filter (s : MemoryStore) (P : String × Node → Bool) :
    ((s.nodes.filter P).map (·.1)).Pairwise (· < ·) :=
  s.sorted.sublist ((List.filter_sublist).map _)

/-- The store with the revision advanced by one. -/
def bump (s : MemoryStore) : MemoryStore :=
  { s with revision := min (s.revision + 1) revisionBound }

/-- Writes a node with the next revision as its version. -/
def write (s : MemoryStore) (path : String) (value : String) : Nat × MemoryStore :=
  let s := s.bump
  (s.revision, { s with
    nodes := insertNode path ⟨s.revision, value⟩ s.nodes
    sorted := sorted_insertNode s.sorted })

/-- Whether a path is the root itself or lies below it. -/
def underRoot (root : String) (path : String) : Bool :=
  path == root || path.startsWith (root ++ "/")

/-- The node at a key. -/
def get (s : MemoryStore) (key : Identity) : Except KvError Node := do
  let path ← key.encode
  match s.find? path with
  | some n => .ok n
  | none => .error (.notFound path)

/-- Writes a key whether or not it exists. -/
def set (s : MemoryStore) (key : Identity) (value : String) : Except KvError (Nat × MemoryStore) := do
  let path ← key.encode
  .ok (s.write path value)

/-- Writes a key that does not exist yet. -/
def createOnly (s : MemoryStore) (key : Identity) (value : String) :
    Except KvError (Nat × MemoryStore) := do
  let path ← key.encode
  match s.find? path with
  | some _ => .error (.alreadyExists path)
  | none => .ok (s.write path value)

/-- Rewrites an existing key; with an expected version, only if the key holds that version. -/
def updateOnly (s : MemoryStore) (key : Identity) (value : String) (expected : Option Nat) :
    Except KvError (Nat × MemoryStore) := do
  let path ← key.encode
  match s.find? path, expected with
  | none, none => .error (.notFound path)
  | none, some v =>
    .error (.preconditionFailed (path ++ " ausente (se esperaba versión " ++ toString v ++ ")"))
  | some n, some v =>
    if n.version ≠ v then
      .error (.preconditionFailed (path ++ " en versión " ++ toString n.version ++
        " (se esperaba " ++ toString v ++ ")"))
    else .ok (s.write path value)
  | some _, none => .ok (s.write path value)

/-- Removes a key. -/
def delete (s : MemoryStore) (key : Identity) : Except KvError MemoryStore := do
  let path ← key.encode
  match s.find? path with
  | none => .error (.notFound path)
  | some _ => .ok { s.bump with nodes := s.nodes.filter (·.1 != path), sorted := s.sorted_filter _ }

/-- Removes a key and everything below it; fails when nothing was there. -/
def deleteTree (s : MemoryStore) (key : Identity) : Except KvError MemoryStore := do
  let root ← key.encode
  if s.nodes.any (fun (p, _) => underRoot root p) then
    .ok { s.bump with
      nodes := s.nodes.filter (fun (p, _) => !underRoot root p)
      sorted := s.sorted_filter _ }
  else .error (.notFound root)

/-- The name of a path directly below `dir` (which ends in `/`), if it is one. -/
def childName? (dir : String) (path : String) : Option String :=
  if path.startsWith dir then
    let name := String.ofList (path.toList.drop dir.length)
    if name.toList.contains '/' then none else some name
  else none

/-- The direct children of a key, in path order. -/
def listChildren (s : MemoryStore) (key : Identity) : Except KvError (List (String × Node)) := do
  let root ← key.encode
  let dir := root ++ "/"
  .ok (s.nodes.filterMap fun (p, n) => (childName? dir p).map fun name => (name, n))

/-- The direct children of a key as an ordered map yields them: the nodes from the key's path and a
`/` on, taken while their paths start with it, each kept with its name when the name holds no `/`.
On nodes sorted by path it finds what `listChildren` finds. -/
def scanChildren (s : MemoryStore) (key : Identity) : Except KvError (List (String × Node)) := do
  let root ← key.encode
  let dir := root ++ "/"
  .ok (((s.nodes.dropWhile fun e => e.1 < dir).takeWhile fun e => e.1.startsWith dir).filterMap
    fun (p, n) => (childName? dir p).map fun name => (name, n))

/-- Adds a child named after the next revision. -/
def append (s : MemoryStore) (key : Identity) (value : String) :
    Except KvError ((String × Nat) × MemoryStore) := do
  let root ← key.encode
  let s := s.bump
  let name := inOrderName s.revision
  .ok ((name, s.revision), { s with
    nodes := insertNode (root ++ "/" ++ name) ⟨s.revision, value⟩ s.nodes
    sorted := sorted_insertNode s.sorted })

/-- The outcome of a wait on a key that nothing else writes meanwhile: the node if it already
differs from the baseline (the given version, or else the current one), a failure otherwise. -/
def watch (s : MemoryStore) (key : Identity) (since : Option Nat) : Except KvError Node := do
  let path ← key.encode
  let current : Option Node := s.find? path
  let baseline : Option Nat := since.orElse fun _ => current.map Node.version
  if s.closed then .error (.waitFault ("canal de watch cerrado: " ++ path))
  else
    match current, baseline with
    | some n, some b =>
      if n.version ≠ b then .ok n else .error (.waitFault ("timeout esperando cambios en " ++ path))
    | some n, none => .ok n
    | none, some _ => .error (.notFound path)
    | none, none => .error (.waitFault ("timeout esperando cambios en " ++ path))

/-- The store whose waits all fail from now on. -/
def close (s : MemoryStore) : MemoryStore := { s with closed := true }

/-- The paths and raw values at or below a key, in path order. -/
def dump (s : MemoryStore) (key : Identity) : Except KvError (List (String × String)) := do
  let root ← key.encode
  .ok ((s.nodes.filter fun (p, _) => underRoot root p).map fun (p, n) => (p, n.value))

/-- The number of nodes. -/
def size (s : MemoryStore) : Nat := s.nodes.length

end MemoryStore

end MapReduce
