/-! A file system as a value: directories and files of text, each at a path of names below one
root directory that always exists. Paths are read from slash-separated text, where empty names and
inner `.` names stand for nothing; a text ending in a slash or in `.` names a directory.

The failures are those of the operating system: a missing directory on the way or a missing file,
a name that exists already, a file where a directory is needed, and a directory where a file is
needed. Creating a directory with all its parents succeeds on every directory that exists, and
fails on the first file met on the way. -/

namespace MapReduce

/-- A failure of a file-system operation, with the number the operating system gives it. -/
inductive IoError where
  | notFound
  | alreadyExists
  | notADirectory
  | isADirectory
  deriving DecidableEq, Repr, Inhabited

namespace IoError

/-- The text of the failure and its number. -/
def message : IoError → String
  | .notFound => "No such file or directory (os error 2)"
  | .alreadyExists => "File exists (os error 17)"
  | .notADirectory => "Not a directory (os error 20)"
  | .isADirectory => "Is a directory (os error 21)"

end IoError

/-- How the text of a path ends: at a name, at a slash, or at a `.` name. The last two ask for a
directory. -/
inductive PathEnd where
  | name
  | slash
  | dot
  deriving DecidableEq, Repr, Inhabited

/-- A path: the names from the root, and how its text ends. -/
structure Location where
  names : List String
  ending : PathEnd := .name
  deriving DecidableEq, Repr, Inhabited

namespace Location

/-- The location of a path text. -/
def ofText (s : String) : Location :=
  let pieces := s.splitOn "/"
  let names := pieces.filter fun p => p ≠ "" && p ≠ "."
  let lastName := (pieces.filter fun p => p ≠ "").getLast?
  let ending :=
    if lastName = some "." then PathEnd.dot
    else if s.endsWith "/" then PathEnd.slash
    else PathEnd.name
  ⟨names, ending⟩

/-- The directory that holds the location. -/
def parent (l : Location) : List String := l.names.dropLast

end Location

/-- What a path holds. -/
inductive FileEntry where
  | dir
  | file (content : String)
  deriving DecidableEq, Repr, Inhabited

/-- A file system: its directories and files by path; the root, the empty path, is a directory. -/
structure FileSystem where
  entries : List (List String × FileEntry) := []
  deriving Repr, Inhabited

namespace FileSystem

/-- What a path holds, if anything. -/
def find? (fs : FileSystem) (p : List String) : Option FileEntry :=
  if p = [] then some .dir else (fs.entries.find? (·.1 == p)).map (·.2)

/-- The file system with a path holding an entry, replacing what it held. -/
def put (fs : FileSystem) (p : List String) (e : FileEntry) : FileSystem :=
  if fs.entries.any (·.1 == p) then
    ⟨fs.entries.map fun (q, old) => if q == p then (q, e) else (q, old)⟩
  else ⟨fs.entries ++ [(p, e)]⟩

/-- Checks the directories from the root down to `dir`: each must be a directory. -/
def walk (fs : FileSystem) (dir : List String) : Except IoError Unit :=
  go [] dir
where
  /-- Checks the directories below `done`, itself a directory, along `rest`. -/
  go (done : List String) : List String → Except IoError Unit
    | [] => .ok ()
    | n :: rest =>
      let here := done ++ [n]
      match fs.find? here with
      | none => .error .notFound
      | some (.file _) => .error .notADirectory
      | some .dir => go here rest

/-- Creates a directory and every missing directory above it: a directory that exists is kept, a
file on the way fails, and a file at the path itself is an existing name. -/
def createDirAll (fs : FileSystem) (p : List String) : Except IoError FileSystem :=
  go fs [] p
where
  /-- Creates the directories below `done`, itself a directory, along `rest`. -/
  go (fs : FileSystem) (done : List String) : List String → Except IoError FileSystem
    | [] => .ok fs
    | n :: rest =>
      let here := done ++ [n]
      match fs.find? here with
      | none => go (fs.put here .dir) here rest
      | some .dir => go fs here rest
      | some (.file _) => .error (if rest.isEmpty then .alreadyExists else .notADirectory)

/-- Writes a file, creating it if needed; its directory must exist. -/
def writeFile (fs : FileSystem) (l : Location) (content : String) : Except IoError FileSystem := do
  fs.walk l.parent
  match fs.find? l.names, l.ending with
  | none, .name => .ok (fs.put l.names (.file content))
  | none, .slash => .error .isADirectory
  | none, .dot => .error .notFound
  | some .dir, _ => .error .isADirectory
  | some (.file _), .name => .ok (fs.put l.names (.file content))
  | some (.file _), _ => .error .notADirectory

/-- Reads a file. -/
def readFile (fs : FileSystem) (l : Location) : Except IoError String := do
  fs.walk l.parent
  match fs.find? l.names, l.ending with
  | none, _ => .error .notFound
  | some .dir, _ => .error .isADirectory
  | some (.file c), .name => .ok c
  | some (.file _), _ => .error .notADirectory

end FileSystem

/-- Joins a path text and another, with one slash between them where needed; an absolute path
replaces the base. -/
def joinPath (base rel : String) : String :=
  if rel.startsWith "/" then rel
  else if base.isEmpty || base.endsWith "/" then base ++ rel else base ++ "/" ++ rel

end MapReduce
