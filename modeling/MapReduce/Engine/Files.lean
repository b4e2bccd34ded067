import MapReduce.Engine.Error

/-! Where handlers keep files: below the file root, in the directory of their workflow, at a
relative path. A relative path must be made of plain names: it may not be empty, start at the
root, start with `.`, or hold `..` anywhere. Empty names and inner `.` names are allowed and stand
for nothing; the path is kept as written. -/

namespace MapReduce

/-- Whether a relative path is made of plain names. -/
def isPlainRelative (rel : String) : Bool :=
  match rel.splitOn "/" with
  | [] => false
  | first :: rest => first ≠ "" && first ≠ "." && first ≠ ".." && rest.all (· ≠ "..")

/-- The path of a handler file of a workflow, or the failure for a path that is not plain. -/
def handlerFilePath (root workflow rel : String) : Except EngineError String :=
  if rel.isEmpty || !isPlainRelative rel then
    .error (.validation ("ruta de fichero no permitida: " ++ rel))
  else .ok (joinPath (joinPath root workflow) rel)

end MapReduce
