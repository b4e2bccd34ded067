import MapReduce.Engine.Runner

/-! Rendering the result of a finished request. Inline, the body is the object of its pairs. To a
directory, the request, its workflow, its job and its pairs are written as indented JSON to the file
named after the request, creating the directory first, and there is no body. A rendered result is
kept in the world's list of rendered results. -/

namespace MapReduce

namespace Engine

/-- The file a result of a request is written to. -/
def resultPath (dir request : String) : String := joinPath dir (request ++ ".json")

/-- Renders the result of a request. -/
def render (e : Engine) (r : Request) (pairs : List Pair) : EngineM (Option Json) := do
  match e.writer with
  | .inline =>
    let body := Json.mkObj [("pairs", pairsArgument pairs)]
    modify fun w => { w with rendered := w.rendered ++ [⟨r.id, some body⟩] }
    pure (some body)
  | .file dir =>
    changeFiles (·.createDirAll (Location.ofText dir).names)
    let body := Json.mkObj [("request_id", .str r.id), ("workflow_name", .str r.workflow),
      ("job_name", .str r.job), ("pairs", pairsArgument pairs)]
    changeFiles (·.writeFile (Location.ofText (resultPath dir r.id)) (Json.writePretty body))
    modify fun w => { w with rendered := w.rendered ++ [⟨r.id, none⟩] }
    pure none

end Engine

end MapReduce
