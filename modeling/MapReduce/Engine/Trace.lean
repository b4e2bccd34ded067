import MapReduce.Engine.World

/-! The graph of invocations reachable from one invocation through its relations, breadth first.
Each node carries the invocation, if it is stored, and its three datasets; each edge a relation
from one invocation to another. Every invocation is visited once. -/

namespace MapReduce

/-- A node of the graph: an invocation and its datasets. -/
structure TraceNode where
  id : String
  invocation : Option Invocation
  arguments : List Json
  postCombine : List Json
  postReduce : List Json
  deriving Repr, Inhabited

/-- An edge of the graph: a relation from one invocation to another. -/
structure TraceEdge where
  source : String
  target : String
  relation : RelationKind
  deriving DecidableEq, Repr, Inhabited

/-- A graph of invocations, nodes in the order they were visited. -/
structure InvocationGraph where
  nodes : List TraceNode := []
  edges : List TraceEdge := []
  deriving Repr, Inhabited

namespace InvocationGraph

/-- The node of an invocation. -/
def node? (g : InvocationGraph) (id : String) : Option TraceNode := g.nodes.find? (·.id == id)

/-- The targets of the relations of a kind from an invocation, in the order of the edges. -/
def childrenOf (g : InvocationGraph) (id : String) (k : RelationKind) : List String :=
  (g.edges.filter fun e => e.source == id && e.relation == k).map (·.target)

end InvocationGraph

/-- Visits the invocations waiting in `pending`, at most `fuel` of them, adding their nodes and
edges to a graph; `seen` holds every invocation ever added to `pending`. -/
def graphFrom (workflow : String) :
    Nat → List String → List String → InvocationGraph → EngineM InvocationGraph
  | 0, _, _, g => pure g
  | _ + 1, [], _, g => pure g
  | fuel + 1, id :: pending, seen, g => do
    let inv ← EngineM.domain (EntityStore.tryLoad Invocation [workflow, id])
    let args ← EngineM.domain (Dataset.list ⟨workflow, id, .arguments⟩)
    let combined ← EngineM.domain (Dataset.list ⟨workflow, id, .postCombine⟩)
    let reduced ← EngineM.domain (Dataset.list ⟨workflow, id, .postReduce⟩)
    let node : TraceNode := ⟨id, inv.map (·.data), args, combined, reduced⟩
    let mut edges : List TraceEdge := []
    let mut pending := pending
    let mut seen := seen
    for k in RelationKind.all do
      for t in ← EngineM.domain (Relations.targets ⟨workflow, id, k⟩) do
        edges := edges ++ [⟨id, t, k⟩]
        if !seen.contains t then
          seen := seen ++ [t]
          pending := pending ++ [t]
    graphFrom workflow fuel pending seen ⟨g.nodes ++ [node], g.edges ++ edges⟩

/-- The graph reachable from an invocation. Every invocation but the first is the target of a
relation node of the store, so the store's size bounds the number of visits. -/
def invocationGraph (workflow root : String) : EngineM InvocationGraph := do
  let w ← get
  graphFrom workflow (w.store.backend.paths.length + 1) [root] [root] {}

end MapReduce
