import Reroll.Graph.Basic

/-!
# Valid graphs

A graph can be run when its ids are distinct, it starts and ends where it should, its edges lead
somewhere and are labelled as their sources ask, and every node can be reached. Every problem
found is reported; reachability is looked at only when there is no other.
-/

namespace Reroll

/-- What is wrong with the structure of a graph. -/
inductive GraphProblem where
  | duplicate (id : String)
  | missing (id : String)
  | wrongKind (id kind : String)
  | misplaced (id kind : String)
  | noSource (id : String)
  | noTarget (id : String)
  | unknownBranch (e : Edge) (branch : String)
  | unlabelled (e : Edge)
  | labelled (e : Edge)
  | repeated (id label : String)
  | afterEnd
  | unreachable (id : String)
  deriving DecidableEq

namespace GraphProblem

/-- The ends of an edge in messages. -/
def arrow (e : Edge) : String := "edge " ++ e.source ++ "->" ++ e.target

/-- The wording of a problem. -/
def message : GraphProblem → String
  | .duplicate id => "duplicate node id '" ++ id ++ "'"
  | .missing id => "missing '" ++ id ++ "' node"
  | .wrongKind id kind => "node '" ++ id ++ "' must be of kind '" ++ kind ++ "'"
  | .misplaced id kind => "node '" ++ id ++ "' of kind '" ++ kind ++ "' must have id '" ++ kind ++ "'"
  | .noSource id => "edge source '" ++ id ++ "' does not exist"
  | .noTarget id => "edge target '" ++ id ++ "' does not exist"
  | .unknownBranch e branch => arrow e ++ ": unknown branch '" ++ branch ++ "'"
  | .unlabelled e => arrow e ++ ": checkRegion needs a true or false branch"
  | .labelled e => arrow e ++ ": only checkRegion edges can be branches"
  | .repeated id label => "node '" ++ id ++ "' has more than one " ++ label ++ " edge"
  | .afterEnd => "'end' node cannot have outgoing edges"
  | .unreachable id => "node '" ++ id ++ "' is not reachable from 'start'"

end GraphProblem

namespace Graph

/-- Ids that occur again after the ones seen. -/
def duplicates (seen : List String) : List Node → List GraphProblem
  | [] => []
  | n :: rest =>
    (if seen.contains n.id then [.duplicate n.id] else []) ++ duplicates (n.id :: seen) rest

/-- The node that must be there is missing or of another kind. -/
def requiredProblems (g : Graph) (id : String) (kind : NodeKind) : List GraphProblem :=
  match g.node? id with
  | none => [.missing id]
  | some n => if n.kind = kind then [] else [.wrongKind id kind.name]

/-- Nodes elsewhere that claim to be the start or the end. -/
def misplacedNodes (g : Graph) : List GraphProblem :=
  g.nodes.filterMap fun n =>
    if n.id = startId || n.id = endId then none
    else if n.kind = .start || n.kind = .finish then some (.misplaced n.id n.kind.name)
    else none

/-- The ends and the label of an edge do not fit the graph. -/
def edgeProblems (g : Graph) (e : Edge) : List GraphProblem :=
  let source := g.node? e.source
  (if source.isNone then [.noSource e.source] else []) ++
    (if (g.node? e.target).isNone then [.noTarget e.target] else []) ++
    (match e.branch with
      | some b => if b = onFound || b = onMissed then [] else [.unknownBranch e b]
      | none => []) ++
    (match source with
      | none => []
      | some n =>
        if e.source = endId then []
        else if n.kind = .check then (if e.branch.isNone then [.unlabelled e] else [])
        else if e.branch.isSome then [.labelled e]
        else [])

/-- The label of an edge in messages. -/
def branchLabel (branch : Option String) : String :=
  match branch with
  | some b => if b.isEmpty then "unconditional" else b
  | none => "unconditional"

/-- Problems of the edges, given the sources and labels of those before. -/
def edgesProblems (g : Graph) (seen : List (String × Option String)) : List Edge → List GraphProblem
  | [] => []
  | e :: rest =>
    g.edgeProblems e ++
      (if seen.contains (e.source, e.branch) then [.repeated e.source (branchLabel e.branch)] else []) ++
      (if e.source = endId then [.afterEnd] else []) ++
      edgesProblems g ((e.source, e.branch) :: seen) rest

/-- Problems other than nodes that cannot be reached. -/
def structureProblems (g : Graph) : List GraphProblem :=
  duplicates [] g.nodes ++ g.requiredProblems startId .start ++ g.requiredProblems endId .finish ++
    g.misplacedNodes ++ g.edgesProblems [] g.edges

/-- Nodes other than the end that no way from the start leads to. -/
def unreachableNodes (g : Graph) : List GraphProblem :=
  let reachable := g.reachableFrom startId
  g.nodes.filterMap fun n =>
    if n.id = endId || reachable.contains n.id then none else some (.unreachable n.id)

/-- All problems of a graph; there are none when it can be run. -/
def problems (g : Graph) : List GraphProblem :=
  let found := g.structureProblems
  if found.isEmpty then g.unreachableNodes else found

end Graph

end Reroll
