import Reroll.Run.Step

/-!
# Traversals

A traversal follows the graph from the start, or from where the last one broke off, and does the
step of each node on its way. It ends when a check that found a target leads to the end, when a
stop is asked for, when there is no way on, or before a node it has visited already; the next
traversal then resumes at that node.
-/

namespace Reroll

/-- How a traversal ends. -/
inductive Traversal where
  | found (hit : Match)
  | stopped
  | resumed (id : String)
  | ended

namespace Traversal

variable {τ ι δ σ : Type}

/-- Where the way leads after a node: a target was found for good, or the next node, if any. -/
inductive Turn where
  | found (hit : Match)
  | next (id : Option String)

/-- The way after a check. -/
def afterCheck (r : Rig τ ι δ σ) (g : Graph) (n : Node) (o : StepOutcome) : Act τ ι δ σ Turn :=
  match o.hit with
  | none => return .next ((g.nextEdge? n.id (some Graph.onMissed)).map Edge.target)
  | some hit =>
    match g.nextEdge? n.id (some Graph.onFound) with
    | some e => if e.target = Graph.endId then return .found hit else return .next (some e.target)
    | none => do
      Act.tell r .warning (n.displayName ++ " matched but has no \"true\" edge")
      return .next none

/-- Dispatches a node: does its step and finds the way on. -/
def advance (r : Rig τ ι δ σ) (g : Graph) (n : Node) : Act τ ι δ σ Turn := do
  Act.note (.dispatched n)
  match n.kind with
  | .start => return .next ((g.nextEdge? n.id).map Edge.target)
  | .check =>
    let o ← Step.execute r n
    Act.note (.checked o.hit.isSome)
    afterCheck r g n o
  | _ =>
    discard (Step.execute r n)
    return .next ((g.nextEdge? n.id).map Edge.target)

/-- Goes on from a node that is not among the visited ones. Every step visits one more node, so
one more step than there are nodes suffices. -/
def walk (r : Rig τ ι δ σ) (g : Graph) (visited : List String) (id : String) :
    Nat → Act τ ι δ σ Traversal
  | 0 => return .ended
  | fuel + 1 => do
    if ← Act.stopAsked then return .stopped
    match g.node? id with
    | none =>
      Act.tell r .warning ("edge leads to missing node \"" ++ id ++ "\"")
      return .ended
    | some n =>
      if n.kind = .finish then return .ended
      match ← advance r g n with
      | .found hit => return .found hit
      | .next none => return .ended
      | .next (some id) =>
        if (n.id :: visited).contains id then return .resumed id
        else walk r g (n.id :: visited) id fuel

/-- Traverses the graph once. -/
def run (r : Rig τ ι δ σ) (g : Graph) (start : Option String) : Act τ ι δ σ Traversal :=
  let id := (start.filter fun s => !s.isEmpty).getD Graph.startId
  walk r g [] id (g.nodes.length + 1)

end Traversal

end Reroll
