import Mathlib.Data.List.Infix
import Reroll.Graph.Basic

/-!
# The free interpreter

The free interpreter of a graph knows no attempts. It goes from node to node as the outcomes of the
checks tell, back to the start from the end and from where there is no way on, and halts only at a
check that found a target and leads to the end.
-/

namespace Reroll

namespace Graph

/-- Where an edge leads the interpreter; the end, and the lack of an edge, lead to the start. -/
def settle (target : Option String) : String :=
  match target with
  | none => startId
  | some id => if id = endId then startId else id

/-- The target of the edge to take from a node; the outcome matters for checks only. -/
def target? (g : Graph) (n : Node) (found : Bool) : Option String :=
  if n.kind = .check then
    (g.nextEdge? n.id (some (if found then onFound else onMissed))).map Edge.target
  else (g.nextEdge? n.id).map Edge.target

/-- Where the interpreter goes from a node, or that it halts. -/
def following (g : Graph) (n : Node) (found : Bool) : Option String :=
  if n.kind = .check ∧ found = true ∧ g.target? n found = some endId then none
  else some (settle (g.target? n found))

end Graph

/-- The interpreter is at a place or has halted, and so many checks lie behind it. -/
structure Interpreter where
  place : Option String := some Graph.startId
  checks : Nat := 0

namespace Interpreter

variable (g : Graph) (o : Nat → Bool)

/-- The node that the interpreter is about to dispatch. -/
def node? (i : Interpreter) : Option Node := i.place.bind g.node?

/-- Dispatches a node, with the outcomes of all checks given. -/
def step (i : Interpreter) : Interpreter :=
  match i.node? g with
  | none => i
  | some n =>
    { place := g.following n (o i.checks)
      checks := if n.kind = .check then i.checks + 1 else i.checks }

/-- The interpreter after so many nodes. -/
def after : Nat → Interpreter
  | 0 => {}
  | k + 1 => (after k).step g o

/-- The first so many nodes that the interpreter dispatches, fewer if it halts before. -/
def dispatches : Nat → List Node
  | 0 => []
  | k + 1 => dispatches k ++ ((after g o k).node? g).toList

variable {g o}

theorem dispatches_succ {k : Nat} {n : Node} (h : (after g o k).node? g = some n) :
    dispatches g o (k + 1) = dispatches g o k ++ [n] := by
  rw [dispatches, h]
  rfl

theorem after_succ {k : Nat} {n : Node} (h : (after g o k).node? g = some n) :
    after g o (k + 1) =
      { place := g.following n (o (after g o k).checks)
        checks := if n.kind = .check then (after g o k).checks + 1 else (after g o k).checks } := by
  rw [after, step, h]

theorem dispatches_prefix {k m : Nat} (h : k ≤ m) : dispatches g o k <+: dispatches g o m := by
  induction h with
  | refl => exact List.prefix_refl _
  | step _ ih => exact ih.trans (List.prefix_append _ _)

end Interpreter

end Reroll
