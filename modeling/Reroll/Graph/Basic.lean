import Reroll.Modifier.Spec
import Reroll.Screen

/-!
# Flow graphs

The user draws what to do as a graph: nodes are steps, edges lead from one step to the next. A
check has an edge for each of its two outcomes, every other node one without a label.
-/

namespace Reroll

/-- What a node does; unknown kinds are kept as they were written. -/
inductive NodeKind where
  | start
  | finish
  | leftClick
  | rightClick
  | check
  | delay
  | other (name : String)
  deriving DecidableEq, Repr

namespace NodeKind

/-- The written name of a kind. -/
def name : NodeKind → String
  | .start => "start"
  | .finish => "end"
  | .leftClick => "leftClick"
  | .rightClick => "rightClick"
  | .check => "checkRegion"
  | .delay => "delay"
  | .other s => s

/-- The kind with a written name. -/
def ofName (s : String) : NodeKind :=
  if s = "start" then .start
  else if s = "end" then .finish
  else if s = "leftClick" then .leftClick
  else if s = "rightClick" then .rightClick
  else if s = "checkRegion" then .check
  else if s = "delay" then .delay
  else .other s

end NodeKind

/-- What a step needs to know. Delays are in milliseconds; graphs that are not read from a document
may hold any value for one. -/
inductive StepData where
  | click (position : Option Point) (shift : Bool) (postDelay : Value)
  | check (region : Option Region) (targets : List Spec)
  | delay (duration : Value)
  | empty

/-- A step of a graph. -/
structure Node where
  id : String
  kind : NodeKind
  data : StepData := .empty
  label : String := ""

namespace Node

/-- The name of a node in messages. -/
def displayName (n : Node) : String :=
  if n.label.isEmpty then n.kind.name ++ ":" ++ n.id else n.label

end Node

/-- A way from one node to the next, labelled when it leaves a check. -/
structure Edge where
  source : String
  target : String
  branch : Option String := none
  deriving DecidableEq, Repr

/-- A flow graph. -/
structure Graph where
  nodes : List Node
  edges : List Edge

namespace Graph

/-- The id of the node where a traversal starts. -/
def startId : String := "start"

/-- The id of the node where a traversal ends. -/
def endId : String := "end"

/-- The label of the edge of a check that found a target. -/
def onFound : String := "true"

/-- The label of the edge of a check that found none. -/
def onMissed : String := "false"

/-- The first node with the given id. -/
def node? (g : Graph) (id : String) : Option Node := g.nodes.find? fun n => n.id == id

/-- The edges that leave a node, in order. -/
def edgesFrom (g : Graph) (id : String) : List Edge := g.edges.filter fun e => e.source == id

theorem mem_edgesFrom {g : Graph} {id : String} {e : Edge} :
    e ∈ g.edgesFrom id ↔ e ∈ g.edges ∧ e.source = id := by
  simp [edgesFrom]

/-- The first edge that leaves a node with the given label. -/
def nextEdge? (g : Graph) (id : String) (branch : Option String := none) : Option Edge :=
  (g.edgesFrom id).find? fun e => e.branch == branch

/-- A search along the edges: the ids found so far, in the order in which they were found, and
those of them whose edges are still to be followed. -/
structure Search where
  seen : List String
  queue : List String

namespace Search

/-- A search that has found its source. -/
def start (source : String) : Search := ⟨[source], [source]⟩

/-- Follows an edge; its target waits in line when it is new. -/
def follow (s : Search) (e : Edge) : Search :=
  if s.seen.contains e.target then s
  else { seen := s.seen ++ [e.target], queue := s.queue ++ [e.target] }

/-- Follows the edges that leave the id that has waited longest. -/
def round (g : Graph) (s : Search) : Search :=
  match s.queue with
  | [] => s
  | id :: rest => (g.edgesFrom id).foldl follow { s with queue := rest }

/-- How much is left to do at most: the edges to ids that were not found, and the ids in line. -/
def work (g : Graph) (s : Search) : Nat :=
  (g.edges.filter fun e => !s.seen.contains e.target).length + s.queue.length

theorem follow_work {g : Graph} {e : Edge} (he : e ∈ g.edges) (s : Search) :
    (s.follow e).work g ≤ s.work g := by
  unfold follow
  split
  · exact Nat.le_refl _
  · next hnew =>
    -- the edge itself no longer counts, and its target is in line instead
    have hrest : (fun f : Edge => !(s.seen ++ [e.target]).contains f.target) = fun f =>
        !(f.target == e.target) && !s.seen.contains f.target := by
      funext f
      by_cases h : f.target = e.target <;> simp [h]
    have hfewer : (g.edges.filter fun f => !(s.seen ++ [e.target]).contains f.target).length <
        (g.edges.filter fun f => !s.seen.contains f.target).length := by
      rw [hrest, ← List.filter_filter]
      refine List.length_filter_lt_length_iff_exists.mpr ⟨e, ?_, ?_⟩
      · simpa using ⟨he, by simpa using hnew⟩
      · simp
    simp only [work, List.length_append, List.length_singleton]
    omega

theorem foldl_follow_work {g : Graph} {edges : List Edge} (h : ∀ e ∈ edges, e ∈ g.edges)
    (s : Search) : (edges.foldl follow s).work g ≤ s.work g := by
  induction edges generalizing s with
  | nil => exact Nat.le_refl _
  | cons e rest ih =>
    obtain ⟨he, hrest⟩ := List.forall_mem_cons.mp h
    exact Nat.le_trans (ih hrest (s.follow e)) (follow_work he s)

/-- Every round leaves less to do. -/
theorem round_work {g : Graph} {s : Search} (h : s.queue ≠ []) :
    (s.round g).work g < s.work g := by
  unfold round
  split
  · contradiction
  · next id rest hqueue =>
    have hleft : ({ s with queue := rest } : Search).work g < s.work g := by
      simp only [work, hqueue, List.length_cons]
      omega
    have hown : ∀ e ∈ g.edgesFrom id, e ∈ g.edges := fun e he => (mem_edgesFrom.mp he).1
    exact Nat.lt_of_le_of_lt (foldl_follow_work hown { s with queue := rest }) hleft

/-- Goes on until no id is left in line. -/
@[semireducible]
def finish (g : Graph) (s : Search) : Search :=
  if s.queue = [] then s else finish g (s.round g)
termination_by s.work g
decreasing_by exact round_work ‹_›

end Search

/-- The ids that edges join to the source, the source first. -/
def reachableFrom (g : Graph) (source : String := startId) : List String :=
  ((Search.start source).finish g).seen

end Graph

end Reroll
