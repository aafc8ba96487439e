import Reroll.Document.Report
import Reroll.Document.Shape
import Reroll.Graph.Validity
import Reroll.Modifier.Reader
import Reroll.Settings.Basic

/-!
# Reading graphs

Graphs are read from the layout of configuration files and from the export of the node editor,
where the kind of a node stands among its data and labels of edges are handles. A node's own
position is its place on the editor's canvas and not read.
-/

namespace Reroll

/-- What is wrong at one place of a document. -/
inductive ProblemCause where
  | notNumber (shown : String)
  | pointShape
  | regionShape
  | target (e : SpecReadError)
  | emptyPattern
  | nodeShape
  | noId
  | dataShape
  | noKind
  | edgeShape
  | edgeEnds

/-- A problem and its place in a document. -/
structure Problem where
  place : String
  cause : ProblemCause

namespace Problem

/-- The wording of a problem. -/
def message (p : Problem) : String :=
  p.place ++ ": " ++
    match p.cause with
    | .notNumber shown => "expected a number, got " ++ shown
    | .pointShape => "position must be a mapping with x and y"
    | .regionShape => "region must be a mapping or [x, y, width, height]"
    | .target e => e.message
    | .emptyPattern => "empty modifier pattern"
    | .nodeShape => "node must be a mapping"
    | .noId => "missing node id"
    | .dataShape => "data must be a mapping"
    | .noKind => "missing node kind"
    | .edgeShape => "edge must be a mapping"
    | .edgeEnds => "edge needs source and target"

end Problem

/-- What ends the reading of a document. -/
inductive ReadFault where
  | conversion (e : ConversionError)
  | shape (e : ShapeError)

namespace ReadFault

/-- The wording of a fault. -/
def message : ReadFault → String
  | .conversion e => e.message
  | .shape e => e.message

end ReadFault

/-- A value of a document with the problems found. -/
abbrev Parsed := Report ReadFault Problem

namespace Graph

/-- A text of a value; a number that is too long to be written is a fault. -/
def writtenBy (r : Except ConversionError String) : Parsed String :=
  Report.ofExcept (r.mapError .conversion)

/-- A number rounded to a whole one; anything else is a problem. -/
def readWhole (v : Value) (place : String) : Parsed (Option Int) :=
  match v with
  | .num n => do
    let i ← Report.ofExcept (n.rounded.mapError .conversion)
    return some i
  | v => do
    let shown ← writtenBy v.written
    Report.noted ⟨place, .notNumber shown⟩ none

/-- A point given by its coordinates. -/
def readPoint (v : Value) (place : String) : Parsed (Option Point) :=
  match v.opened with
  | .null => return none
  | .map fields => do
    let x ← readWhole (Value.get fields "x") (place ++ ".x")
    let y ← readWhole (Value.get fields "y") (place ++ ".y")
    match x, y with
    | some x, some y => return some ⟨.int x, .int y⟩
    | _, _ => return none
  | _ => Report.noted ⟨place, .pointShape⟩ none

/-- The corner and size of a region as fields; a list of four gives them in order. -/
def regionFields? (v : Value) : Option (List (Value × Value)) :=
  match v.opened with
  | .map fields => some fields
  | .list [x, y, width, height] =>
    some [(.text "x", x), (.text "y", y), (.text "width", width), (.text "height", height)]
  | _ => none

/-- A region given by its corner and size. -/
def readRegion (v : Value) (place : String) : Parsed (Option Region) :=
  if v.isNull then return none
  else
    match regionFields? v with
    | none => Report.noted ⟨place, .regionShape⟩ none
    | some fields => do
      let x ← readWhole (Value.get fields "x") (place ++ ".x")
      let y ← readWhole (Value.get fields "y") (place ++ ".y")
      let width ← readWhole (Value.get fields "width") (place ++ ".width")
      let height ← readWhole (Value.get fields "height") (place ++ ".height")
      match x, y, width, height with
      | some x, some y, some width, some height =>
        return some ⟨.int x, .int y, .int width, .int height⟩
      | _, _, _, _ => return none

/-- One entry of a list of targets. -/
def readTarget (place : String) (v : Value) (i : Nat) : Parsed (Option Spec) :=
  let place := place ++ "[" ++ toString i ++ "]"
  match Spec.ofValue v with
  | .error e =>
    match e.overflow? with
    | some c => Report.fault (.conversion c)
    | none => Report.noted ⟨place, .target e⟩ none
  | .ok s => if s.pattern.isEmpty then Report.noted ⟨place, .emptyPattern⟩ none else return some s

/-- A list of targets; a single one needs no list. -/
def readTargets (v : Value) (place : String) : Parsed (List Spec) :=
  match v.opened with
  | .null => return []
  | .list items => Report.collect (readTarget place) 0 items
  | _ => Report.collect (readTarget place) 0 [v]

/-- A number of milliseconds that is not negative. -/
def clampDelay (i : Option Int) : Value := .int (max 0 (i.getD 0))

/-- The data of a click. -/
def readClick (default : Value) (fields : List (Value × Value)) (place : String) :
    Parsed StepData := do
  let given := Value.firstGiven? fields ["postDelayMs", "post_delay_ms", "delayMs"]
  let delay ← readWhole (given.getD default) (place ++ ".postDelayMs")
  let position ← readPoint (Value.get fields "position") (place ++ ".position")
  let shift := (Value.firstGiven fields ["useShift", "use_shift"]).truthy
  return .click position shift (clampDelay delay)

/-- The data of a check. Older documents give one target as a text. -/
def readCheck (fields : List (Value × Value)) (place : String) : Parsed StepData := do
  let targets ← readTargets
    (Value.firstGiven fields ["modifiers", "modifierList", "modifier_list"]) (place ++ ".modifiers")
  let single ← Report.ofExcept (((Value.get fields "modifierText").textFor "strip").mapError .shape)
  let single := Text.stripped single
  let targets := if targets.isEmpty && !single.isEmpty then [Spec.plain single] else targets
  let region ← readRegion (Value.get fields "region") (place ++ ".region")
  return .check region targets

/-- The data of a delay. -/
def readDelay (fields : List (Value × Value)) (place : String) : Parsed StepData := do
  let given := Value.firstGiven? fields ["durationMs", "duration_ms", "delayMs"]
  let duration ← readWhole (given.getD (.int 0)) (place ++ ".durationMs")
  return .delay (clampDelay duration)

/-- The data of a node of the given kind. -/
def readData (s : Settings) (kind : NodeKind) (fields : List (Value × Value)) (place : String) :
    Parsed StepData :=
  match kind with
  | .leftClick => readClick s.leftClickPostDelay fields place
  | .rightClick => readClick s.rightClickPostDelay fields place
  | .check => readCheck fields place
  | .delay => readDelay fields place
  | _ => return .empty

/-- The kind with a written name; a check has an older name too. -/
def readKind (name : String) : NodeKind :=
  if name = "checkTooltip" then .check else .ofName name

/-- The data of a node as fields; anything but a mapping is a problem. -/
def readFields (v : Value) (place : String) : Parsed (List (Value × Value)) :=
  if v.truthy then
    match v.opened with
    | .map fields => return fields
    | _ => Report.noted ⟨place, .dataShape⟩ []
  else return []

/-- A node that has an id. -/
def readNamedNode (s : Settings) (id : String) (raw : List (Value × Value)) (place : String) :
    Parsed (Option Node) := do
  let fields ← readFields (Value.get raw "data") place
  let kind := ((Value.get fields "type").orElse (Value.get raw "kind")).orElse (Value.get raw "type")
  let named := place ++ " (" ++ id ++ ")"
  if kind.truthy then
    let kind := readKind (← writtenBy kind.writtenPlain)
    let data ← readData s kind fields named
    let label := (((Value.get fields "customName").orElse (Value.get fields "label")).orElse
      (Value.get raw "label")).orElse (.text "")
    let label ← writtenBy label.writtenPlain
    return some { id, kind, data, label }
  else Report.noted ⟨named, .noKind⟩ none

/-- A node. -/
def readNode (s : Settings) (raw : Value) (i : Nat) : Parsed (Option Node) :=
  let place := "nodes[" ++ toString i ++ "]"
  match raw.opened with
  | .map fields =>
    match Value.get fields "id" with
    | .text id =>
      if id.isEmpty then Report.noted ⟨place, .noId⟩ none else readNamedNode s id fields place
    | _ => Report.noted ⟨place, .noId⟩ none
  | _ => Report.noted ⟨place, .nodeShape⟩ none

/-- The label of an edge: a truth value is one of the outcomes of a check, what counts as absent
is none. -/
def readBranch (v : Value) : Parsed (Option String) :=
  match v with
  | .bool b => return some (if b then onFound else onMissed)
  | v =>
    if v.truthy then do
      let name ← writtenBy v.writtenPlain
      return some name
    else return none

/-- An edge. -/
def readEdge (raw : Value) (i : Nat) : Parsed (Option Edge) :=
  let place := "edges[" ++ toString i ++ "]"
  match raw.opened with
  | .map fields =>
    let source := Value.get fields "source"
    let target := Value.get fields "target"
    if source.truthy && target.truthy then do
      let source ← writtenBy source.writtenPlain
      let target ← writtenBy target.writtenPlain
      let branch ← readBranch (Value.firstGiven fields ["branch", "sourceHandle", "source_handle"])
      return some { source, target, branch }
    else Report.noted ⟨place, .edgeEnds⟩ none
  | _ => Report.noted ⟨place, .edgeShape⟩ none

/-- Why a document holds no graph that can be run. -/
inductive DocumentProblem where
  | notMapping
  | noNodes
  | edgesShape
  | reading (p : Problem)
  | structural (p : GraphProblem)

/-- The wording of the reason. -/
def DocumentProblem.message : DocumentProblem → String
  | .notMapping => "flow graph must be a mapping"
  | .noNodes => "flow graph has no nodes"
  | .edgesShape => "edges must be a list"
  | .reading p => p.message
  | .structural p => p.message

/-- The graph of nodes and edges, and everything that is wrong with it. -/
def readParts (s : Settings) (nodes edges : List Value) :
    Except ReadFault (Checked DocumentProblem Graph) :=
  let parts : Parsed Graph := do
    let nodes ← Report.collect (readNode s) 0 nodes
    let edges ← Report.collect readEdge 0 edges
    return { nodes, edges }
  match parts with
  | .error e => .error e
  | .ok g =>
    .ok { problems := g.problems.map .reading ++ g.value.problems.map .structural, value := g.value }

/-- Reads a graph; it can be run when there are no problems. -/
def read (s : Settings) (doc : Value) :
    Except ReadFault (Except (List DocumentProblem) Graph) :=
  match doc.opened with
  | .map fields =>
    match (Value.get fields "nodes").opened with
    | .list (n :: nodes) =>
      let edges := Value.get fields "edges"
      match edges.truthy, edges.opened with
      | false, _ => (readParts s (n :: nodes) []).map verdict
      | true, .list edges => (readParts s (n :: nodes) edges).map verdict
      | true, _ => .ok (.error [.edgesShape])
    | _ => .ok (.error [.noNodes])
  | _ => .ok (.error [.notMapping])
where
  /-- A graph without problems, or the problems. -/
  verdict (c : Checked DocumentProblem Graph) : Except (List DocumentProblem) Graph :=
    if c.problems.isEmpty then .ok c.value else .error c.problems

end Graph

end Reroll
