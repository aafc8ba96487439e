import Reroll.Catalog.Source
import Reroll.Graph.Reader
import Reroll.Plan.Basic

/-!
# Reading plans

A plan is read from a mapping with a graph, limits, targets and known modifiers, the latter as a
list or as the name of a file. Every problem is reported.
-/

namespace Reroll

/-- What is wrong with a plan. -/
inductive PlanProblem where
  | notMapping
  | noGraph
  | graph (p : Graph.DocumentProblem)
  | notInteger (name : String) (least : Int) (shown : String)
  | target (p : Problem)
  | knownFile (e : Catalog.SourceError)
  | knownShape (kind : String)

namespace PlanProblem

/-- The wording of a problem. -/
def message : PlanProblem → String
  | .notMapping => "config must be a mapping"
  | .noGraph => "missing 'flow_graph'"
  | .graph p => "flow_graph: " ++ p.message
  | .notInteger name least shown =>
    name ++ " must be an integer >= " ++ toString least ++ ", got " ++ shown
  | .target p => p.message
  | .knownFile e => "known_mods: " ++ e.message
  | .knownShape kind => "known_mods must be a list or a file path, got " ++ kind

end PlanProblem

/-- What ends the reading of a plan. -/
inductive PlanFault where
  | reading (e : ReadFault)
  | known (e : Catalog.SourceError)

/-- The wording of a fault. -/
def PlanFault.message : PlanFault → String
  | .reading e => e.message
  | .known e => e.message

namespace Plan

/-- A part of a plan with the problems found. -/
abbrev Part := Report PlanFault PlanProblem

/-- A part whose problems are told in other words. -/
def retold (tell : π → PlanProblem) (r : Report ReadFault π α) : Part α :=
  match r with
  | .error e => .error (.reading e)
  | .ok a => .ok ⟨a.problems.map tell, a.value⟩

/-- The document of the graph: its own field, or the plan itself when it lists nodes. -/
def graphDocument? (fields : List (Value × Value)) : Option Value :=
  match Value.firstGiven? fields ["flow_graph", "flowGraph"] with
  | some v => some v
  | none =>
    if (Value.lookup "nodes" fields).isSome then
      some (.map [(.text "nodes", Value.get fields "nodes"), (.text "edges", Value.get fields "edges")])
    else none

/-- The graph of a plan. -/
def readGraph (s : Settings) (fields : List (Value × Value)) : Part (Option Graph) :=
  match graphDocument? fields with
  | none => Report.noted .noGraph none
  | some doc =>
    match Graph.read s doc with
    | .error e => .error (.reading e)
    | .ok (.error problems) => .ok ⟨problems.map .graph, none⟩
    | .ok (.ok g) => .ok ⟨[], some g⟩

/-- A whole number of at least the given size, or a default. -/
def readLimit (fields : List (Value × Value)) (keys : List String) (name : String)
    (default : Value) (least : Int) : Part Int :=
  match (Value.firstGiven? fields keys).getD default with
  | .num (.int i) => if least ≤ i then return i else refuse (.int i)
  | v => refuse v
where
  /-- The value is not as it should be. -/
  refuse (v : Value) : Part Int :=
    match v.written with
    | .ok shown => Report.noted (.notInteger name least shown) least
    | .error e => .error (.reading (.conversion e))

/-- Where the file with a name is, which may be relative to a base directory. -/
def fileNamed (base : Option Path) (name : String) : Path :=
  let p := Path.ofText name
  (base.map fun b => b.join p).getD p

/-- The known modifiers of a plan. -/
def readKnown (s : Settings) (files : Files) (base : Option Path) (v : Value) :
    Part (Option Catalog) :=
  match v.opened with
  | .null => return none
  | .list items =>
    match (items.filter Value.truthy).mapM Value.writtenPlain with
    | .ok texts => return some (Catalog.ofTexts texts)
    | .error e => .error (.reading (.conversion e))
  | .text name =>
    match Catalog.ofFile s.catalogGroup files (fileNamed base name) with
    | .ok c => return some c
    | .error e => if e.isExpected then Report.noted (.knownFile e) none else Report.fault (.known e)
  | v => Report.noted (.knownShape v.kindName) none

/-- What a plan says about known modifiers. -/
def knownValue (fields : List (Value × Value)) : Value :=
  Value.firstGiven fields ["known_mods", "knownMods"]

/-- The file of known modifiers that a plan names. -/
def knownFile? (base : Option Path) (doc : Value) : Option Path :=
  match doc.opened with
  | .map fields =>
    match knownValue fields with
    | .text name => some (fileNamed base name)
    | _ => none
  | _ => none

/-- The parts of a plan; without problems there is a graph. -/
def readParts (s : Settings) (files : Files) (base : Option Path) (fields : List (Value × Value)) :
    Part (Option Plan) := do
  let graph ← readGraph s fields
  let maxAttempts ← readLimit fields ["max_attempts", "maxAttempts"] "max_attempts" s.maxAttempts 1
  let startDelay ← readLimit fields ["start_delay_ms", "startDelayMs"] "start_delay_ms" s.startDelay 0
  let targets ← retold .target
    (Graph.readTargets (Value.firstGiven fields ["modifiers", "modifierList"]) "modifiers")
  let known ← readKnown s files base (knownValue fields)
  return graph.map fun graph =>
    { graph, maxAttempts := .int maxAttempts, known, targets, startDelay := .int startDelay }

/-- Reads a plan from a document. Names of files are relative to a base directory. -/
def read (s : Settings) (files : Files) (base : Option Path) (doc : Value) :
    Except PlanFault (Except (List PlanProblem) Plan) :=
  match doc.opened with
  | .map fields =>
    match readParts s files base fields with
    | .error e => .error e
    | .ok ⟨[], some plan⟩ => .ok (.ok plan)
    | .ok c => .ok (.error c.problems)
  | _ => .ok (.error [.notMapping])

/-- The problems of a plan in one line. -/
def problemsText (problems : List PlanProblem) : String :=
  String.intercalate "; " (problems.map PlanProblem.message)

end Plan

end Reroll
