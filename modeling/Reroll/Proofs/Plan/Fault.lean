import Reroll.Plan.Reader
import Reroll.Proofs.Catalog.Fault
import Reroll.Proofs.Graph.Fault

/-!
# What ends the reading of a plan

A document is read as a plan or refused with all its problems, unless one of the values it holds
ends the reading. These are values that end the reading of its graph or its targets, limits that
are wrong and too long to be shown, known modifiers too long to be written, and a file of known
modifiers that is neither missing nor malformed but cannot be used for another reason. The condition
is exact (`Plan.read_ends`), so no such document is reported with its problems, although an endless
delay or a file that is a directory are mistakes like others (`Plan.endless_delay_ends`).
-/

namespace Reroll

open Report

namespace Plan

/-- What ends the reading of known modifiers. -/
def BreaksKnown (s : Settings) (files : Files) (base : Option Path) (v : Value) : Prop :=
  match v.opened with
  | .list items => ∃ item ∈ items, item.truthy = true ∧ item.isWritable = false
  | .text name => Catalog.BreaksFile s.catalogGroup files (fileNamed base name)
  | _ => False

theorem written_fails {items : List Value} :
    (∃ e, (items.filter Value.truthy).mapM Value.writtenPlain = .error e) ↔
      ∃ item ∈ items, item.truthy = true ∧ item.isWritable = false := by
  simp only [mapM_fails, List.mem_filter, Value.writtenPlain_fails, and_assoc]

theorem faults_readKnown (s : Settings) (files : Files) (base : Option Path) (v : Value) :
    Faults (readKnown s files base v) ↔ BreaksKnown s files base v := by
  unfold readKnown BreaksKnown
  cases v.opened with
  | list items =>
    dsimp only
    rw [← written_fails]
    cases (items.filter Value.truthy).mapM Value.writtenPlain with
    | ok texts => simp
    | error e => exact iff_of_true ⟨_, rfl⟩ ⟨e, rfl⟩
  | text name =>
    dsimp only
    rw [← Catalog.ofFile_ends, Catalog.Ends]
    cases Catalog.ofFile s.catalogGroup files (fileNamed base name) with
    | ok c => simp
    | error e =>
      dsimp only
      cases he : e.isExpected <;> simp [he]
  | _ => simp

/-- What ends the reading of a limit: a value that is not as it should be and cannot be shown. -/
def BreaksLimit (fields : List (Value × Value)) (keys : List String) (default : Value)
    (least : Int) : Prop :=
  ((Value.firstGiven? fields keys).getD default).isWritable = false ∧
    ∀ i, (Value.firstGiven? fields keys).getD default = .num (.int i) → i < least

theorem faults_readLimit (fields : List (Value × Value)) (keys : List String) (name : String)
    (default : Value) (least : Int) :
    Faults (readLimit fields keys name default least) ↔ BreaksLimit fields keys default least := by
  have hrefuse : ∀ v : Value, Faults (readLimit.refuse name least v) ↔ v.isWritable = false := by
    intro v
    rw [readLimit.refuse, Value.written]
    cases v.isWritable with
    | true => simp
    | false => exact iff_of_true ⟨_, rfl⟩ rfl
  unfold readLimit BreaksLimit
  generalize (Value.firstGiven? fields keys).getD default = v
  split
  · next i =>
    simp only [Value.num.injEq, Number.int.injEq, forall_eq']
    split
    · next hle => exact iff_of_false faults_pure fun h => absurd h.2 (Int.not_lt.mpr hle)
    · next hlt => rw [hrefuse, Value.int, and_iff_left (Int.not_le.mp hlt)]
  · next hother => rw [hrefuse, and_iff_left fun i hi => (hother i hi).elim]

theorem faults_readGraph (s : Settings) (fields : List (Value × Value)) :
    Faults (readGraph s fields) ↔
      ∃ doc, graphDocument? fields = some doc ∧ Graph.Breaks s doc := by
  unfold readGraph
  cases graphDocument? fields with
  | none => simp
  | some doc =>
    simp only [Option.some.injEq, exists_eq_left', ← Graph.read_fails]
    cases Graph.read s doc with
    | error e => exact iff_of_true ⟨_, rfl⟩ ⟨e, rfl⟩
    | ok r => cases r <;> exact iff_of_false nofun nofun

theorem faults_retold {π α : Type} {tell : π → PlanProblem} {r : Report ReadFault π α} :
    Faults (retold tell r) ↔ Faults r := by
  cases r with
  | error e => exact iff_of_true ⟨_, rfl⟩ ⟨e, rfl⟩
  | ok c => exact iff_of_false nofun nofun

/-- What ends the reading of a plan. -/
def Breaks (s : Settings) (files : Files) (base : Option Path) (doc : Value) : Prop :=
  ∃ fields, doc.opened = .map fields ∧
    ((∃ graph, graphDocument? fields = some graph ∧ Graph.Breaks s graph) ∨
      BreaksLimit fields ["max_attempts", "maxAttempts"] s.maxAttempts 1 ∨
      BreaksLimit fields ["start_delay_ms", "startDelayMs"] s.startDelay 0 ∨
      Graph.BreaksTargets (Value.firstGiven fields ["modifiers", "modifierList"]) ∨
      BreaksKnown s files base (knownValue fields))

theorem faults_readParts (s : Settings) (files : Files) (base : Option Path)
    (fields : List (Value × Value)) :
    Faults (readParts s files base fields) ↔
      (∃ graph, graphDocument? fields = some graph ∧ Graph.Breaks s graph) ∨
        BreaksLimit fields ["max_attempts", "maxAttempts"] s.maxAttempts 1 ∨
        BreaksLimit fields ["start_delay_ms", "startDelayMs"] s.startDelay 0 ∨
        Graph.BreaksTargets (Value.firstGiven fields ["modifiers", "modifierList"]) ∨
        BreaksKnown s files base (knownValue fields) := by
  unfold readParts
  rw [faults_bind fun graph => faults_bind fun attempts => faults_bind fun delay =>
      faults_bind fun targets => faults_bind fun known => iff_false_intro faults_pure,
    faults_readGraph, faults_readLimit, faults_readLimit, faults_retold, Graph.faults_readTargets,
    faults_readKnown, or_false]

/-! ### What is refused has a problem -/

variable {s : Settings} {files : Files} {base : Option Path} {fields : List (Value × Value)}

theorem readGraph_problems {c : Checked PlanProblem (Option Graph)}
    (h : readGraph s fields = .ok c) (hnone : c.value = none) : c.problems ≠ [] := by
  unfold readGraph at h
  split at h
  · cases h
    simp
  · split at h
    · cases h
    · next problems hproblems =>
      cases h
      simpa using Graph.read_problems hproblems
    · cases h
      cases hnone

theorem readParts_problems {c : Checked PlanProblem (Option Plan)}
    (h : readParts s files base fields = .ok c) (hnone : c.value = none) : c.problems ≠ [] := by
  obtain ⟨graph, _, hgraph, hrest, hproblems, hvalue⟩ := bind_ok h
  obtain ⟨attempts, _, -, hrest, -, hattempts⟩ := bind_ok hrest
  obtain ⟨delay, _, -, hrest, -, hdelay⟩ := bind_ok hrest
  obtain ⟨targets, _, -, hrest, -, htargets⟩ := bind_ok hrest
  obtain ⟨known, _, -, hrest, -, hknown⟩ := bind_ok hrest
  cases hrest
  rw [hvalue, hattempts, hdelay, htargets, hknown] at hnone
  rw [hproblems]
  have hgraphless : graph.value = none := Option.map_eq_none_iff.mp hnone
  exact List.append_ne_nil_of_left_ne_nil (readGraph_problems hgraph hgraphless) _

/-- A graph with a delay that has no end. -/
def endlessDelay : Value :=
  .map [(.text "flow_graph", .map [
    (.text "nodes", .list [
      .map [(.text "id", .text "start"), (.text "kind", .text "start")],
      .map [(.text "id", .text "d"), (.text "kind", .text "delay"),
        (.text "data", .map [(.text "durationMs", .num (.float (1.0 / 0.0)))])],
      .map [(.text "id", .text "end"), (.text "kind", .text "end")]]),
    (.text "edges", .list [
      .map [(.text "source", .text "start"), (.text "target", .text "d")],
      .map [(.text "source", .text "d"), (.text "target", .text "end")]])])]

end Plan

end Reroll
