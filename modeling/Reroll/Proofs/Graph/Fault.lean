import Reroll.Graph.Reader
import Reroll.Proofs.Document.Convert
import Reroll.Proofs.Document.Report

/-!
# What ends the reading of a graph

Most of what is wrong with a document is reported as a problem. What is not: a number that is not
finite where a whole one is read, a whole number too long to be written where a text is made of it,
an infinite bound of a target, and a value that counts as given and is taken for a text without
being one. Beside each reader stands a condition on the value it reads, and the reader faults
exactly under that condition; for whole graphs this is `Graph.read_fails`. A graph that is refused
has a problem (`Graph.read_problems`).
-/

namespace Reroll

open Report

namespace Graph

variable {place : String}

theorem faults_writtenBy {r : Except ConversionError String} :
    Faults (writtenBy r) ↔ ∃ e, r = .error e :=
  faults_ofExcept.trans mapError_fails

/-- What follows a text that is made of a value. -/
theorem faults_written_bind {β : Type} {v : Value} {f : String → Parsed β} :
    Faults (writtenBy v.writtenPlain >>= f) ↔ v.isWritable = false ∨ Faults (f v.plain) := by
  rw [Value.writtenPlain]
  cases v.isWritable with
  | false => exact iff_of_true (faults_bind_of_error rfl) (.inl rfl)
  | true => exact (faults_bind_of_ok rfl).trans (by simp)

/-! ### Points and regions -/

/-- What ends the reading of a whole number. -/
def BreaksWhole : Value → Prop
  | .num n => ¬n.IsFinite
  | v => v.isWritable = false

theorem faults_readWhole (v : Value) : Faults (readWhole v place) ↔ BreaksWhole v := by
  have hshown : ∀ v : Value, Faults (writtenBy v.written >>= fun shown =>
      (noted ⟨place, .notNumber shown⟩ none : Parsed (Option Int))) ↔ v.isWritable = false := by
    intro v
    rw [faults_bind fun shown => iff_false_intro faults_noted, or_false, faults_writtenBy,
      Value.written_fails]
  cases v with
  | num n =>
    rw [readWhole, faults_bind fun i => iff_false_intro faults_pure, or_false,
      faults_ofExcept, mapError_fails, Number.rounded_fails]
    rfl
  | _ => exact hshown _

/-- What ends the reading of whole numbers in the named fields. -/
def BreaksWholes (keys : List String) (fields : List (Value × Value)) : Prop :=
  ∃ key ∈ keys, BreaksWhole (Value.get fields key)

/-- What ends the reading of a point. -/
def BreaksPoint (v : Value) : Prop :=
  ∃ fields, v.opened = .map fields ∧ BreaksWholes ["x", "y"] fields

theorem faults_readPoint (v : Value) : Faults (readPoint v place) ↔ BreaksPoint v := by
  unfold readPoint BreaksPoint
  cases v.opened with
  | map fields =>
    dsimp only
    rw [faults_bind fun x => faults_bind (P := False) fun y => ?_]
    · simp [faults_readWhole, BreaksWholes]
    · cases x <;> cases y <;> simp
  | _ => simp

/-- What ends the reading of a region. -/
def BreaksRegion (v : Value) : Prop :=
  ∃ fields, regionFields? v = some fields ∧ BreaksWholes ["x", "y", "width", "height"] fields

theorem faults_readRegion (v : Value) : Faults (readRegion v place) ↔ BreaksRegion v := by
  unfold readRegion BreaksRegion
  cases hnull : v.isNull with
  | true =>
    have hnone : regionFields? v = none := by
      cases v with
      | null => rfl
      | _ => cases hnull
    simp [hnone]
  | false =>
    cases regionFields? v with
    | none => simp
    | some fields =>
      simp only [Bool.false_eq_true, if_false, Option.some.injEq, exists_eq_left']
      rw [faults_bind fun x => faults_bind fun y => faults_bind fun width =>
        faults_bind (P := False) fun height => ?_]
      · simp [faults_readWhole, BreaksWholes]
      · cases x <;> cases y <;> cases width <;> cases height <;> simp

/-! ### Targets -/

/-- A target is refused for a bound that is out of range. -/
def Overflows {α : Type} (r : Except SpecReadError α) : Prop :=
  ∃ e c, r = .error e ∧ e.overflow? = some c

theorem overflows_bind {α β : Type} {r : Except SpecReadError α}
    {f : α → Except SpecReadError β} :
    Overflows (r >>= f) ↔ Overflows r ∨ ∃ a, r = .ok a ∧ Overflows (f a) := by
  cases r with
  | error e => simp [Overflows, bind, Except.bind]
  | ok a => simp [Overflows, bind, Except.bind]

/-- The pattern that a target gives. -/
def givenPattern (fields : List (Value × Value)) : Value :=
  ((Value.get fields "pattern").orElse (Value.get fields "text")).orElse (.text "")

theorem readPattern_eq (fields : List (Value × Value)) :
    Spec.readPattern fields =
      if (givenPattern fields).isWritable then .ok (Text.stripped (givenPattern fields).plain)
      else .error (.conversion .unwritable) := by
  unfold Spec.readPattern givenPattern Value.writtenPlain
  dsimp only
  generalize ((Value.get fields "pattern").orElse (Value.get fields "text")).orElse _ = given
  cases given.isWritable <;> rfl

/-- A bound is a whole number, or there is none. -/
def HasBound (fields : List (Value × Value)) (keys : List String) : Prop :=
  ∀ v, Value.firstGiven? fields keys = some v → ∃ i, v.toInt = .ok i

/-- A bound is infinite. -/
def HasEndlessBound (fields : List (Value × Value)) (keys : List String) : Prop :=
  ∃ v, Value.firstGiven? fields keys = some v ∧ v.IsInfinite

variable {fields : List (Value × Value)} {keys : List String}

theorem overflows_readBound :
    Overflows (Spec.readBound fields keys) ↔ HasEndlessBound fields keys := by
  unfold Spec.readBound HasEndlessBound Overflows
  cases Value.firstGiven? fields keys with
  | none => simp
  | some v =>
    simp only [Option.some.injEq, exists_eq_left', ← Value.toInt_overflow]
    cases v.toInt with
    | ok i => simp
    | error e => simp [SpecReadError.overflow?]

theorem readBound_ok : (∃ b, Spec.readBound fields keys = .ok b) ↔ HasBound fields keys := by
  unfold Spec.readBound HasBound
  cases Value.firstGiven? fields keys with
  | none => simp
  | some v =>
    simp only [Option.some.injEq, forall_eq']
    cases v.toInt with
    | ok i => simp
    | error e => simp

theorem not_overflows_make {pattern : String} {low high : Option Number} {ranged : Bool} :
    ¬Overflows ((Spec.make pattern low high ranged).mapError .parts) := by
  cases Spec.make pattern low high ranged with
  | ok s =>
    rintro ⟨e, c, he, -⟩
    cases he
  | error e =>
    rintro ⟨e', c, he, hc⟩
    cases he
    cases hc

theorem not_overflows_unsupported (v : Value) :
    ¬Overflows (α := Spec) (match v.written with
      | .ok shown => .error (.unsupported shown)
      | .error e => .error (.conversion e)) := by
  rw [Value.written]
  cases v.isWritable with
  | true => simp [Overflows, SpecReadError.overflow?]
  | false => simp [Overflows, SpecReadError.overflow?, ConversionError.isOverflow]

/-- What ends the reading of a target: an infinite bound that is the first thing wrong with it. -/
def BreaksTarget (v : Value) : Prop :=
  ∃ fields, v.opened = .map fields ∧ (givenPattern fields).isWritable = true ∧
    (HasEndlessBound fields ["minValue", "min_value"] ∨
      HasBound fields ["minValue", "min_value"] ∧
      HasEndlessBound fields ["maxValue", "max_value"])

theorem overflows_ofValue (v : Value) : Overflows (Spec.ofValue v) ↔ BreaksTarget v := by
  unfold Spec.ofValue BreaksTarget
  cases v.opened with
  | map fields =>
    simp only [Value.map.injEq, exists_eq_left', overflows_bind, overflows_readBound,
      not_overflows_make, and_false, exists_false, or_false]
    rw [readPattern_eq]
    cases (givenPattern fields).isWritable with
    | false => simp [Overflows, SpecReadError.overflow?, ConversionError.isOverflow]
    | true => simp [Overflows, ← readBound_ok]
  | text s => simp [Overflows]
  | _ => exact iff_of_false (not_overflows_unsupported v) (by simp)

theorem faults_readTarget (v : Value) (i : Nat) :
    Faults (readTarget place v i) ↔ BreaksTarget v := by
  rw [← overflows_ofValue, readTarget, Overflows]
  cases Spec.ofValue v with
  | ok s =>
    dsimp only
    split <;> simp
  | error e =>
    dsimp only
    cases he : e.overflow? with
    | none => simp [he]
    | some c => simp [he]

/-- The targets that a value lists; a single one needs no list. -/
def listed (v : Value) : List Value :=
  match v.opened with
  | .null => []
  | .list items => items
  | _ => [v]

/-- What ends the reading of a list of targets. -/
def BreaksTargets (v : Value) : Prop := ∃ target ∈ listed v, BreaksTarget target

theorem faults_readTargets (v : Value) : Faults (readTargets v place) ↔ BreaksTargets v := by
  unfold readTargets BreaksTargets listed
  cases v.opened with
  | null => simp
  | _ => exact faults_collect faults_readTarget 0 _

/-! ### The data of nodes -/

/-- What ends the reading of a click. -/
def BreaksClick (default : Value) (fields : List (Value × Value)) : Prop :=
  BreaksWhole
      ((Value.firstGiven? fields ["postDelayMs", "post_delay_ms", "delayMs"]).getD default) ∨
    BreaksPoint (Value.get fields "position")

theorem faults_readClick (default : Value) (fields : List (Value × Value)) :
    Faults (readClick default fields place) ↔ BreaksClick default fields := by
  unfold readClick BreaksClick
  dsimp only
  rw [faults_bind fun delay => faults_bind fun position => iff_false_intro faults_pure,
    faults_readWhole, faults_readPoint, or_false]

/-- What ends the reading of a check. -/
def BreaksCheck (fields : List (Value × Value)) : Prop :=
  BreaksTargets (Value.firstGiven fields ["modifiers", "modifierList", "modifier_list"]) ∨
    (Value.get fields "modifierText").IsNoText ∨ BreaksRegion (Value.get fields "region")

theorem faults_readCheck (fields : List (Value × Value)) :
    Faults (readCheck fields place) ↔ BreaksCheck fields := by
  unfold readCheck BreaksCheck
  dsimp only
  rw [faults_bind fun targets => faults_bind fun single => faults_bind fun region =>
    iff_false_intro faults_pure, faults_readTargets, faults_ofExcept, mapError_fails,
    Value.textFor_fails, faults_readRegion, or_false]

/-- What ends the reading of a delay. -/
def BreaksDelay (fields : List (Value × Value)) : Prop :=
  BreaksWhole ((Value.firstGiven? fields ["durationMs", "duration_ms", "delayMs"]).getD (.int 0))

theorem faults_readDelay (fields : List (Value × Value)) :
    Faults (readDelay fields place) ↔ BreaksDelay fields := by
  unfold readDelay BreaksDelay
  dsimp only
  rw [faults_bind fun duration => iff_false_intro faults_pure, faults_readWhole, or_false]

/-- What ends the reading of the data of a node of the given kind. -/
def BreaksData (s : Settings) (kind : NodeKind) (fields : List (Value × Value)) : Prop :=
  match kind with
  | .leftClick => BreaksClick s.leftClickPostDelay fields
  | .rightClick => BreaksClick s.rightClickPostDelay fields
  | .check => BreaksCheck fields
  | .delay => BreaksDelay fields
  | _ => False

theorem faults_readData (s : Settings) (kind : NodeKind) (fields : List (Value × Value)) :
    Faults (readData s kind fields place) ↔ BreaksData s kind fields := by
  unfold readData BreaksData
  cases kind with
  | leftClick => exact faults_readClick _ _
  | rightClick => exact faults_readClick _ _
  | check => exact faults_readCheck _
  | delay => exact faults_readDelay _
  | _ => exact iff_false_intro faults_pure

/-! ### Nodes and edges -/

/-- The data of a node as fields. -/
def dataFields (v : Value) : List (Value × Value) :=
  match v.truthy, v.opened with
  | true, .map fields => fields
  | _, _ => []

theorem readFields_ok (v : Value) (place : String) :
    ∃ problems, readFields v place = .ok ⟨problems, dataFields v⟩ := by
  unfold readFields dataFields
  cases v.truthy with
  | false => exact ⟨[], rfl⟩
  | true =>
    cases v.opened with
    | map fields => exact ⟨[], rfl⟩
    | _ => exact ⟨_, rfl⟩

/-- The kind that a node gives among its data or beside them. -/
def givenKind (raw data : List (Value × Value)) : Value :=
  ((Value.get data "type").orElse (Value.get raw "kind")).orElse (Value.get raw "type")

/-- The label that a node gives among its data or beside them. -/
def givenLabel (raw data : List (Value × Value)) : Value :=
  (((Value.get data "customName").orElse (Value.get data "label")).orElse
    (Value.get raw "label")).orElse (.text "")

/-- What ends the reading of a node with an id. -/
def BreaksNamedNode (s : Settings) (raw data : List (Value × Value)) : Prop :=
  (givenKind raw data).truthy = true ∧
    ((givenKind raw data).isWritable = false ∨
      BreaksData s (readKind (givenKind raw data).plain) data ∨
      (givenLabel raw data).isWritable = false)

theorem faults_readNamedNode (s : Settings) (id : String) (raw : List (Value × Value)) :
    Faults (readNamedNode s id raw place) ↔
      BreaksNamedNode s raw (dataFields (Value.get raw "data")) := by
  obtain ⟨problems, hfields⟩ := readFields_ok (Value.get raw "data") place
  unfold readNamedNode BreaksNamedNode
  rw [faults_bind_of_ok hfields]
  dsimp only
  generalize dataFields (Value.get raw "data") = data
  rw [← givenKind, ← givenLabel]
  cases (givenKind raw data).truthy with
  | false => simp
  | true =>
    have hlabel : ∀ step : StepData, Faults (writtenBy (givenLabel raw data).writtenPlain >>=
        fun label => (pure (some ⟨id, readKind (givenKind raw data).plain, step, label⟩) :
          Parsed (Option Node))) ↔ (givenLabel raw data).isWritable = false := by
      intro step
      rw [faults_written_bind, or_iff_left faults_pure]
    rw [if_pos rfl, faults_written_bind, faults_bind hlabel, faults_readData]
    simp

/-- What ends the reading of a node. -/
def BreaksNode (s : Settings) (raw : Value) : Prop :=
  ∃ fields id, raw.opened = .map fields ∧ Value.get fields "id" = .text id ∧ id ≠ "" ∧
    BreaksNamedNode s fields (dataFields (Value.get fields "data"))

theorem faults_readNode (s : Settings) (raw : Value) (i : Nat) :
    Faults (readNode s raw i) ↔ BreaksNode s raw := by
  unfold readNode BreaksNode
  dsimp only
  cases raw.opened with
  | map fields =>
    simp only [Value.map.injEq, exists_and_left, exists_eq_left']
    cases hid : Value.get fields "id" with
    | text id =>
      by_cases hempty : id = ""
      · simp [hempty]
      · simp [hempty, faults_readNamedNode]
    | _ => simp
  | _ => simp

/-- What ends the reading of an edge. -/
def BreaksEdge (raw : Value) : Prop :=
  ∃ fields, raw.opened = .map fields ∧ (Value.get fields "source").truthy = true ∧
    (Value.get fields "target").truthy = true ∧
    ((Value.get fields "source").isWritable = false ∨
      (Value.get fields "target").isWritable = false ∨
      (Value.firstGiven fields ["branch", "sourceHandle", "source_handle"]).truthy = true ∧
        (Value.firstGiven fields ["branch", "sourceHandle", "source_handle"]).isWritable = false)

theorem faults_readBranch (v : Value) :
    Faults (readBranch v) ↔ v.truthy = true ∧ v.isWritable = false := by
  unfold readBranch
  split
  · exact iff_of_false faults_pure fun h => nomatch h.2
  · cases v.truthy with
    | false => simp
    | true =>
      rw [if_pos rfl, faults_written_bind, or_iff_left faults_pure]
      simp

theorem faults_readEdge (raw : Value) (i : Nat) : Faults (readEdge raw i) ↔ BreaksEdge raw := by
  unfold readEdge BreaksEdge
  dsimp only
  cases raw.opened with
  | map fields =>
    simp only [Value.map.injEq, exists_eq_left']
    cases (Value.get fields "source").truthy with
    | false => simp
    | true =>
      cases (Value.get fields "target").truthy with
      | false => simp
      | true =>
        rw [Bool.and_self, if_pos rfl, faults_written_bind, faults_written_bind,
          faults_bind fun branch => iff_false_intro faults_pure, faults_readBranch]
        simp
  | _ => simp

/-! ### Graphs -/

/-- The edges that a value lists, if it can be a list of edges at all. -/
def edgesOf? (v : Value) : Option (List Value) :=
  match v.truthy, v.opened with
  | false, _ => some []
  | true, .list edges => some edges
  | true, _ => none

/-- What ends the reading of a graph: there is a list of nodes and one of edges, and the reading of
one of them ends. -/
def Breaks (s : Settings) (doc : Value) : Prop :=
  ∃ fields nodes edges, doc.opened = .map fields ∧
    (Value.get fields "nodes").opened = .list nodes ∧ nodes ≠ [] ∧
    edgesOf? (Value.get fields "edges") = some edges ∧
    ((∃ n ∈ nodes, BreaksNode s n) ∨ ∃ e ∈ edges, BreaksEdge e)

theorem readParts_fails (s : Settings) (nodes edges : List Value) :
    (∃ e, readParts s nodes edges = .error e) ↔
      (∃ n ∈ nodes, BreaksNode s n) ∨ ∃ e ∈ edges, BreaksEdge e := by
  unfold readParts
  have hparts : Faults (do
      let nodes ← collect (readNode s) 0 nodes
      let edges ← collect readEdge 0 edges
      return { nodes, edges } : Parsed Graph) ↔
        (∃ n ∈ nodes, BreaksNode s n) ∨ ∃ e ∈ edges, BreaksEdge e := by
    rw [faults_bind fun nodes => faults_bind fun edges => iff_false_intro faults_pure, or_false,
      faults_collect (faults_readNode s), faults_collect faults_readEdge]
  rw [← hparts, Faults]
  dsimp only
  split
  · next e he => exact iff_of_true ⟨e, rfl⟩ ⟨e, he⟩
  · next g hg => exact iff_of_false nofun (by simp [hg])

theorem read_fails (s : Settings) (doc : Value) : (∃ e, read s doc = .error e) ↔ Breaks s doc := by
  unfold read Breaks edgesOf?
  cases doc.opened with
  | map fields =>
    simp only [Value.map.injEq, exists_and_left, exists_eq_left']
    cases (Value.get fields "nodes").opened with
    | list nodes =>
      cases nodes with
      | nil => simp
      | cons n nodes =>
        dsimp only
        cases (Value.get fields "edges").truthy with
        | false => simp [map_fails, readParts_fails]
        | true =>
          cases (Value.get fields "edges").opened with
          | list edges => simp [map_fails, readParts_fails]
          | _ => simp
    | _ => simp
  | _ => simp

theorem verdict_problems {r : Except ReadFault (Checked DocumentProblem Graph)}
    {problems : List DocumentProblem} (h : r.map read.verdict = .ok (.error problems)) :
    problems ≠ [] := by
  cases r with
  | error e => cases h
  | ok c =>
    have hverdict : read.verdict c = .error problems := Except.ok.inj h
    unfold read.verdict at hverdict
    split at hverdict
    · cases hverdict
    · next hproblems =>
      cases hverdict
      simpa using hproblems

/-- A graph is refused with a problem. -/
theorem read_problems {s : Settings} {doc : Value} {problems : List DocumentProblem}
    (h : read s doc = .ok (.error problems)) : problems ≠ [] := by
  unfold read at h
  split at h
  · split at h
    · dsimp only at h
      split at h
      · exact verdict_problems h
      · exact verdict_problems h
      · cases h
        simp
    · cases h
      simp
  · cases h
    simp

end Graph

end Reroll
