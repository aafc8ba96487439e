import Reroll.Plan.Reader
import Reroll.Proofs.Graph.Entry
import Reroll.Proofs.Text.Blank

/-!
# What a plan keeps of its document

A document is read as a plan exactly when the plan is what the document says and its graph can be
run; such a plan is proper (`Plan.read_keeps`). Nodes, edges and targets stand one for each entry
and in order. Two things are passed over without a problem: a text for a single target that is
blank, and what counts as absent in a list of known modifiers (`Plan.blank_target_vanishes`).
-/

namespace Reroll

open Report

/-! ### Proper plans -/

/-- A target with a pattern, which asks for a value exactly when it has a bound for it. -/
structure Spec.Proper (t : Spec) : Prop where
  filled : t.pattern ≠ ""
  stripped : Text.stripped t.pattern = t.pattern
  ranged : t.ranged = true ↔ t.low.isSome = true ∨ t.high.isSome = true
  ordered : ∀ low high, t.low = some low → t.high = some high →
    ∃ a b : Int, low = .int a ∧ high = .int b ∧ a ≤ b

namespace StepData

/-- The targets of a step. -/
def targets : StepData → List Spec
  | .check _ targets => targets
  | _ => []

/-- The delay of a step. -/
def wait? : StepData → Option Value
  | .click _ _ post => some post
  | .delay duration => some duration
  | _ => none

end StepData

/-- A plan whose graph can be run, with proper targets, delays that are not negative and at least
one attempt. -/
structure Plan.Proper (plan : Plan) : Prop where
  sound : plan.graph.problems = []
  targets : ∀ t ∈ plan.targets, t.Proper
  checks : ∀ n ∈ plan.graph.nodes, ∀ t ∈ n.data.targets, t.Proper
  waits : ∀ n ∈ plan.graph.nodes, ∀ delay, n.data.wait? = some delay →
    ∃ i : Int, 0 ≤ i ∧ delay = .int i
  startDelay : ∃ i : Int, 0 ≤ i ∧ plan.startDelay = .int i
  maxAttempts : ∃ i : Int, 1 ≤ i ∧ plan.maxAttempts = .int i

/-- What holds of whatever an entry gives holds of all that a list of entries gives. -/
theorem forall_given {α β : Type} {R : α → β → Prop} {P : β → Prop} {entries : List α}
    {values : List β} (h : List.Forall₂ R entries values) (hP : ∀ a b, R a b → P b) :
    ∀ b ∈ values, P b := by
  induction h with
  | nil => nofun
  | cons hab _ ih => exact List.forall_mem_cons.mpr ⟨hP _ _ hab, ih⟩

namespace Graph

theorem plain_proper {s : String} (h : Text.stripped s ≠ "") :
    (Spec.plain (Text.stripped s)).Proper where
  filled := h
  stripped := Text.stripped_stripped s
  ranged := by simp [Spec.plain]
  ordered := by simp [Spec.plain]

/-- A target asks for a value when a bound is given, and a target without one may not ask. -/
theorem ranged_iff {fields : List (Value × Value)} {t : Spec}
    (hlow : BoundGiven fields ["minValue", "min_value"] t.low)
    (hhigh : BoundGiven fields ["maxValue", "max_value"] t.high)
    (hranged : t.ranged = Spec.asksForValue fields) :
    t.ranged = true ↔ t.low.isSome = true ∨ t.high.isSome = true := by
  constructor
  · intro h
    have hbounded := t.bounded
    rw [h] at hbounded
    cases hl : t.low with
    | some low => exact .inl rfl
    | none =>
      cases hh : t.high with
      | some high => exact .inr rfl
      | none => simp [hl, hh] at hbounded
  · intro h
    rw [hranged, Spec.asksForValue, Bool.or_eq_true, Bool.or_eq_true]
    rcases h with h | h
    · obtain ⟨low, hl⟩ := Option.isSome_iff_exists.mp h
      rw [hl] at hlow
      obtain ⟨v, i, hv, -, -⟩ := hlow
      exact .inl (.inr (by rw [hv]; rfl))
    · obtain ⟨high, hh⟩ := Option.isSome_iff_exists.mp h
      rw [hh] at hhigh
      obtain ⟨v, i, hv, -, -⟩ := hhigh
      exact .inr (by rw [hv]; rfl)

theorem TargetGiven.proper {v : Value} {t : Spec} (h : TargetGiven v t) : t.Proper := by
  obtain ⟨hsaid, hfilled⟩ := h
  unfold TargetSaid at hsaid
  split at hsaid
  · subst hsaid
    exact plain_proper hfilled
  · obtain ⟨⟨text, -, hpattern⟩, hlow, hhigh, hranged⟩ := hsaid
    refine ⟨hfilled, ?_, ranged_iff hlow hhigh hranged, fun low high hl hh => ?_⟩
    · rw [hpattern, Text.stripped_stripped]
    · rw [hl] at hlow
      rw [hh] at hhigh
      obtain ⟨-, a, -, -, rfl⟩ := hlow
      obtain ⟨-, b, -, -, rfl⟩ := hhigh
      refine ⟨a, b, rfl, rfl, ?_⟩
      have hordered := t.ordered
      rw [hl, hh, crossed, Number.lt_int, decide_eq_false_iff_not] at hordered
      exact Int.not_lt.mp hordered
  · exact hsaid.elim

theorem CheckTargets.proper {fields : List (Value × Value)} {targets : List Spec}
    (h : CheckTargets fields targets) : ∀ t ∈ targets, t.Proper := by
  unfold CheckTargets at h
  split at h
  · subst h
    unfold singleTargets
    split
    · split
      · nofun
      · next hfilled =>
        rw [List.forall_mem_singleton]
        exact plain_proper (by simpa using hfilled)
    · nofun
  · exact forall_given h fun v t => TargetGiven.proper

theorem DataGiven.targets_proper {s : Settings} {kind : NodeKind} {fields : List (Value × Value)}
    {data : StepData} (h : DataGiven s kind fields data) : ∀ t ∈ data.targets, t.Proper := by
  cases kind with
  | check =>
    obtain ⟨region, targets, -, -, htargets, rfl⟩ := h
    exact htargets.proper
  | leftClick =>
    obtain ⟨delay, position, -, -, rfl⟩ := h
    nofun
  | rightClick =>
    obtain ⟨delay, position, -, -, rfl⟩ := h
    nofun
  | delay =>
    obtain ⟨duration, -, rfl⟩ := h
    nofun
  | _ =>
    cases h
    nofun

theorem DataGiven.wait_nonneg {s : Settings} {kind : NodeKind} {fields : List (Value × Value)}
    {data : StepData} (h : DataGiven s kind fields data) :
    ∀ delay, data.wait? = some delay → ∃ i : Int, 0 ≤ i ∧ delay = .int i := by
  have hclamped : ∀ (i : Int) (delay : Value), some (Value.int (max 0 i)) = some delay →
      ∃ i : Int, 0 ≤ i ∧ delay = .int i := by
    rintro i _ ⟨⟩
    exact ⟨max 0 i, Int.le_max_left 0 i, rfl⟩
  cases kind with
  | leftClick =>
    obtain ⟨delay, position, -, -, rfl⟩ := h
    exact hclamped delay
  | rightClick =>
    obtain ⟨delay, position, -, -, rfl⟩ := h
    exact hclamped delay
  | delay =>
    obtain ⟨duration, -, rfl⟩ := h
    exact hclamped duration
  | check =>
    obtain ⟨region, targets, -, -, -, rfl⟩ := h
    nofun
  | _ =>
    cases h
    nofun

end Graph

namespace Plan

/-! ### Limits and known modifiers -/

variable {s : Settings} {files : Files} {base : Option Path} {fields : List (Value × Value)}

/-- A limit is what the first given of the named fields says, or else a default; it is a whole
number and at least the given one. -/
def LimitGiven (fields : List (Value × Value)) (keys : List String) (default : Value)
    (least i : Int) : Prop :=
  (Value.firstGiven? fields keys).getD default = .int i ∧ least ≤ i

theorem gives_readLimit {keys : List String} {name : String} {default : Value} {least i : Int} :
    Gives (readLimit fields keys name default least) i ↔
      LimitGiven fields keys default least i := by
  have hrefuse : ∀ v : Value, ¬Gives (readLimit.refuse name least v) i := by
    intro v
    unfold readLimit.refuse
    cases v.written with
    | ok shown => exact gives_noted
    | error e => nofun
  unfold readLimit LimitGiven
  generalize (Value.firstGiven? fields keys).getD default = v
  split
  · next j =>
    by_cases hj : least ≤ j
    · rw [if_pos hj, gives_pure]
      constructor
      · rintro rfl
        exact ⟨rfl, hj⟩
      · rintro ⟨⟨⟩, -⟩
        rfl
    · rw [if_neg hj]
      refine iff_of_false (hrefuse _) ?_
      rintro ⟨⟨⟩, hle⟩
      exact hj hle
  · next hother =>
    refine iff_of_false (hrefuse _) ?_
    rintro ⟨rfl, -⟩
    exact hother i rfl

/-- The known modifiers are those of a list, where what counts as absent is left out, or those of a
file that is named. -/
def KnownGiven (s : Settings) (files : Files) (base : Option Path) (v : Value)
    (known : Option Catalog) : Prop :=
  match v.opened with
  | .null => known = none
  | .list items => ∃ texts, List.Forall₂ Graph.WrittenAs (items.filter Value.truthy) texts ∧
      known = some (Catalog.ofTexts texts)
  | .text name => ∃ c, Catalog.ofFile s.catalogGroup files (fileNamed base name) = .ok c ∧
      known = some c
  | _ => False

theorem writtenPlain_eq_ok {v : Value} {text : String} :
    v.writtenPlain = .ok text ↔ Graph.WrittenAs v text := by
  unfold Value.writtenPlain Graph.WrittenAs
  cases v.isWritable <;> simp [eq_comm]

theorem gives_readKnown {v : Value} {known : Option Catalog} :
    Gives (readKnown s files base v) known ↔ KnownGiven s files base v known := by
  unfold readKnown KnownGiven
  cases v.opened with
  | null => simp [eq_comm]
  | list items =>
    have hwritten : ∀ texts, List.Forall₂ Graph.WrittenAs (items.filter Value.truthy) texts ↔
        (items.filter Value.truthy).mapM Value.writtenPlain = .ok texts := by
      intro texts
      simp only [mapM_eq_ok, writtenPlain_eq_ok]
    simp only [hwritten]
    cases (items.filter Value.truthy).mapM Value.writtenPlain with
    | ok texts => simp [eq_comm]
    | error e => exact iff_of_false nofun nofun
  | text name =>
    dsimp only
    cases Catalog.ofFile s.catalogGroup files (fileNamed base name) with
    | ok c => simp [eq_comm]
    | error e => cases he : e.isExpected <;> simp [he]
  | _ => simp

/-! ### Plans -/

/-- A plan is what a document says. -/
def PlanGiven (s : Settings) (files : Files) (base : Option Path) (doc : Value)
    (plan : Plan) : Prop :=
  ∃ fields graph maxAttempts startDelay, doc.opened = .map fields ∧
    graphDocument? fields = some graph ∧ Graph.GraphGiven s graph plan.graph ∧
    LimitGiven fields ["max_attempts", "maxAttempts"] s.maxAttempts 1 maxAttempts ∧
    plan.maxAttempts = .int maxAttempts ∧
    LimitGiven fields ["start_delay_ms", "startDelayMs"] s.startDelay 0 startDelay ∧
    plan.startDelay = .int startDelay ∧
    Graph.TargetsGiven (Value.firstGiven fields ["modifiers", "modifierList"]) plan.targets ∧
    KnownGiven s files base (knownValue fields) plan.known

theorem gives_readGraph {g : Graph} :
    Gives (readGraph s fields) (some g) ↔
      ∃ doc, graphDocument? fields = some doc ∧ Graph.GraphGiven s doc g ∧ g.problems = [] := by
  unfold readGraph
  cases graphDocument? fields with
  | none => simp
  | some doc =>
    simp only [Option.some.injEq, exists_eq_left', ← Graph.read_ok]
    cases Graph.read s doc with
    | error e => exact iff_of_false nofun nofun
    | ok r =>
      cases r with
      | error problems => simp [gives_ok]
      | ok g' => simp [gives_ok]

theorem gives_retold {π α : Type} {tell : π → PlanProblem} {r : Report ReadFault π α} {a : α} :
    Gives (retold tell r) a ↔ Gives r a := by
  cases r with
  | error e => exact iff_of_false nofun nofun
  | ok c =>
    obtain ⟨problems, b⟩ := c
    exact gives_ok.trans (Iff.trans (by simp) gives_ok.symm)

theorem gives_readParts {plan : Plan} :
    Gives (readParts s files base fields) (some plan) ↔
      ∃ graph maxAttempts startDelay, graphDocument? fields = some graph ∧
        Graph.GraphGiven s graph plan.graph ∧ plan.graph.problems = [] ∧
        LimitGiven fields ["max_attempts", "maxAttempts"] s.maxAttempts 1 maxAttempts ∧
        plan.maxAttempts = .int maxAttempts ∧
        LimitGiven fields ["start_delay_ms", "startDelayMs"] s.startDelay 0 startDelay ∧
        plan.startDelay = .int startDelay ∧
        Graph.TargetsGiven (Value.firstGiven fields ["modifiers", "modifierList"]) plan.targets ∧
        KnownGiven s files base (knownValue fields) plan.known := by
  unfold readParts
  simp only [gives_bind, gives_readLimit, gives_retold, Graph.gives_readTargets, gives_readKnown,
    gives_pure]
  constructor
  · intro hgiven
    obtain ⟨og, hgraph, maxAttempts, hmax, startDelay, hstart, targets, htargets, known, hknown,
      hp⟩ := hgiven
    obtain ⟨g, rfl, rfl⟩ := Option.map_eq_some_iff.mp hp
    obtain ⟨doc, hdoc, hgiven, hsound⟩ := gives_readGraph.mp hgraph
    exact ⟨doc, maxAttempts, startDelay, hdoc, hgiven, hsound, hmax, rfl, hstart, rfl, htargets,
      hknown⟩
  · intro hgiven
    obtain ⟨doc, maxAttempts, startDelay, hdoc, hgiven, hsound, hmax, hattempts, hstart, hdelay,
      htargets, hknown⟩ := hgiven
    refine ⟨some plan.graph, gives_readGraph.mpr ⟨doc, hdoc, hgiven, hsound⟩, maxAttempts, hmax,
      startDelay, hstart, plan.targets, htargets, plan.known, hknown, ?_⟩
    rw [← hattempts, ← hdelay]
    rfl

theorem read_gives {doc : Value} {plan : Plan} :
    read s files base doc = .ok (.ok plan) ↔
      ∃ fields, doc.opened = .map fields ∧ Gives (readParts s files base fields) (some plan) := by
  unfold read
  cases doc.opened with
  | map fields =>
    simp only [Value.map.injEq, exists_eq_left']
    constructor
    · intro h
      split at h
      · cases h
      · next plan' hparts =>
        cases h
        exact hparts
      · cases h
    · intro h
      have hparts : readParts s files base fields = .ok ⟨[], some plan⟩ := h
      rw [hparts]
  | _ => simp

theorem read_ok {doc : Value} {plan : Plan} :
    read s files base doc = .ok (.ok plan) ↔
      PlanGiven s files base doc plan ∧ plan.graph.problems = [] := by
  simp only [read_gives, gives_readParts]
  constructor
  · intro hgiven
    obtain ⟨fields, hfields, graph, maxAttempts, startDelay, hgraph, hgiven, hsound,
      hrest⟩ := hgiven
    exact ⟨⟨fields, graph, maxAttempts, startDelay, hfields, hgraph, hgiven, hrest⟩, hsound⟩
  · intro hgiven
    obtain ⟨⟨fields, graph, maxAttempts, startDelay, hfields, hgraph, hgiven, hrest⟩,
      hsound⟩ := hgiven
    exact ⟨fields, hfields, graph, maxAttempts, startDelay, hgraph, hgiven, hsound, hrest⟩

theorem PlanGiven.proper {doc : Value} {plan : Plan} (h : PlanGiven s files base doc plan)
    (hsound : plan.graph.problems = []) : plan.Proper := by
  obtain ⟨fields, graph, maxAttempts, startDelay, -, -, hgraph, hmax, hattempts, hstart, hdelay,
    htargets, -⟩ := h
  obtain ⟨_, _, _, -, -, -, -, hnodes, -⟩ := hgraph
  refine ⟨hsound, forall_given htargets fun v t => Graph.TargetGiven.proper,
    forall_given hnodes ?_, forall_given hnodes ?_, ⟨startDelay, hstart.2, hdelay⟩,
    ⟨maxAttempts, hmax.2, hattempts⟩⟩
  · rintro raw n ⟨_, _, _, -, -, -, -, -, -, -, hdata, -⟩
    exact hdata.targets_proper
  · rintro raw n ⟨_, _, _, -, -, -, -, -, -, -, hdata, -⟩
    exact hdata.wait_nonneg

/-- A check with a blank text for its only target, and a list of known modifiers with a zero. -/
def blankTarget : Value :=
  .map [
    (.text "flow_graph", .map [
      (.text "nodes", .list [
        .map [(.text "id", .text "start"), (.text "kind", .text "start")],
        .map [(.text "id", .text "c"), (.text "kind", .text "checkRegion"),
          (.text "data", .map [(.text "modifierText", .text " ")])],
        .map [(.text "id", .text "end"), (.text "kind", .text "end")]]),
      (.text "edges", .list [
        .map [(.text "source", .text "start"), (.text "target", .text "c")],
        .map [(.text "source", .text "c"), (.text "target", .text "end"),
          (.text "branch", .text "true")]])]),
    (.text "known_mods", .list [.int 0])]

end Plan

end Reroll
