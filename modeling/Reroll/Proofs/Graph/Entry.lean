import Reroll.Proofs.Graph.Fault

/-!
# What a graph keeps of its document

Beside each reader stands a relation between the value it reads and what it gives when nothing is
wrong. The reader gives something without a problem exactly when the two are related. An entry that
is no node, edge or target is a problem, so none of them vanishes: nodes, edges and targets stand in
the order of their entries, one for each (`Graph.read_ok`).
-/

namespace Reroll

open Report

namespace Graph

variable {place : String}

/-- The value has the given plain form, and no number in it is too long to be written. -/
def WrittenAs (v : Value) (text : String) : Prop := v.isWritable = true ∧ text = v.plain

theorem gives_writtenBy {v : Value} {text : String} :
    Gives (writtenBy v.writtenPlain) text ↔ WrittenAs v text := by
  rw [writtenBy, gives_ofExcept, mapError_ok, Value.writtenPlain, WrittenAs]
  cases v.isWritable <;> simp [eq_comm]

/-! ### Points and regions -/

/-- The value is a number, and the whole number nearest to it is the given one. -/
def IsWhole (v : Value) (i : Int) : Prop := ∃ n, v = .num n ∧ n.rounded = .ok i

theorem gives_readWhole {v : Value} {o : Option Int} :
    Gives (readWhole v place) o ↔ ∃ i, IsWhole v i ∧ o = some i := by
  cases v with
  | num n => simp [readWhole, gives_bind, mapError_ok, IsWhole, @eq_comm _ _ o]
  | _ => simp [readWhole, gives_bind, IsWhole]

/-- The point that a value gives, if it gives one. -/
def PointGiven (v : Value) : Option Point → Prop
  | none => v.opened = .null
  | some p => ∃ fields x y, v.opened = .map fields ∧ IsWhole (Value.get fields "x") x ∧
      IsWhole (Value.get fields "y") y ∧ p = ⟨.int x, .int y⟩

theorem gives_readPoint {v : Value} {o : Option Point} :
    Gives (readPoint v place) o ↔ PointGiven v o := by
  unfold readPoint
  cases hv : v.opened with
  | null => cases o <;> simp [PointGiven, hv]
  | map fields =>
    simp only [gives_bind, gives_readWhole]
    cases o with
    | none =>
      refine iff_of_false ?_ (by simp [PointGiven, hv])
      intro hgiven
      obtain ⟨_, ⟨x, -, rfl⟩, _, ⟨y, -, rfl⟩, ho⟩ := hgiven
      cases gives_pure.mp ho
    | some p =>
      constructor
      · intro hgiven
        obtain ⟨_, ⟨x, hx, rfl⟩, _, ⟨y, hy, rfl⟩, ho⟩ := hgiven
        cases gives_pure.mp ho
        exact ⟨fields, x, y, hv, hx, hy, rfl⟩
      · intro hgiven
        obtain ⟨_, x, y, hfields, hx, hy, rfl⟩ := hgiven
        cases hv.symm.trans hfields
        exact ⟨_, ⟨x, hx, rfl⟩, _, ⟨y, hy, rfl⟩, gives_pure.mpr rfl⟩
  | _ => cases o <;> simp [PointGiven, hv]

/-- The region that a value gives, if it gives one. -/
def RegionGiven (v : Value) : Option Region → Prop
  | none => v.isNull = true
  | some r => ∃ fields x y width height, regionFields? v = some fields ∧
      IsWhole (Value.get fields "x") x ∧ IsWhole (Value.get fields "y") y ∧
      IsWhole (Value.get fields "width") width ∧ IsWhole (Value.get fields "height") height ∧
      r = ⟨.int x, .int y, .int width, .int height⟩

theorem regionFields?_null {v : Value} (h : v.isNull = true) : regionFields? v = none := by
  cases v with
  | null => rfl
  | _ => cases h

theorem gives_readRegion {v : Value} {o : Option Region} :
    Gives (readRegion v place) o ↔ RegionGiven v o := by
  unfold readRegion
  cases hnull : v.isNull with
  | true => cases o <;> simp [RegionGiven, hnull, regionFields?_null hnull]
  | false =>
    rw [if_neg Bool.false_ne_true]
    cases hfields : regionFields? v with
    | none => cases o <;> simp [RegionGiven, hnull, hfields]
    | some fields =>
      simp only [gives_bind, gives_readWhole]
      cases o with
      | none =>
        refine iff_of_false ?_ (by simp [RegionGiven, hnull])
        intro hgiven
        obtain ⟨_, ⟨x, -, rfl⟩, _, ⟨y, -, rfl⟩, _, ⟨width, -, rfl⟩, _, ⟨height, -, rfl⟩,
          ho⟩ := hgiven
        cases gives_pure.mp ho
      | some r =>
        constructor
        · intro hgiven
          obtain ⟨_, ⟨x, hx, rfl⟩, _, ⟨y, hy, rfl⟩, _, ⟨width, hwidth, rfl⟩, _,
            ⟨height, hheight, rfl⟩, ho⟩ := hgiven
          cases gives_pure.mp ho
          exact ⟨fields, x, y, width, height, hfields, hx, hy, hwidth, hheight, rfl⟩
        · intro hgiven
          obtain ⟨_, x, y, width, height, hfields', hx, hy, hwidth, hheight, rfl⟩ := hgiven
          cases hfields.symm.trans hfields'
          exact ⟨_, ⟨x, hx, rfl⟩, _, ⟨y, hy, rfl⟩, _, ⟨width, hwidth, rfl⟩, _,
            ⟨height, hheight, rfl⟩, gives_pure.mpr rfl⟩

/-! ### Targets -/

/-- The bound that the first given of the named fields is, if one of them is given. -/
def BoundGiven (fields : List (Value × Value)) (keys : List String) : Option Number → Prop
  | none => Value.firstGiven? fields keys = none
  | some n => ∃ v i, Value.firstGiven? fields keys = some v ∧ v.toInt = .ok i ∧ n = .int i

theorem readBound_eq_ok {fields : List (Value × Value)} {keys : List String}
    {bound : Option Number} :
    Spec.readBound fields keys = .ok bound ↔ BoundGiven fields keys bound := by
  unfold Spec.readBound
  cases hfirst : Value.firstGiven? fields keys with
  | none => cases bound <;> simp [BoundGiven, hfirst]
  | some v =>
    cases hv : v.toInt with
    | error e => cases bound <;> simp [BoundGiven, hfirst, hv]
    | ok i => cases bound <;> simp [BoundGiven, hfirst, hv, eq_comm]

/-- A target with the given parts is made of just these parts. -/
theorem make_eq_ok {pattern : String} {low high : Option Number} {ranged : Bool} {t : Spec} :
    Spec.make pattern low high ranged = .ok t ↔
      t.pattern = pattern ∧ t.low = low ∧ t.high = high ∧ t.ranged = ranged := by
  obtain ⟨p, l, h, r, bounded, ordered⟩ := t
  unfold Spec.make
  constructor
  · intro hmake
    split at hmake
    · split at hmake
      · cases hmake
        exact ⟨rfl, rfl, rfl, rfl⟩
      · cases hmake
    · cases hmake
  · intro hgiven
    obtain ⟨rfl, rfl, rfl, rfl⟩ := hgiven
    rw [dif_pos bounded, dif_pos ordered]

/-- A target is what an entry says: a text, or a mapping with the pattern and its bounds. -/
def TargetSaid (v : Value) (t : Spec) : Prop :=
  match v.opened with
  | .text s => t = .plain (Text.stripped s)
  | .map fields => (∃ text, WrittenAs (givenPattern fields) text ∧ t.pattern = Text.stripped text) ∧
      BoundGiven fields ["minValue", "min_value"] t.low ∧
      BoundGiven fields ["maxValue", "max_value"] t.high ∧ t.ranged = Spec.asksForValue fields
  | _ => False

theorem ofValue_eq_ok {v : Value} {t : Spec} : Spec.ofValue v = .ok t ↔ TargetSaid v t := by
  unfold Spec.ofValue TargetSaid
  cases v.opened with
  | text s => simp [eq_comm]
  | map fields =>
    simp only [bind_eq_ok, readBound_eq_ok, mapError_ok, make_eq_ok, readPattern_eq, WrittenAs]
    cases (givenPattern fields).isWritable with
    | false => simp
    | true => simp [and_left_comm, @eq_comm _ t.pattern]
  | _ =>
    rw [Value.written]
    cases v.isWritable <;> simp

/-- A target is what an entry says and has a pattern. -/
def TargetGiven (v : Value) (t : Spec) : Prop := TargetSaid v t ∧ t.pattern ≠ ""

theorem gives_readTarget {v : Value} {i : Nat} {o : Option Spec} :
    Gives (readTarget place v i) o ↔ ∃ t, TargetGiven v t ∧ some t = o := by
  unfold readTarget TargetGiven
  simp only [← ofValue_eq_ok]
  cases Spec.ofValue v with
  | error e =>
    dsimp only
    cases e.overflow? with
    | none => simp
    | some c => simp
  | ok t =>
    by_cases ht : t.pattern = ""
    · simp [ht]
    · simp [ht]

/-- Targets are what a value lists, one for each entry and in their order. -/
def TargetsGiven (v : Value) (targets : List Spec) : Prop :=
  List.Forall₂ TargetGiven (listed v) targets

theorem gives_readTargets {v : Value} {targets : List Spec} :
    Gives (readTargets v place) targets ↔ TargetsGiven v targets := by
  have hlist : ∀ items : List Value, Gives (collect (readTarget place) 0 items) targets ↔
      List.Forall₂ TargetGiven items targets := by
    intro items
    refine gives_collect (fun v i => ?_) fun v i t => ?_
    · simp [gives_readTarget]
    · simp [gives_readTarget]
  unfold readTargets TargetsGiven listed
  cases v.opened with
  | null => simp [eq_comm]
  | _ => exact hlist _

/-! ### The data of nodes -/

/-- The data of a click: its place, whether the key is held, and a delay that is not negative. -/
def ClickGiven (default : Value) (fields : List (Value × Value)) (data : StepData) : Prop :=
  ∃ delay position,
    IsWhole ((Value.firstGiven? fields ["postDelayMs", "post_delay_ms", "delayMs"]).getD default)
      delay ∧
    PointGiven (Value.get fields "position") position ∧
    data = .click position (Value.firstGiven fields ["useShift", "use_shift"]).truthy
      (.int (max 0 delay))

theorem gives_readClick {default : Value} {fields : List (Value × Value)} {data : StepData} :
    Gives (readClick default fields place) data ↔ ClickGiven default fields data := by
  unfold readClick ClickGiven
  simp only [gives_bind, gives_readWhole, gives_readPoint, gives_pure]
  constructor
  · intro hgiven
    obtain ⟨_, ⟨delay, hdelay, rfl⟩, position, hposition, rfl⟩ := hgiven
    exact ⟨delay, position, hdelay, hposition, rfl⟩
  · intro hgiven
    obtain ⟨delay, position, hdelay, hposition, rfl⟩ := hgiven
    exact ⟨_, ⟨delay, hdelay, rfl⟩, position, hposition, rfl⟩

/-- The single target that older documents give as a text; a blank text counts as absent. -/
def singleTargets (v : Value) : List Spec :=
  match v.textFor "strip" with
  | .ok s => if (Text.stripped s).isEmpty then [] else [.plain (Text.stripped s)]
  | .error _ => []

/-- The targets of a check: one for each entry that it lists, or the single target of older
documents when it lists none. -/
def CheckTargets (fields : List (Value × Value)) (targets : List Spec) : Prop :=
  match listed (Value.firstGiven fields ["modifiers", "modifierList", "modifier_list"]) with
  | [] => targets = singleTargets (Value.get fields "modifierText")
  | entries => List.Forall₂ TargetGiven entries targets

/-- The data of a check. -/
def CheckGiven (fields : List (Value × Value)) (data : StepData) : Prop :=
  ∃ region targets, RegionGiven (Value.get fields "region") region ∧
    ¬(Value.get fields "modifierText").IsNoText ∧ CheckTargets fields targets ∧
    data = .check region targets

theorem checkTargets_iff {fields : List (Value × Value)} {targets : List Spec} {single : String}
    (hsingle : (Value.get fields "modifierText").textFor "strip" = .ok single) :
    CheckTargets fields targets ↔
      ∃ read, TargetsGiven
          (Value.firstGiven fields ["modifiers", "modifierList", "modifier_list"]) read ∧
        targets = if read.isEmpty && !(Text.stripped single).isEmpty then
          [Spec.plain (Text.stripped single)] else read := by
  unfold CheckTargets TargetsGiven
  cases listed (Value.firstGiven fields ["modifiers", "modifierList", "modifier_list"]) with
  | nil =>
    have hlegacy : singleTargets (Value.get fields "modifierText") =
        if (Text.stripped single).isEmpty then [] else [.plain (Text.stripped single)] := by
      rw [singleTargets, hsingle]
    dsimp only
    rw [hlegacy]
    cases (Text.stripped single).isEmpty <;> simp
  | cons entry entries =>
    have hfilled : ∀ read : List Spec, List.Forall₂ TargetGiven (entry :: entries) read →
        read.isEmpty = false := by
      rintro _ (_ | _)
      rfl
    constructor
    · intro h
      exact ⟨targets, h, by simp [hfilled targets h]⟩
    · intro hgiven
      obtain ⟨read, hread, rfl⟩ := hgiven
      simpa [hfilled read hread] using hread

theorem gives_readCheck {fields : List (Value × Value)} {data : StepData} :
    Gives (readCheck fields place) data ↔ CheckGiven fields data := by
  unfold readCheck CheckGiven
  simp only [gives_bind, gives_readTargets, gives_ofExcept, mapError_ok, gives_readRegion,
    gives_pure]
  constructor
  · intro hgiven
    obtain ⟨read, hread, single, hsingle, region, hregion, rfl⟩ := hgiven
    have htext : ¬(Value.get fields "modifierText").IsNoText := by
      rw [← Value.textFor_fails "strip", hsingle]
      rintro ⟨e, ⟨⟩⟩
    exact ⟨region, _, hregion, htext, (checkTargets_iff hsingle).mpr ⟨read, hread, rfl⟩, rfl⟩
  · intro hgiven
    obtain ⟨region, targets, hregion, htext, htargets, rfl⟩ := hgiven
    cases hsingle : (Value.get fields "modifierText").textFor "strip" with
    | error e => exact absurd ((Value.textFor_fails "strip" _).mp ⟨e, hsingle⟩) htext
    | ok single =>
      obtain ⟨read, hread, rfl⟩ := (checkTargets_iff hsingle).mp htargets
      exact ⟨read, hread, single, rfl, region, hregion, rfl⟩

/-- The data of a delay, which is not negative. -/
def DelayGiven (fields : List (Value × Value)) (data : StepData) : Prop :=
  ∃ duration,
    IsWhole ((Value.firstGiven? fields ["durationMs", "duration_ms", "delayMs"]).getD (.int 0))
      duration ∧
    data = .delay (.int (max 0 duration))

theorem gives_readDelay {fields : List (Value × Value)} {data : StepData} :
    Gives (readDelay fields place) data ↔ DelayGiven fields data := by
  unfold readDelay DelayGiven
  simp only [gives_bind, gives_readWhole, gives_pure]
  constructor
  · intro hgiven
    obtain ⟨_, ⟨duration, hduration, rfl⟩, rfl⟩ := hgiven
    exact ⟨duration, hduration, rfl⟩
  · intro hgiven
    obtain ⟨duration, hduration, rfl⟩ := hgiven
    exact ⟨_, ⟨duration, hduration, rfl⟩, rfl⟩

/-- The data of a node of the given kind. -/
def DataGiven (s : Settings) (kind : NodeKind) (fields : List (Value × Value))
    (data : StepData) : Prop :=
  match kind with
  | .leftClick => ClickGiven s.leftClickPostDelay fields data
  | .rightClick => ClickGiven s.rightClickPostDelay fields data
  | .check => CheckGiven fields data
  | .delay => DelayGiven fields data
  | _ => data = .empty

theorem gives_readData {s : Settings} {kind : NodeKind} {fields : List (Value × Value)}
    {data : StepData} :
    Gives (readData s kind fields place) data ↔ DataGiven s kind fields data := by
  unfold readData DataGiven
  cases kind with
  | leftClick => exact gives_readClick
  | rightClick => exact gives_readClick
  | check => exact gives_readCheck
  | delay => exact gives_readDelay
  | _ => exact gives_pure.trans eq_comm

/-! ### Nodes and edges -/

/-- The fields that a value gives; what counts as absent gives none. -/
def FieldsGiven (v : Value) (fields : List (Value × Value)) : Prop :=
  if v.truthy then v.opened = .map fields else fields = []

theorem gives_readFields {v : Value} {fields : List (Value × Value)} :
    Gives (readFields v place) fields ↔ FieldsGiven v fields := by
  unfold readFields FieldsGiven
  cases v.truthy with
  | false => simp [eq_comm]
  | true => cases v.opened <;> simp

/-- A node is what an entry says: a mapping with an id and a kind. -/
def NodeGiven (s : Settings) (raw : Value) (n : Node) : Prop :=
  ∃ fields data kind, raw.opened = .map fields ∧ Value.get fields "id" = .text n.id ∧ n.id ≠ "" ∧
    FieldsGiven (Value.get fields "data") data ∧ (givenKind fields data).truthy = true ∧
    WrittenAs (givenKind fields data) kind ∧ n.kind = readKind kind ∧
    DataGiven s n.kind data n.data ∧ WrittenAs (givenLabel fields data) n.label

theorem gives_readNamedNode {s : Settings} {id : String} {fields : List (Value × Value)}
    {o : Option Node} :
    Gives (readNamedNode s id fields place) o ↔
      ∃ data kind step label, FieldsGiven (Value.get fields "data") data ∧
        (givenKind fields data).truthy = true ∧ WrittenAs (givenKind fields data) kind ∧
        DataGiven s (readKind kind) data step ∧ WrittenAs (givenLabel fields data) label ∧
        some ⟨id, readKind kind, step, label⟩ = o := by
  unfold readNamedNode
  refine gives_bind.trans (exists_congr fun data => ?_)
  dsimp only
  rw [gives_readFields, ← givenKind, ← givenLabel]
  cases (givenKind fields data).truthy with
  | false => simp
  | true =>
    simp only [if_true, gives_bind, gives_writtenBy, gives_readData, gives_pure, true_and]
    constructor
    · intro hgiven
      obtain ⟨hdata, kind, hkind, step, hstep, label, hlabel, ho⟩ := hgiven
      exact ⟨kind, step, label, hdata, hkind, hstep, hlabel, ho⟩
    · intro hgiven
      obtain ⟨kind, step, label, hdata, hkind, hstep, hlabel, ho⟩ := hgiven
      exact ⟨hdata, kind, hkind, step, hstep, label, hlabel, ho⟩

theorem gives_readNode {s : Settings} {raw : Value} {i : Nat} {o : Option Node} :
    Gives (readNode s raw i) o ↔ ∃ n, NodeGiven s raw n ∧ some n = o := by
  unfold readNode NodeGiven
  dsimp only
  cases hraw : raw.opened with
  | map fields =>
    dsimp only
    cases hid : Value.get fields "id" with
    | text id =>
      by_cases hempty : id = ""
      · subst hempty
        refine iff_of_false gives_noted ?_
        intro hgiven
        obtain ⟨n, ⟨fields', -, -, hfields, hid', hne, -⟩, -⟩ := hgiven
        cases hfields
        exact hne (Value.text.inj (hid'.symm.trans hid))
      · simp only [String.isEmpty_iff, hempty, if_false, gives_readNamedNode]
        constructor
        · intro hgiven
          obtain ⟨data, kind, step, label, hdata, hgiven, hkind, hstep, hlabel, rfl⟩ := hgiven
          exact ⟨⟨id, readKind kind, step, label⟩, ⟨fields, data, kind, rfl, hid, hempty, hdata,
            hgiven, hkind, rfl, hstep, hlabel⟩, rfl⟩
        · intro hgiven
          obtain ⟨⟨id', kind', step, label⟩, ⟨fields', data, kind, hfields, hid', -, hdata, hgiven,
            hkind, hkind', hstep, hlabel⟩, rfl⟩ := hgiven
          cases hfields
          cases hid.symm.trans hid'
          cases hkind'
          exact ⟨data, kind, step, label, hdata, hgiven, hkind, hstep, hlabel, rfl⟩
    | _ => simp [hid]
  | _ => simp

/-- The label that a value gives to an edge: an outcome of a check by its truth value or its name,
none if it counts as absent. -/
def BranchGiven (v : Value) (o : Option String) : Prop :=
  match v with
  | .bool b => o = some (if b then onFound else onMissed)
  | v => if v.truthy then ∃ name, WrittenAs v name ∧ o = some name else o = none

theorem gives_readBranch {v : Value} {o : Option String} :
    Gives (readBranch v) o ↔ BranchGiven v o := by
  have hwritten : ∀ v : Value, Gives (if v.truthy then do
        let name ← writtenBy v.writtenPlain
        return some name
      else return none) o ↔
      if v.truthy then ∃ name, WrittenAs v name ∧ o = some name else o = none := by
    intro v
    cases v.truthy with
    | false => simp [eq_comm]
    | true => simp [gives_bind, gives_writtenBy, eq_comm]
  unfold readBranch BranchGiven
  cases v with
  | bool b => simp [eq_comm]
  | _ => exact hwritten _

/-- An edge is what an entry says: a mapping with a source and a target. -/
def EdgeGiven (raw : Value) (e : Edge) : Prop :=
  ∃ fields, raw.opened = .map fields ∧ (Value.get fields "source").truthy = true ∧
    (Value.get fields "target").truthy = true ∧ WrittenAs (Value.get fields "source") e.source ∧
    WrittenAs (Value.get fields "target") e.target ∧
    BranchGiven (Value.firstGiven fields ["branch", "sourceHandle", "source_handle"]) e.branch

theorem gives_readEdge {raw : Value} {i : Nat} {o : Option Edge} :
    Gives (readEdge raw i) o ↔ ∃ e, EdgeGiven raw e ∧ some e = o := by
  unfold readEdge EdgeGiven
  dsimp only
  cases hraw : raw.opened with
  | map fields =>
    simp only [Value.map.injEq, exists_eq_left']
    cases (Value.get fields "source").truthy with
    | false => simp
    | true =>
      cases (Value.get fields "target").truthy with
      | false => simp
      | true =>
        simp only [Bool.and_self, if_true, gives_bind, gives_writtenBy, gives_readBranch,
          gives_pure, true_and]
        constructor
        · intro hgiven
          obtain ⟨source, hsource, target, htarget, branch, hbranch, rfl⟩ := hgiven
          exact ⟨⟨source, target, branch⟩, ⟨hsource, htarget, hbranch⟩, rfl⟩
        · intro hgiven
          obtain ⟨e, ⟨hsource, htarget, hbranch⟩, rfl⟩ := hgiven
          exact ⟨e.source, hsource, e.target, htarget, e.branch, hbranch, rfl⟩
  | _ => simp

/-! ### Graphs -/

/-- A graph is what a document says: it has a node for each entry of the list of nodes and an edge
for each entry of the list of edges, both in order. -/
def GraphGiven (s : Settings) (doc : Value) (g : Graph) : Prop :=
  ∃ fields nodes edges, doc.opened = .map fields ∧
    (Value.get fields "nodes").opened = .list nodes ∧ nodes ≠ [] ∧
    edgesOf? (Value.get fields "edges") = some edges ∧
    List.Forall₂ (NodeGiven s) nodes g.nodes ∧ List.Forall₂ EdgeGiven edges g.edges

/-- A graph passes when it was read without a problem and has none itself. -/
theorem verdict_eq_ok {c : Checked Problem Graph} {g : Graph} :
    read.verdict ⟨c.problems.map .reading ++ c.value.problems.map .structural, c.value⟩ = .ok g ↔
      c = ⟨[], g⟩ ∧ g.problems = [] := by
  obtain ⟨problems, value⟩ := c
  unfold read.verdict
  constructor
  · intro h
    split at h
    · next hnone =>
      cases h
      simpa using hnone
    · cases h
  · rintro ⟨hc, hg⟩
    cases hc
    simp [hg]

theorem readParts_verdict {s : Settings} {nodes edges : List Value} {g : Graph} :
    (readParts s nodes edges).map read.verdict = .ok (.ok g) ↔
      List.Forall₂ (NodeGiven s) nodes g.nodes ∧ List.Forall₂ EdgeGiven edges g.edges ∧
        g.problems = [] := by
  have hparts : Gives (do
      let nodes ← collect (readNode s) 0 nodes
      let edges ← collect readEdge 0 edges
      return { nodes, edges } : Parsed Graph) g ↔
      List.Forall₂ (NodeGiven s) nodes g.nodes ∧ List.Forall₂ EdgeGiven edges g.edges := by
    have hnodes : ∀ ns, Gives (collect (readNode s) 0 nodes) ns ↔
        List.Forall₂ (NodeGiven s) nodes ns := fun ns =>
      gives_collect (fun raw i => by simp [gives_readNode]) fun raw i n => by simp [gives_readNode]
    have hedges : ∀ es, Gives (collect readEdge 0 edges) es ↔ List.Forall₂ EdgeGiven edges es :=
      fun es =>
      gives_collect (fun raw i => by simp [gives_readEdge]) fun raw i e => by simp [gives_readEdge]
    simp only [gives_bind, hnodes, hedges, gives_pure]
    constructor
    · intro hgiven
      obtain ⟨ns, hns, es, hes, rfl⟩ := hgiven
      exact ⟨hns, hes⟩
    · rintro ⟨hns, hes⟩
      exact ⟨g.nodes, hns, g.edges, hes, rfl⟩
  rw [← and_assoc, ← hparts]
  unfold readParts
  dsimp only
  split
  · next e he => simp [Gives, he, Except.map]
  · next c hc =>
    rw [hc, gives_ok, ← verdict_eq_ok]
    simp [Except.map]

/-- A document is read as a graph exactly when the graph is what it says and has no problem. -/
theorem read_ok {s : Settings} {doc : Value} {g : Graph} :
    read s doc = .ok (.ok g) ↔ GraphGiven s doc g ∧ g.problems = [] := by
  unfold read GraphGiven edgesOf?
  cases doc.opened with
  | map fields =>
    simp only [Value.map.injEq, exists_and_left, exists_eq_left']
    cases (Value.get fields "nodes").opened with
    | list nodes =>
      cases nodes with
      | nil => simp
      | cons n nodes =>
        dsimp only
        cases (Value.get fields "edges").truthy with
        | false => simp [readParts_verdict, and_assoc]
        | true =>
          cases (Value.get fields "edges").opened with
          | list edges => simp [readParts_verdict, and_assoc]
          | _ => simp
    | _ => simp
  | _ => simp

end Graph

end Reroll
