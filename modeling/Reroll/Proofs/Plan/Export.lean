import Reroll.Plan.Reader
import Reroll.Proofs.Document.Report
import Reroll.Proofs.Document.Spelling

/-!
# Two layouts of one plan

The node editor exports a plan under other names than configuration files use, and keeps the kind of
a node among its data. `Editor.plan` puts a document of a configuration file into that layout, role
by role. Each reader gives the same for both layouts of what it reads: targets first, then data,
nodes, edges, graphs and plans, the problems included.
-/

namespace Reroll

theorem Value.tie_truthy {number : Nat} {whole v : Value} (h : v.truthy = whole.truthy) :
    (Value.tie number whole v).truthy = v.truthy := by
  cases v with
  | again n =>
    unfold Value.tie
    split
    · exact h.symm
    · rfl
  | knot n u =>
    unfold Value.tie
    split
    · rfl
    · exact tie_truthy (v := u) h
  | list items => cases items <;> rfl
  | map fields => cases fields <;> rfl
  | _ => rfl

/-- Whether a collection is empty does not depend on its containing itself. -/
theorem Value.opened_truthy (v : Value) : v.opened.truthy = v.truthy := by
  cases v with
  | knot number u => exact tie_truthy (v := u) rfl
  | _ => rfl

namespace Editor

open Value

/-! ### The layout of the editor -/

def targetNames : List (String × String) :=
  [("pattern", "text"), ("min_value", "minValue"), ("max_value", "maxValue"),
    ("use_range", "useRange")]

def dataNames : List (String × String) :=
  [("post_delay_ms", "postDelayMs"), ("use_shift", "useShift"), ("duration_ms", "durationMs"),
    ("modifiers", "modifierList")]

def edgeNames : List (String × String) := [("branch", "sourceHandle")]

def planNames : List (String × String) :=
  [("flow_graph", "flowGraph"), ("max_attempts", "maxAttempts"),
    ("start_delay_ms", "startDelayMs"), ("modifiers", "modifierList"), ("known_mods", "knownMods")]

/-- A target; what is no mapping stays as it is. -/
def target (v : Value) : Value :=
  match v.opened with
  | .map fields => .map (respell targetNames (fun _ v => v) fields)
  | _ => v

/-- A list of targets, or a single one. -/
def targets (v : Value) : Value :=
  match v.opened with
  | .list items => .list (items.map target)
  | _ => target v

/-- The fields of a mapping, none of what is no mapping. -/
def fieldsOf (v : Value) : List (Value × Value) :=
  match v.opened with
  | .map fields => fields
  | _ => []

/-- How the value of a field of the data changes. -/
def dataChange (key : String) : Value → Value := if key = "modifiers" then targets else id

/-- The fields of the data of a node, which come to hold its kind. -/
def dataFields (kind : Value) (fields : List (Value × Value)) : List (Value × Value) :=
  (.text "type", kind) :: respell dataNames dataChange fields

def data (kind v : Value) : Value := .map (dataFields kind (fieldsOf v))

/-- The keys of a node that the editor uses for something else. -/
def isMoved : Value → Bool
  | .text key => key = "kind" || key = "type" || key = "data"
  | _ => false

/-- The fields of a node; its own type is one of the editor's. -/
def nodeFields (type : Value) (fields : List (Value × Value)) : List (Value × Value) :=
  (.text "type", type) :: (.text "data", data (get fields "kind") (get fields "data")) ::
    fields.filter fun f => !isMoved f.1

def node (type v : Value) : Value :=
  match v.opened with
  | .map fields => .map (nodeFields type fields)
  | _ => v

def edge (v : Value) : Value :=
  match v.opened with
  | .map fields => .map (respell edgeNames (fun _ v => v) fields)
  | _ => v

/-- The items of a list; what is no list stays as it is. -/
def items (f : Value → Value) (v : Value) : Value :=
  match v.opened with
  | .list vs => .list (vs.map f)
  | _ => v

/-- The parts of a graph by their names. -/
def part (type : Value) (key : String) : Value → Value :=
  if key = "nodes" then items (node type) else if key = "edges" then items edge else id

def graph (type v : Value) : Value :=
  match v.opened with
  | .map fields => .map (respell [] (part type) fields)
  | _ => v

/-- How the value of a field of a plan changes. -/
def planChange (type : Value) (key : String) : Value → Value :=
  if key = "flow_graph" then graph type else if key = "modifiers" then targets else part type key

/-- A plan as the editor exports it. -/
def plan (type v : Value) : Value :=
  match v.opened with
  | .map fields => .map (respell planNames (planChange type) fields)
  | _ => v

/-! ### Documents of configuration files -/

/-- A target without a name of the editor's. -/
def TargetPlain (v : Value) : Prop := ∀ fields, v.opened = .map fields → Lacks targetNames fields

def TargetsPlain (v : Value) : Prop :=
  match v.opened with
  | .list items => ∀ v ∈ items, TargetPlain v
  | _ => TargetPlain v

/-- Data of a node, if there are any: a mapping that neither says what kind the node is of nor has a
name of the editor's. -/
def DataPlain (v : Value) : Prop :=
  v = .null ∨ ∃ fields, v.opened = .map fields ∧ lookup "type" fields = none ∧
    Lacks dataNames fields ∧ TargetsPlain (get fields "modifiers")

/-- A node that is a mapping has a kind, and its data are a mapping or missing. -/
def NodePlain (v : Value) : Prop :=
  ∀ fields, v.opened = .map fields →
    (get fields "kind").truthy = true ∧ DataPlain (get fields "data")

def EdgePlain (v : Value) : Prop := ∀ fields, v.opened = .map fields → Lacks edgeNames fields

/-- The nodes and edges among these fields are as configuration files write them. -/
structure PartsPlain (fields : List (Value × Value)) : Prop where
  nodes : ∀ vs, (get fields "nodes").opened = .list vs → ∀ v ∈ vs, NodePlain v
  edges : ∀ vs, (get fields "edges").opened = .list vs → ∀ v ∈ vs, EdgePlain v

/-- A document that only uses the names of configuration files. -/
structure PlanPlain (fields : List (Value × Value)) : Prop where
  names : Lacks planNames fields
  graph : ∀ inner, (get fields "flow_graph").opened = .map inner → PartsPlain inner
  parts : get fields "flow_graph" = .null → PartsPlain fields
  targets : TargetsPlain (get fields "modifiers")

/-! ### Targets -/

theorem target_null (v : Value) : target v = .null ↔ v = .null := by
  unfold target
  split
  · next h =>
    refine iff_of_false nofun ?_
    rintro rfl
    cases h
  · rfl

theorem targets_null (v : Value) : targets v = .null ↔ v = .null := by
  unfold targets
  split
  · next h =>
    refine iff_of_false nofun ?_
    rintro rfl
    cases h
  · exact target_null v

section Target

variable {fields : List (Value × Value)} (lacks : Lacks targetNames fields)

theorem targetNames_proper : Proper targetNames := by decide

include lacks

theorem target_new {old new : String} (h : (old, new) ∈ targetNames) :
    get (respell targetNames (fun _ v => v) fields) new = get fields old :=
  get_new (fun _ => rfl) targetNames_proper lacks h

theorem target_bound {old new : String} (h : (old, new) ∈ targetNames) :
    firstGiven? (respell targetNames (fun _ v => v) fields) [new, old] =
      firstGiven? fields [new, old] := by
  have hold : Value.get (respell targetNames (fun _ v => v) fields) old = .null :=
    get_old targetNames_proper h
  have hnew := target_new lacks h
  have hgiven := (firstGiven?_exchanged id [] (by rw [hnew]) (by rw [hnew]) hold
    (get_lacked lacks h) rfl).1
  rwa [Option.map_id, id, id] at hgiven

theorem readPattern_respell :
    Spec.readPattern (respell targetNames (fun _ v => v) fields) = Spec.readPattern fields := by
  have hmem : ("pattern", "text") ∈ targetNames := by decide
  have hold : get (respell targetNames (fun _ v => v) fields) "pattern" = .null :=
    get_old targetNames_proper hmem
  have hsame : ∀ v : Value, (orElse .null v).orElse (.text "") = (orElse v .null).orElse (.text "") := by
    intro v
    unfold orElse
    cases hv : v.truthy with
    | true => simp [truthy, hv]
    | false => simp [truthy, hv]
  unfold Spec.readPattern
  rw [hold, target_new lacks hmem, get_lacked lacks hmem, hsame]

theorem asksForValue_respell :
    Spec.asksForValue (respell targetNames (fun _ v => v) fields) = Spec.asksForValue fields := by
  have hmem : ("use_range", "useRange") ∈ targetNames := by decide
  have hold : get (respell targetNames (fun _ v => v) fields) "use_range" = .null :=
    get_old targetNames_proper hmem
  have hother : get (respell targetNames (fun _ v => v) fields) "hasRange" = get fields "hasRange" :=
    get_other (fun _ => rfl) (by decide) (by decide)
  unfold Spec.asksForValue
  rw [target_bound lacks (by decide), target_bound lacks (by decide)]
  simp only [List.any_cons, List.any_nil, hold, target_new lacks hmem, hother, get_lacked lacks hmem,
    truthy, Bool.false_or, Bool.or_false]

end Target

theorem ofValue_target {v : Value} (plain : TargetPlain v) :
    Spec.ofValue (target v) = Spec.ofValue v := by
  unfold target
  split
  · next fields h =>
    have hlacks := plain fields h
    have hopened : (Value.map (respell targetNames (fun _ v => v) fields)).opened =
        .map (respell targetNames (fun _ v => v) fields) := rfl
    unfold Spec.ofValue
    rw [hopened, h]
    dsimp only
    unfold Spec.readBound
    rw [readPattern_respell hlacks, asksForValue_respell hlacks, target_bound hlacks (by decide),
      target_bound hlacks (by decide)]
  · rfl

theorem readTarget_target {v : Value} (plain : TargetPlain v) (place : String) (i : Nat) :
    Graph.readTarget place (target v) i = Graph.readTarget place v i := by
  unfold Graph.readTarget
  rw [ofValue_target plain]

theorem readTargets_targets {v : Value} (plain : TargetsPlain v) (place : String) :
    Graph.readTargets (targets v) place = Graph.readTargets v place := by
  have hitems : ∀ items : List Value, (∀ v ∈ items, TargetPlain v) →
      Report.collect (Graph.readTarget place) 0 (items.map target) =
        Report.collect (Graph.readTarget place) 0 items :=
    fun items h => Report.collect_map (fun v hv i => readTarget_target (h v hv) place i) 0
  unfold TargetsPlain at plain
  cases h : v.opened with
  | list items =>
    have htargets : targets v = .list (items.map target) := by simp only [targets, h]
    rw [h] at plain
    unfold Graph.readTargets
    rw [htargets, h]
    exact hitems items plain
  | map fields =>
    have htargets : targets v = .map (respell targetNames (fun _ v => v) fields) := by
      simp only [targets, target, h]
    have htarget : target v = targets v := by simp only [targets, h]
    rw [h] at plain
    have hsingle := hitems [v] fun w hw => by rwa [List.mem_singleton.mp hw]
    rw [List.map_singleton, htarget, htargets] at hsingle
    unfold Graph.readTargets
    rw [htargets, h]
    exact hsingle
  | _ =>
    have hsame : targets v = v := by simp only [targets, target, h]
    rw [hsame]

/-! ### Data of nodes -/

theorem dataChange_null (key : String) : dataChange key .null = .null := by
  unfold dataChange
  split
  · exact (targets_null _).mpr rfl
  · rfl

theorem dataNames_proper : Proper dataNames := by decide

section Data

variable {kind : Value} {fields : List (Value × Value)} (lacks : Lacks dataNames fields)

theorem dataFields_get {key : String} (h : "type" ≠ key) :
    get (dataFields kind fields) key = get (respell dataNames dataChange fields) key := by
  unfold Value.get dataFields
  rw [lookup_cons_text, if_neg h]

theorem data_other {key : String} (htype : "type" ≠ key) (hold : key ∉ dataNames.map Prod.fst)
    (hnew : key ∉ dataNames.map Prod.snd) : get (dataFields kind fields) key = get fields key := by
  have hkey : key ≠ "modifiers" := by
    rintro rfl
    exact hold (by decide)
  have hid : dataChange key = id := if_neg hkey
  rw [dataFields_get htype, Value.get_other dataChange_null hold hnew, hid]
  rfl

theorem data_old {old new : String} (htype : "type" ≠ old) (h : (old, new) ∈ dataNames) :
    get (dataFields kind fields) old = .null := by
  rw [dataFields_get htype, get_old dataNames_proper h]

include lacks

theorem data_new {old new : String} (htype : "type" ≠ new) (h : (old, new) ∈ dataNames) :
    get (dataFields kind fields) new = dataChange old (get fields old) := by
  rw [dataFields_get htype, get_new dataChange_null dataNames_proper lacks h]

/-- A field under its new name is found like one under its old name. -/
theorem data_given {old new : String} {rest : List String} (htype : "type" ≠ new ∧ "type" ≠ old)
    (hold : old ≠ "modifiers") (h : (old, new) ∈ dataNames)
    (hrest : firstGiven? (dataFields kind fields) rest = firstGiven? fields rest) :
    firstGiven? (dataFields kind fields) (new :: old :: rest) =
      firstGiven? fields (new :: old :: rest) := by
  have hid : dataChange old = id := if_neg hold
  have hnew : Value.get (dataFields kind fields) new = Value.get fields old := by
    rw [data_new lacks htype.1 h, hid]
    rfl
  have hgiven := (firstGiven?_exchanged id rest (by rw [hnew]) (by rw [hnew])
    (data_old htype.2 h) (get_lacked lacks h) (by rw [hrest])).1
  rwa [Option.map_id, id, id] at hgiven

theorem readClick_data (default : Value) (place : String) :
    Graph.readClick default (dataFields kind fields) place =
      Graph.readClick default fields place := by
  have hdelay : firstGiven? (dataFields kind fields) ["postDelayMs", "post_delay_ms", "delayMs"] =
      firstGiven? fields ["postDelayMs", "post_delay_ms", "delayMs"] := by
    refine data_given lacks (by decide) (by decide) (by decide) ?_
    exact firstGiven?_congr (data_other (by decide) (by decide) (by decide)) rfl
  have hshift : firstGiven? (dataFields kind fields) ["useShift", "use_shift"] =
      firstGiven? fields ["useShift", "use_shift"] :=
    data_given lacks (by decide) (by decide) (by decide) rfl
  have hposition : get (dataFields kind fields) "position" = get fields "position" :=
    data_other (by decide) (by decide) (by decide)
  unfold Graph.readClick firstGiven
  rw [hdelay, hshift, hposition]

theorem readDelay_data (place : String) :
    Graph.readDelay (dataFields kind fields) place = Graph.readDelay fields place := by
  have hduration : firstGiven? (dataFields kind fields) ["durationMs", "duration_ms", "delayMs"] =
      firstGiven? fields ["durationMs", "duration_ms", "delayMs"] := by
    refine data_given lacks (by decide) (by decide) (by decide) ?_
    exact firstGiven?_congr (data_other (by decide) (by decide) (by decide)) rfl
  unfold Graph.readDelay
  rw [hduration]

theorem readCheck_data (plain : TargetsPlain (get fields "modifiers")) (place : String) :
    Graph.readCheck (dataFields kind fields) place = Graph.readCheck fields place := by
  have hmem : ("modifiers", "modifierList") ∈ dataNames := by decide
  have hnew : get (dataFields kind fields) "modifierList" = targets (get fields "modifiers") := by
    rw [data_new lacks (by decide) hmem, dataChange, if_pos rfl]
  have hrest : firstGiven? (dataFields kind fields) ["modifier_list"] =
      firstGiven? fields ["modifier_list"] :=
    firstGiven?_congr (data_other (by decide) (by decide) (by decide)) rfl
  have htargets : Graph.readTargets (firstGiven (dataFields kind fields)
        ["modifiers", "modifierList", "modifier_list"]) (place ++ ".modifiers") =
      Graph.readTargets (firstGiven fields ["modifiers", "modifierList", "modifier_list"])
        (place ++ ".modifiers") := by
    have hread := readTargets_targets plain (place ++ ".modifiers")
    have hgiven := (firstGiven?_exchanged (fun v => Graph.readTargets v (place ++ ".modifiers"))
      ["modifier_list"] (by rw [hnew, targets_null]) (by rw [hnew, hread])
      (data_old (by decide) hmem) (get_lacked lacks hmem) (by rw [hrest])).2
    exact firstGiven_read (fun v => Graph.readTargets v (place ++ ".modifiers")) hgiven
  have htext : get (dataFields kind fields) "modifierText" = get fields "modifierText" :=
    data_other (by decide) (by decide) (by decide)
  have hregion : get (dataFields kind fields) "region" = get fields "region" :=
    data_other (by decide) (by decide) (by decide)
  unfold Graph.readCheck
  rw [htargets, htext, hregion]

end Data

theorem readData_data {fields : List (Value × Value)} {kind : Value} (lacks : Lacks dataNames fields)
    (plain : TargetsPlain (get fields "modifiers")) (s : Settings) (k : NodeKind) (place : String) :
    Graph.readData s k (dataFields kind fields) place = Graph.readData s k fields place := by
  unfold Graph.readData
  split
  · exact readClick_data lacks _ _
  · exact readClick_data lacks _ _
  · exact readCheck_data lacks plain _
  · exact readDelay_data lacks _
  · rfl

theorem readFields_plain {v : Value} {fields : List (Value × Value)} (h : v.opened = .map fields)
    (place : String) : Graph.readFields v place = Report.good fields := by
  unfold Graph.readFields
  rw [← opened_truthy, h]
  cases fields with
  | nil => rfl
  | cons f rest => rfl

theorem DataPlain.readFields {v : Value} (plain : DataPlain v) (place : String) :
    Graph.readFields v place = Report.good (fieldsOf v) := by
  rcases plain with rfl | ⟨fields, h, -⟩
  · rfl
  · rw [readFields_plain h, fieldsOf, h]

theorem DataPlain.fields {v : Value} (plain : DataPlain v) :
    lookup "type" (fieldsOf v) = none ∧ Lacks dataNames (fieldsOf v) ∧
      TargetsPlain (get (fieldsOf v) "modifiers") := by
  rcases plain with rfl | ⟨fields, h, hplain⟩
  · refine ⟨rfl, fun _ _ => rfl, ?_⟩
    intro fields h
    cases h
  · rwa [fieldsOf, h]

/-! ### Nodes -/

section Node

variable {fields : List (Value × Value)} {type : Value}

theorem nodeFields_other {key : String} (h : isMoved (.text key) = false) :
    get (nodeFields type fields) key = get fields key := by
  have hkept : ∀ v : Value, (!isMoved (Value.text key, v).1) = true := by
    intro v
    rw [h]
    rfl
  have htype : "type" ≠ key := by
    rintro rfl
    cases h
  have hdata : "data" ≠ key := by
    rintro rfl
    cases h
  unfold Value.get nodeFields
  rw [lookup_cons_text, if_neg htype, lookup_cons_text, if_neg hdata, lookup_filter hkept]

theorem orElse_of_truthy {a b : Value} (h : a.truthy = true) : a.orElse b = a := if_pos h

theorem readNamedNode_nodeFields (given : (get fields "kind").truthy = true)
    (plain : DataPlain (get fields "data")) (s : Settings) (id place : String) :
    Graph.readNamedNode s id (nodeFields type fields) place =
      Graph.readNamedNode s id fields place := by
  obtain ⟨htype, hlacks, htargets⟩ := plain.fields
  have hdata : Graph.readFields (get (nodeFields type fields) "data") place =
      Report.good (dataFields (get fields "kind") (fieldsOf (get fields "data"))) :=
    readFields_plain rfl place
  have hraw : get (nodeFields type fields) "label" = get fields "label" := nodeFields_other rfl
  unfold Graph.readNamedNode
  rw [hdata, plain.readFields, Report.good_bind, Report.good_bind, hraw]
  generalize fieldsOf (get fields "data") = own at *
  generalize get fields "kind" = kind at *
  have hmoved : get (dataFields kind own) "type" = kind := rfl
  have hcustom : get (dataFields kind own) "customName" = get own "customName" :=
    data_other (by decide) (by decide) (by decide)
  have hlabel : get (dataFields kind own) "label" = get own "label" :=
    data_other (by decide) (by decide) (by decide)
  have hnull : orElse .null kind = kind := rfl
  rw [hmoved, get_none htype, hnull, orElse_of_truthy given, orElse_of_truthy given,
    orElse_of_truthy given, hcustom, hlabel]
  simp only [readData_data hlacks htargets]

theorem readNode_node {v : Value} (plain : NodePlain v) (s : Settings) (i : Nat) :
    Graph.readNode s (node type v) i = Graph.readNode s v i := by
  unfold node
  split
  · next fields h =>
    obtain ⟨hkind, hdata⟩ := plain fields h
    have hid : get (nodeFields type fields) "id" = get fields "id" := nodeFields_other rfl
    have hopened : (Value.map (nodeFields type fields)).opened = .map (nodeFields type fields) := rfl
    unfold Graph.readNode
    rw [hopened, h]
    dsimp only
    rw [hid]
    simp only [readNamedNode_nodeFields hkind hdata]
  · rfl

end Node

/-! ### Edges and graphs -/

theorem edgeNames_proper : Proper edgeNames := by decide

theorem readEdge_edge {v : Value} (plain : EdgePlain v) (i : Nat) :
    Graph.readEdge (edge v) i = Graph.readEdge v i := by
  unfold edge
  split
  · next fields h =>
    have hlacks := plain fields h
    have hmem : ("branch", "sourceHandle") ∈ edgeNames := by decide
    have hnew : get (respell edgeNames (fun _ v => v) fields) "sourceHandle" = get fields "branch" :=
      get_new (fun _ => rfl) edgeNames_proper hlacks hmem
    have hother : ∀ key, key ∉ edgeNames.map Prod.fst → key ∉ edgeNames.map Prod.snd →
        get (respell edgeNames (fun _ v => v) fields) key = get fields key :=
      fun key hold hnew => get_other (fun _ => rfl) hold hnew
    have hbranch : firstGiven (respell edgeNames (fun _ v => v) fields)
          ["branch", "sourceHandle", "source_handle"] =
        firstGiven fields ["branch", "sourceHandle", "source_handle"] := by
      have hrest : firstGiven? (respell edgeNames (fun _ v => v) fields) ["source_handle"] =
          firstGiven? fields ["source_handle"] :=
        firstGiven?_congr (hother _ (by decide) (by decide)) rfl
      have hgiven := (firstGiven?_exchanged id ["source_handle"] (by rw [hnew]) (by rw [hnew])
        (get_old edgeNames_proper hmem) (get_lacked hlacks hmem) (by rw [hrest])).2
      exact firstGiven_read id hgiven
    have hopened : (Value.map (respell edgeNames (fun _ v => v) fields)).opened =
        .map (respell edgeNames (fun _ v => v) fields) := rfl
    unfold Graph.readEdge
    rw [hopened, h]
    dsimp only
    rw [hbranch, hother "source" (by decide) (by decide), hother "target" (by decide) (by decide)]
  · rfl

theorem items_opened (f : Value → Value) (v : Value) :
    (∃ vs, v.opened = .list vs ∧ items f v = .list (vs.map f)) ∨
      (∀ vs, v.opened ≠ .list vs) ∧ items f v = v := by
  unfold items
  cases h : v.opened with
  | list vs => exact .inl ⟨vs, rfl, rfl⟩
  | _ => exact .inr ⟨nofun, rfl⟩

theorem items_truthy (f : Value → Value) (v : Value) : (items f v).truthy = v.truthy := by
  rcases items_opened f v with ⟨vs, hvs, hitems⟩ | ⟨-, hitems⟩
  · rw [hitems, ← opened_truthy v, hvs]
    cases vs <;> rfl
  · rw [hitems]

theorem readParts_map {nodes edges : List Value} {type : Value} (hnodes : ∀ v ∈ nodes, NodePlain v)
    (hedges : ∀ v ∈ edges, EdgePlain v) (s : Settings) :
    Graph.readParts s (nodes.map (node type)) (edges.map edge) = Graph.readParts s nodes edges := by
  unfold Graph.readParts
  rw [Report.collect_map fun v hv i => readNode_node (hnodes v hv) s i,
    Report.collect_map fun v hv i => readEdge_edge (hedges v hv) i]

section Graph

variable {fields fields' : List (Value × Value)} (type : Value) {v v' : Value}

/-- What is read of a graph are its nodes and edges only. -/
theorem readGraph_parts (plain : PartsPlain fields) (h : v.opened = .map fields)
    (h' : v'.opened = .map fields')
    (hnodes : get fields' "nodes" = items (node type) (get fields "nodes"))
    (hedges : get fields' "edges" = items edge (get fields "edges")) (s : Settings) :
    Graph.read s v' = Graph.read s v := by
  unfold Graph.read
  rw [h, h']
  dsimp only
  rw [hnodes, hedges]
  have hedgesPlain := plain.edges
  generalize get fields "edges" = edges at hedgesPlain ⊢
  rcases items_opened (node type) (get fields "nodes") with ⟨vs, hvs, hitems⟩ | ⟨hno, hitems⟩
  · have hplain := plain.nodes vs hvs
    rw [hitems, hvs, items_truthy]
    cases vs with
    | nil => rfl
    | cons n rest =>
      cases edges.truthy with
      | false =>
        have hnone : ∀ v ∈ ([] : List Value), EdgePlain v := fun v hv => absurd hv List.not_mem_nil
        exact congrArg (Except.map _) (readParts_map hplain hnone s)
      | true =>
        rcases items_opened edge edges with ⟨es, hes, hitems⟩ | ⟨hno, hitems⟩
        · rw [hitems, hes]
          exact congrArg (Except.map _) (readParts_map hplain (hedgesPlain es hes) s)
        · rw [hitems]
          cases hopened : edges.opened with
          | list vs => exact absurd hopened (hno vs)
          | _ => rfl
  · rw [hitems]
    cases hopened : (get fields "nodes").opened with
    | list vs => exact absurd hopened (hno vs)
    | _ => rfl

theorem part_null (key : String) : part type key .null = .null := by
  unfold part
  split
  · rfl
  · split <;> rfl

theorem readGraph_graph (plain : ∀ inner, v.opened = .map inner → PartsPlain inner) (s : Settings) :
    Graph.read s (graph type v) = Graph.read s v := by
  unfold graph
  split
  · next inner h =>
    refine readGraph_parts type (plain inner h) h rfl ?_ ?_ s
    · exact get_other (part_null type) List.not_mem_nil List.not_mem_nil
    · exact get_other (part_null type) List.not_mem_nil List.not_mem_nil
  · rfl

end Graph

/-! ### Plans -/

theorem graph_null (type v : Value) : graph type v = .null ↔ v = .null := by
  unfold graph
  split
  · next h =>
    refine iff_of_false nofun ?_
    rintro rfl
    cases h
  · rfl

theorem planChange_null (type : Value) (key : String) : planChange type key .null = .null := by
  unfold planChange
  split
  · exact (graph_null type .null).mpr rfl
  · split
    · exact (targets_null .null).mpr rfl
    · exact part_null type key

theorem planNames_proper : Proper planNames := by decide

section Plan

variable {fields : List (Value × Value)} (type : Value) (lacks : Lacks planNames fields)

theorem plan_part {key : String} (hold : key ∉ planNames.map Prod.fst)
    (hnew : key ∉ planNames.map Prod.snd) :
    get (respell planNames (planChange type) fields) key = part type key (get fields key) := by
  have hchange : planChange type key = part type key := by
    unfold planChange
    have hgraph : key ≠ "flow_graph" := by
      rintro rfl
      exact hold (by decide)
    have htargets : key ≠ "modifiers" := by
      rintro rfl
      exact hold (by decide)
    rw [if_neg hgraph, if_neg htargets]
  rw [get_other (planChange_null type) hold hnew, hchange]

include lacks

/-- A field of a plan is found like one under its old name. -/
theorem plan_given {β : Type} (read : Value → β) {old new : String} (h : (old, new) ∈ planNames)
    (hnull : planChange type old (get fields old) = .null ↔ get fields old = .null)
    (hread : read (planChange type old (get fields old)) = read (get fields old)) :
    (firstGiven? (respell planNames (planChange type) fields) [old, new]).map read =
      (firstGiven? fields [old, new]).map read := by
  have hnew : Value.get (respell planNames (planChange type) fields) new =
      planChange type old (Value.get fields old) :=
    get_new (planChange_null type) planNames_proper lacks h
  exact (firstGiven?_exchanged read [] (by rw [hnew, hnull]) (by rw [hnew, hread])
    (get_old planNames_proper h) (get_lacked lacks h) rfl).2

/-- A field whose value stays. -/
theorem plan_kept {old new : String} (h : (old, new) ∈ planNames)
    (hsame : planChange type old = id) :
    firstGiven? (respell planNames (planChange type) fields) [old, new] =
      firstGiven? fields [old, new] := by
  have hgiven := plan_given type lacks id h (by rw [hsame, id]) (by rw [hsame, id])
  rwa [Option.map_id, id, id] at hgiven

theorem graphDocument_plan (s : Settings)
    (graph : ∀ inner, (get fields "flow_graph").opened = .map inner → PartsPlain inner)
    (parts : get fields "flow_graph" = .null → PartsPlain fields) :
    (Plan.graphDocument? (respell planNames (planChange type) fields)).map (Graph.read s) =
      (Plan.graphDocument? fields).map (Graph.read s) := by
  have hnodes : get (respell planNames (planChange type) fields) "nodes" =
      items (node type) (get fields "nodes") :=
    plan_part type (by decide) (by decide)
  have hedges : get (respell planNames (planChange type) fields) "edges" =
      items edge (get fields "edges") :=
    plan_part type (by decide) (by decide)
  have hlists : (lookup "nodes" (respell planNames (planChange type) fields)).isSome =
      (lookup "nodes" fields).isSome := by
    rw [lookup_other (by decide) (by decide), Option.isSome_map]
  have hgiven := plan_given type lacks (Graph.read s)
    (by decide : ("flow_graph", "flowGraph") ∈ planNames) (graph_null type _)
    (readGraph_graph type graph s)
  unfold Plan.graphDocument?
  rw [hlists, hnodes, hedges]
  cases hleft : firstGiven? (respell planNames (planChange type) fields)
      ["flow_graph", "flowGraph"] with
  | none =>
    cases hright : firstGiven? fields ["flow_graph", "flowGraph"] with
    | none =>
      have hmissing : get fields "flow_graph" = .null := by
        by_contra h
        rw [firstGiven?_given h] at hright
        cases hright
      have hlisted : PartsPlain
          [(.text "nodes", get fields "nodes"), (.text "edges", get fields "edges")] :=
        ⟨(parts hmissing).nodes, (parts hmissing).edges⟩
      dsimp only
      split
      · exact congrArg some (readGraph_parts type hlisted rfl rfl rfl rfl s)
      · rfl
    | some v => simp [hleft, hright] at hgiven
  | some v' =>
    cases hright : firstGiven? fields ["flow_graph", "flowGraph"] with
    | none => simp [hleft, hright] at hgiven
    | some v => simpa [hleft, hright] using hgiven

theorem readGraph_plan (s : Settings)
    (graph : ∀ inner, (get fields "flow_graph").opened = .map inner → PartsPlain inner)
    (parts : get fields "flow_graph" = .null → PartsPlain fields) :
    Plan.readGraph s (respell planNames (planChange type) fields) = Plan.readGraph s fields := by
  have hdocument := graphDocument_plan type lacks s graph parts
  unfold Plan.readGraph
  cases hleft : Plan.graphDocument? (respell planNames (planChange type) fields) with
  | none =>
    cases hright : Plan.graphDocument? fields with
    | none => rfl
    | some doc => simp [hleft, hright] at hdocument
  | some doc' =>
    cases hright : Plan.graphDocument? fields with
    | none => simp [hleft, hright] at hdocument
    | some doc =>
      have hread : Graph.read s doc' = Graph.read s doc := by simpa [hleft, hright] using hdocument
      dsimp only
      rw [hread]

theorem readTargets_plan (targets : TargetsPlain (get fields "modifiers")) (place : String) :
    Graph.readTargets (firstGiven (respell planNames (planChange type) fields)
        ["modifiers", "modifierList"]) place =
      Graph.readTargets (firstGiven fields ["modifiers", "modifierList"]) place :=
  firstGiven_read (fun v => Graph.readTargets v place)
    (plan_given type lacks (fun v => Graph.readTargets v place)
      (by decide : ("modifiers", "modifierList") ∈ planNames) (targets_null _)
      (readTargets_targets targets place))

end Plan

theorem readParts_plan {fields : List (Value × Value)} (type : Value) (plain : PlanPlain fields)
    (s : Settings) (files : Files) (base : Option Path) :
    Plan.readParts s files base (respell planNames (planChange type) fields) =
      Plan.readParts s files base fields := by
  have hattempts := plan_kept type plain.names
    (by decide : ("max_attempts", "maxAttempts") ∈ planNames) rfl
  have hdelay := plan_kept type plain.names
    (by decide : ("start_delay_ms", "startDelayMs") ∈ planNames) rfl
  have hknown := plan_kept type plain.names
    (by decide : ("known_mods", "knownMods") ∈ planNames) rfl
  unfold Plan.readParts Plan.readLimit Plan.knownValue firstGiven
  rw [readGraph_plan type plain.names s plain.graph plain.parts, hattempts, hdelay, hknown]
  have htargets := readTargets_plan type plain.names plain.targets "modifiers"
  unfold firstGiven at htargets
  rw [htargets]

/-- A document of a configuration file and its export by the editor are read as the same plan, or
with the same problems, whatever type of its own the editor gives to nodes. -/
theorem read_export (doc : Value) (plain : ∀ fields, doc.opened = .map fields → PlanPlain fields)
    (type : Value) (s : Settings) (files : Files) (base : Option Path) :
    Plan.read s files base (plan type doc) = Plan.read s files base doc := by
  unfold plan
  split
  · next fields h =>
    have hopened : (Value.map (respell planNames (planChange type) fields)).opened =
        .map (respell planNames (planChange type) fields) := rfl
    unfold Plan.read
    rw [hopened, h]
    dsimp only
    rw [readParts_plan type (plain fields h)]
  · rfl

/-- A click and a check with a bounded target, as a configuration file writes them. -/
def spellLevel : Value :=
  .map [
    (.text "max_attempts", .int 40),
    (.text "modifiers", .list [.text "+# to maximum Life"]),
    (.text "flow_graph", .map [
      (.text "nodes", .list [
        .map [(.text "id", .text "start"), (.text "kind", .text "start")],
        .map [(.text "id", .text "use"), (.text "kind", .text "leftClick"),
          (.text "data", .map [(.text "use_shift", .bool true), (.text "post_delay_ms", .int 120)])],
        .map [(.text "id", .text "look"), (.text "kind", .text "checkRegion"),
          (.text "data", .map [(.text "modifiers", .list [
            .map [(.text "pattern", .text "+# to Level of all Spell Skills"),
              (.text "min_value", .int 5)]])])],
        .map [(.text "id", .text "end"), (.text "kind", .text "end")]]),
      (.text "edges", .list [
        .map [(.text "source", .text "start"), (.text "target", .text "use")],
        .map [(.text "source", .text "use"), (.text "target", .text "look")],
        .map [(.text "source", .text "look"), (.text "target", .text "end"),
          (.text "branch", .bool true)],
        .map [(.text "source", .text "look"), (.text "target", .text "use"),
          (.text "branch", .text "false")]])])]

theorem spellLevel_plain : ∀ fields, spellLevel.opened = .map fields → PlanPlain fields := by
  rintro fields ⟨⟩
  refine ⟨by simp [Lacks, planNames, lookup], ?_, (fun h => by cases h), ?_⟩
  · rintro inner ⟨⟩
    constructor
    · rintro vs ⟨⟩
      simp only [List.forall_mem_cons, List.not_mem_nil, false_implies, implies_true, and_true]
      have hbare : ∀ id kind : String, kind.isEmpty = false →
          NodePlain (.map [(.text "id", .text id), (.text "kind", .text kind)]) := by
        rintro id kind hkind fields ⟨⟩
        refine ⟨?_, .inl rfl⟩
        change (!kind.isEmpty) = true
        rw [hkind]
        rfl
      refine ⟨hbare _ _ (by decide), ?_, ?_, hbare _ _ (by decide)⟩
      · rintro fields ⟨⟩
        refine ⟨by decide, .inr ⟨_, rfl, rfl, by simp [Lacks, dataNames, lookup], ?_⟩⟩
        rintro fields ⟨⟩
      · rintro fields ⟨⟩
        refine ⟨by decide, .inr ⟨_, rfl, rfl, by simp [Lacks, dataNames, lookup], ?_⟩⟩
        rintro v hv fields hfields
        rw [List.mem_singleton.mp hv] at hfields
        cases hfields
        simp [Lacks, targetNames, lookup]
    · rintro vs ⟨⟩
      simp only [List.forall_mem_cons, List.not_mem_nil, false_implies, implies_true, and_true]
      refine ⟨?_, ?_, ?_, ?_⟩
      all_goals
        rintro fields ⟨⟩
        simp [Lacks, edgeNames, lookup]
  · rintro v hv fields hfields
    rw [List.mem_singleton.mp hv] at hfields
    cases hfields

/-- The editor calls each of its nodes a step; the plan that is read has the target of the check. -/
theorem read_export_spellLevel :
    (∀ fields, spellLevel.opened = .map fields → PlanPlain fields) ∧
      Plan.read {} {} none (plan (.text "step") spellLevel) = Plan.read {} {} none spellLevel ∧
      (match Plan.read {} {} none spellLevel with
        | .ok (.ok plan) => plan.graph.nodes.map fun n =>
          match n.data with
          | .check _ targets => targets.map Spec.describe
          | _ => []
        | _ => []) = [[], [], ["+# to Level of all Spell Skills (5+)"], []] :=
  ⟨spellLevel_plain, read_export spellLevel spellLevel_plain (.text "step") {} {} none,
    by decide +kernel⟩

end Editor

end Reroll
