import Mathlib.Data.List.Nodup
import Mathlib.Data.List.Pairwise
import Reroll.Graph.Validity
import Reroll.Proofs.Graph.Reach

/-!
# Sound graphs

A graph without problems is exactly a sound one: its ids are distinct, it has one start and one end,
its edges join nodes and are labelled as their sources ask, and a path leads from the start to every
node but maybe the end. In a sound graph a node and an edge are looked up without choice, so the
order in which nodes and edges are listed does not matter (`problems_nil_iff_sound`).
-/

namespace Reroll

namespace Graph

/-- An edge out of a check is labelled by an outcome, any other edge by nothing. -/
def Labelled (kind : NodeKind) (branch : Option String) : Prop :=
  if kind = .check then branch = some onFound ∨ branch = some onMissed else branch = none

/-- Two edges do not share both source and label. -/
def Apart (e f : Edge) : Prop := ¬(e.source = f.source ∧ e.branch = f.branch)

instance : Std.Symm Apart where
  symm _ _ h := fun ⟨hsource, hbranch⟩ => h ⟨hsource.symm, hbranch.symm⟩

/-- A graph that can be run. -/
structure Sound (g : Graph) : Prop where
  distinct : (g.nodes.map Node.id).Nodup
  start : ∃ n ∈ g.nodes, n.id = startId ∧ n.kind = .start
  finish : ∃ n ∈ g.nodes, n.id = endId ∧ n.kind = .finish
  elsewhere : ∀ n ∈ g.nodes, n.kind = .start ∨ n.kind = .finish → n.id = startId ∨ n.id = endId
  sources : ∀ e ∈ g.edges, ∃ n ∈ g.nodes, n.id = e.source ∧ Labelled n.kind e.branch
  targets : ∀ e ∈ g.edges, ∃ n ∈ g.nodes, n.id = e.target
  single : g.edges.Pairwise Apart
  last : ∀ e ∈ g.edges, e.source ≠ endId
  reached : ∀ n ∈ g.nodes, n.id ≠ endId → g.Joined startId n.id

variable {g g' : Graph} {id : String} {n : Node} {e : Edge} {kind : NodeKind}

/-! ### Lookups without choice -/

theorem mem_of_node? (h : g.node? id = some n) : n ∈ g.nodes ∧ n.id = id :=
  ⟨List.mem_of_find?_eq_some h, by simpa using List.find?_some h⟩

theorem nextEdge?_mem {branch : Option String} (h : g.nextEdge? id branch = some e) :
    e ∈ g.edges :=
  List.mem_of_mem_filter (List.mem_of_find?_eq_some h)

theorem node?_eq_some_iff (distinct : (g.nodes.map Node.id).Nodup) :
    g.node? id = some n ↔ n ∈ g.nodes ∧ n.id = id := by
  refine ⟨mem_of_node?, fun ⟨hn, hid⟩ => ?_⟩
  cases hfound : g.node? id with
  | none =>
    have hnone := List.find?_eq_none.mp hfound n hn
    simp [hid] at hnone
  | some m =>
    obtain ⟨hm, hmid⟩ := mem_of_node? hfound
    rw [List.inj_on_of_nodup_map distinct hm hn (hmid.trans hid.symm)]

theorem node?_isSome_iff : (g.node? id).isSome = true ↔ ∃ n ∈ g.nodes, n.id = id := by
  rw [node?, List.find?_isSome]
  exact exists_congr fun n => and_congr_right fun _ => beq_iff_eq

theorem nextEdge?_eq_some_iff {branch : Option String} (single : g.edges.Pairwise Apart) :
    g.nextEdge? id branch = some e ↔ e ∈ g.edges ∧ e.source = id ∧ e.branch = branch := by
  have hfound : ∀ f, g.nextEdge? id branch = some f →
      f ∈ g.edges ∧ f.source = id ∧ f.branch = branch := by
    intro f hf
    have hsource := List.of_mem_filter (List.mem_of_find?_eq_some hf)
    have hbranch := List.find?_some (p := fun f : Edge => f.branch == branch) hf
    exact ⟨nextEdge?_mem hf, beq_iff_eq.mp hsource, beq_iff_eq.mp hbranch⟩
  refine ⟨hfound e, fun ⟨he, hid, hbranch⟩ => ?_⟩
  cases hnext : g.nextEdge? id branch with
  | none =>
    have hmem : e ∈ g.edgesFrom id := List.mem_filter.mpr ⟨he, beq_iff_eq.mpr hid⟩
    have hnone := List.find?_eq_none.mp hnext e hmem
    exact absurd (beq_iff_eq.mpr hbranch) hnone
  | some f =>
    obtain ⟨hf, hfid, hfbranch⟩ := hfound f hnext
    by_contra hne
    have hapart : Apart e f := single.forall he hf fun h => hne (congrArg some h.symm)
    exact hapart ⟨hid.trans hfid.symm, hbranch.trans hfbranch.symm⟩

/-! ### Problems, one kind after the other -/

theorem duplicates_eq_nil {seen : List String} {nodes : List Node} :
    duplicates seen nodes = [] ↔ (nodes.map Node.id).Nodup ∧ ∀ n ∈ nodes, n.id ∉ seen := by
  induction nodes generalizing seen with
  | nil => simp [duplicates]
  | cons n rest ih =>
    rw [duplicates, List.append_eq_nil_iff, ih, List.map_cons, List.nodup_cons]
    by_cases hseen : n.id ∈ seen
    · simp [hseen]
    · have hfirst : (∀ m ∈ n :: rest, m.id ∉ seen) ↔ ∀ m ∈ rest, m.id ∉ seen := by
        simp [hseen]
      have hlater : (∀ m ∈ rest, m.id ∉ n.id :: seen) ↔
          n.id ∉ rest.map Node.id ∧ ∀ m ∈ rest, m.id ∉ seen := by
        simp only [List.mem_cons, not_or, List.mem_map, not_exists, not_and]
        exact forall₂_and
      rw [hfirst, hlater]
      simp only [List.contains_iff_mem, hseen, if_false, true_and]
      tauto

theorem requiredProblems_eq_nil :
    g.requiredProblems id kind = [] ↔ ∃ n, g.node? id = some n ∧ n.kind = kind := by
  unfold requiredProblems
  cases g.node? id with
  | none => simp
  | some n => simp

theorem misplacedNodes_eq_nil : g.misplacedNodes = [] ↔
    ∀ n ∈ g.nodes, n.kind = .start ∨ n.kind = .finish → n.id = startId ∨ n.id = endId := by
  rw [misplacedNodes, List.filterMap_eq_nil_iff]
  refine forall_congr' fun n => imp_congr_right fun _ => ?_
  by_cases hid : n.id = startId ∨ n.id = endId
  · simp [hid]
  · simp [hid]

theorem edgeProblems_eq_nil (hsource : e.source ≠ endId) : g.edgeProblems e = [] ↔
    (∃ n, g.node? e.source = some n ∧ Labelled n.kind e.branch) ∧
      (g.node? e.target).isSome = true := by
  unfold edgeProblems Labelled
  cases g.node? e.source with
  | none => simp
  | some n =>
    have htarget : (g.node? e.target).isSome = true ↔ g.node? e.target ≠ none :=
      Option.isSome_iff_ne_none
    rw [htarget]
    cases e.branch with
    | none => by_cases hkind : n.kind = .check <;> simp [hsource, hkind]
    | some b =>
      by_cases hkind : n.kind = .check
      · simp [hsource, hkind, or_iff_not_imp_left]
        tauto
      · simp [hsource, hkind]

theorem edgesProblems_eq_nil {seen : List (String × Option String)} {edges : List Edge} :
    g.edgesProblems seen edges = [] ↔
      (∀ e ∈ edges, g.edgeProblems e = [] ∧ e.source ≠ endId ∧ (e.source, e.branch) ∉ seen) ∧
        edges.Pairwise Apart := by
  induction edges generalizing seen with
  | nil => simp [edgesProblems]
  | cons e rest ih =>
    rw [edgesProblems, List.append_eq_nil_iff, ih, List.pairwise_cons]
    have hlater : (∀ f ∈ rest, g.edgeProblems f = [] ∧ f.source ≠ endId ∧
        (f.source, f.branch) ∉ (e.source, e.branch) :: seen) ↔
          (∀ f ∈ rest, Apart e f) ∧
            ∀ f ∈ rest, g.edgeProblems f = [] ∧ f.source ≠ endId ∧ (f.source, f.branch) ∉ seen := by
      rw [← forall₂_and]
      refine forall₂_congr fun f _ => ?_
      simp only [List.mem_cons, Prod.mk.injEq, not_or, Apart]
      rw [eq_comm (a := f.source), eq_comm (a := f.branch)]
      tauto
    have hfirst : g.edgeProblems e ++
        (if seen.contains (e.source, e.branch) then
          [GraphProblem.repeated e.source (branchLabel e.branch)] else []) ++
        (if e.source = endId then [.afterEnd] else []) = [] ↔
          g.edgeProblems e = [] ∧ e.source ≠ endId ∧ (e.source, e.branch) ∉ seen := by
      simp only [List.append_eq_nil_iff, ite_eq_right_iff, List.contains_iff_mem]
      simp
      tauto
    rw [hlater, hfirst, List.forall_mem_cons]
    tauto

theorem unreachableNodes_eq_nil :
    g.unreachableNodes = [] ↔ ∀ n ∈ g.nodes, n.id ≠ endId → g.Joined startId n.id := by
  rw [unreachableNodes, List.filterMap_eq_nil_iff]
  refine forall_congr' fun n => imp_congr_right fun _ => ?_
  rw [← mem_reachableFrom]
  by_cases hid : n.id = endId
  · simp [hid]
  · simp [hid]

theorem problems_eq_nil :
    g.problems = [] ↔ g.structureProblems = [] ∧ g.unreachableNodes = [] := by
  rw [problems]
  by_cases h : g.structureProblems = []
  · simp [h]
  · simp [h]

theorem structureProblems_eq_nil : g.structureProblems = [] ↔
    (g.nodes.map Node.id).Nodup ∧ (∃ n, g.node? startId = some n ∧ n.kind = .start) ∧
      (∃ n, g.node? endId = some n ∧ n.kind = .finish) ∧ g.misplacedNodes = [] ∧
      (∀ e ∈ g.edges, g.edgeProblems e = [] ∧ e.source ≠ endId) ∧ g.edges.Pairwise Apart := by
  rw [structureProblems]
  simp only [List.append_eq_nil_iff, duplicates_eq_nil, requiredProblems_eq_nil,
    edgesProblems_eq_nil, List.not_mem_nil, not_false_eq_true, implies_true, and_true, and_assoc]

/-- A graph without problems is exactly a sound one. -/
theorem problems_eq_nil_iff : g.problems = [] ↔ g.Sound := by
  rw [problems_eq_nil, structureProblems_eq_nil, unreachableNodes_eq_nil, misplacedNodes_eq_nil]
  constructor
  · rintro ⟨⟨hdistinct, ⟨n, hn, hstart⟩, ⟨m, hm, hfinish⟩, helsewhere, hedges, hsingle⟩, hreached⟩
    rw [node?_eq_some_iff hdistinct] at hn hm
    have hedges' : ∀ e ∈ g.edges, _ := fun e he =>
      (edgeProblems_eq_nil (hedges e he).2).mp (hedges e he).1
    refine ⟨hdistinct, ⟨n, hn.1, hn.2, hstart⟩, ⟨m, hm.1, hm.2, hfinish⟩, helsewhere, ?_, ?_,
      hsingle, fun e he => (hedges e he).2, hreached⟩
    · intro e he
      obtain ⟨k, hk, hlabelled⟩ := (hedges' e he).1
      rw [node?_eq_some_iff hdistinct] at hk
      exact ⟨k, hk.1, hk.2, hlabelled⟩
    · exact fun e he => node?_isSome_iff.mp (hedges' e he).2
  · rintro ⟨hdistinct, ⟨n, hn, hstart⟩, ⟨m, hm, hfinish⟩, helsewhere, hsources, htargets, hsingle,
      hlast, hreached⟩
    refine ⟨⟨hdistinct, ⟨n, ?_, hstart.2⟩, ⟨m, ?_, hfinish.2⟩, helsewhere,
      fun e he => ⟨?_, hlast e he⟩, hsingle⟩, hreached⟩
    · exact (node?_eq_some_iff hdistinct).mpr ⟨hn, hstart.1⟩
    · exact (node?_eq_some_iff hdistinct).mpr ⟨hm, hfinish.1⟩
    · refine (edgeProblems_eq_nil (hlast e he)).mpr ⟨?_, node?_isSome_iff.mpr (htargets e he)⟩
      obtain ⟨k, hk, hid, hlabelled⟩ := hsources e he
      exact ⟨k, (node?_eq_some_iff hdistinct).mpr ⟨hk, hid⟩, hlabelled⟩

/-! ### The order of nodes and edges -/

theorem joined_perm (hedges : g'.edges.Perm g.edges) : g'.Joined = g.Joined := by
  unfold Joined
  simp only [hedges.mem_iff]

theorem Sound.perm (sound : g.Sound) (hnodes : g'.nodes.Perm g.nodes)
    (hedges : g'.edges.Perm g.edges) : g'.Sound where
  distinct := (hnodes.map Node.id).nodup_iff.mpr sound.distinct
  start := by simpa only [hnodes.mem_iff] using sound.start
  finish := by simpa only [hnodes.mem_iff] using sound.finish
  elsewhere := by simpa only [hnodes.mem_iff] using sound.elsewhere
  sources := by simpa only [hnodes.mem_iff, hedges.mem_iff] using sound.sources
  targets := by simpa only [hnodes.mem_iff, hedges.mem_iff] using sound.targets
  single := hedges.symm.pairwise sound.single fun h => Std.Symm.symm _ _ h
  last := by simpa only [hedges.mem_iff] using sound.last
  reached := by simpa only [hnodes.mem_iff, joined_perm hedges] using sound.reached

theorem Sound.node?_perm (sound : g.Sound) (hnodes : g'.nodes.Perm g.nodes)
    (hedges : g'.edges.Perm g.edges) (id : String) : g'.node? id = g.node? id := by
  ext n
  rw [node?_eq_some_iff (sound.perm hnodes hedges).distinct, node?_eq_some_iff sound.distinct,
    hnodes.mem_iff]

theorem Sound.nextEdge?_perm (sound : g.Sound) (hnodes : g'.nodes.Perm g.nodes)
    (hedges : g'.edges.Perm g.edges) (id : String) (branch : Option String) :
    g'.nextEdge? id branch = g.nextEdge? id branch := by
  ext e
  rw [nextEdge?_eq_some_iff (sound.perm hnodes hedges).single, nextEdge?_eq_some_iff sound.single,
    hedges.mem_iff]

/-- Of items no two of which are candidates together there is at most one candidate. -/
theorem candidates_le_one {α : Type} {R : α → α → Prop} {items : List α} {p : α → Bool}
    (apart : items.Pairwise R) (clash : ∀ a b, p a = true → p b = true → ¬R a b) :
    (items.filter p).length ≤ 1 := by
  have hpair : (items.filter p).Pairwise R := apart.sublist List.filter_sublist
  cases hitems : items.filter p with
  | nil => simp
  | cons a rest =>
    cases rest with
    | nil => simp
    | cons b rest =>
      have hmem : ∀ c ∈ a :: b :: rest, p c = true := fun c hc =>
        (List.mem_filter.mp (hitems ▸ hc)).2
      rw [hitems] at hpair
      have hR : R a b := (List.pairwise_cons.mp hpair).1 b (List.mem_cons_self ..)
      exact absurd hR (clash a b (hmem a (by simp)) (hmem b (by simp)))

theorem Sound.node_candidates (sound : g.Sound) (id : String) :
    (g.nodes.filter fun n => n.id == id).length ≤ 1 := by
  refine candidates_le_one (List.pairwise_map.mp sound.distinct) fun n m hn hm hne => hne ?_
  exact (beq_iff_eq.mp hn).trans (beq_iff_eq.mp hm).symm

theorem Sound.edge_candidates (sound : g.Sound) (id : String) (branch : Option String) :
    (g.edges.filter fun e => e.source == id && e.branch == branch).length ≤ 1 := by
  refine candidates_le_one sound.single fun e f he hf hapart => hapart ?_
  rw [Bool.and_eq_true, beq_iff_eq, beq_iff_eq] at he hf
  exact ⟨he.1.trans hf.1.symm, he.2.trans hf.2.symm⟩

/-- A graph has no problems exactly when it is sound. Then for every id there is at most one node
and for every source and label at most one edge, and listing nodes and edges in another order
changes neither that there are no problems nor what is looked up. -/
theorem problems_nil_iff_sound (g : Graph) :
    (g.problems = [] ↔ g.Sound) ∧
      (g.problems = [] →
        (∀ id, (g.nodes.filter fun n => n.id == id).length ≤ 1) ∧
        (∀ id branch,
          (g.edges.filter fun e => e.source == id && e.branch == branch).length ≤ 1) ∧
        ∀ g' : Graph, g'.nodes.Perm g.nodes → g'.edges.Perm g.edges →
          g'.problems = [] ∧ (∀ id, g'.node? id = g.node? id) ∧
            ∀ id branch, g'.nextEdge? id branch = g.nextEdge? id branch) := by
  refine ⟨problems_eq_nil_iff, fun valid => ?_⟩
  have sound := problems_eq_nil_iff.mp valid
  refine ⟨sound.node_candidates, sound.edge_candidates, fun g' hnodes hedges => ?_⟩
  exact ⟨problems_eq_nil_iff.mpr (sound.perm hnodes hedges), sound.node?_perm hnodes hedges,
    sound.nextEdge?_perm hnodes hedges⟩

/-- A check is repeated until it finds something. -/
def lookout : Graph where
  nodes := [{ id := "start", kind := .start }, { id := "look", kind := .check },
    { id := "end", kind := .finish }]
  edges := [⟨"start", "look", none⟩, ⟨"look", "end", some "true"⟩, ⟨"look", "look", some "false"⟩]

/-- The same nodes and edges, listed from the last to the first. -/
def turned : Graph where
  nodes := lookout.nodes.reverse
  edges := lookout.edges.reverse

theorem problems_nil_iff_sound_turned :
    lookout.problems = [] ∧ turned.problems = [] ∧
      turned.nextEdge? "look" (some "false") = some ⟨"look", "look", some "false"⟩ := by
  have valid : lookout.problems = [] := by decide +kernel
  obtain ⟨-, -, hturned⟩ := (problems_nil_iff_sound lookout).2 valid
  obtain ⟨hvalid, -, hnext⟩ :=
    hturned turned (List.reverse_perm lookout.nodes) (List.reverse_perm lookout.edges)
  refine ⟨valid, hvalid, ?_⟩
  rw [hnext]
  decide +kernel

end Graph

end Reroll
