import Mathlib.Data.List.Nodup
import Mathlib.Data.List.Perm.Subperm
import Mathlib.Logic.Function.Iterate
import Mathlib.Logic.Relation
import Reroll.Graph.Basic

/-!
# Reachable nodes

The search along the edges finds exactly the ids that a path of edges joins to the source
(`mem_reachableFrom`). A round takes the id that has waited longest and puts what it finds behind
the others (`round_cases`), so all that was found has either been taken or waits, in the order in
which it was found (`Search.Fair`), and the edges of what has been taken have been followed
(`Search.Exact`). Each id that is found is taken once, which is how many rounds there are, and the
order of the edges does not matter (`reachableFrom_exact`).
-/

namespace Reroll.Graph

variable {g g' : Graph} {source : String}

/-- A path of edges, maybe of none, leads from one id to another. -/
def Joined (g : Graph) : String → String → Prop :=
  Relation.ReflTransGen fun a b => ∃ e ∈ g.edges, e.source = a ∧ e.target = b

theorem joined_congr (h : ∀ e, e ∈ g'.edges ↔ e ∈ g.edges) : g'.Joined = g.Joined := by
  unfold Joined
  simp only [h]

namespace Search

variable {s : Search}

/-! ### One round -/

theorem follow_cases (s : Search) (e : Edge) :
    (e.target ∈ s.seen ∧ s.follow e = s) ∨
      (e.target ∉ s.seen ∧ s.follow e = ⟨s.seen ++ [e.target], s.queue ++ [e.target]⟩) := by
  unfold follow
  by_cases htarget : e.target ∈ s.seen
  · exact .inl ⟨htarget, by simp [htarget]⟩
  · exact .inr ⟨htarget, by simp [htarget]⟩

/-- What some edges add to a search: the targets that are new, each of them once. -/
theorem foldl_follow (edges : List Edge) (s : Search) :
    ∃ found, edges.foldl follow s = ⟨s.seen ++ found, s.queue ++ found⟩ ∧
      found.Nodup ∧ found.Disjoint s.seen ∧ (∀ id ∈ found, ∃ e ∈ edges, e.target = id) ∧
      ∀ e ∈ edges, e.target ∈ s.seen ++ found := by
  induction edges generalizing s with
  | nil => exact ⟨[], by simp, List.nodup_nil, List.disjoint_nil_left _, nofun, nofun⟩
  | cons e rest ih =>
    obtain ⟨found, hend, hnodup, hnew, hfrom, hall⟩ := ih (s.follow e)
    rw [List.foldl_cons, hend]
    rcases follow_cases s e with ⟨hold, hsame⟩ | ⟨hfresh, hadded⟩
    · rw [hsame] at hnew hall ⊢
      refine ⟨found, rfl, hnodup, hnew, fun id hid => ?_, List.forall_mem_cons.mpr ⟨?_, hall⟩⟩
      · obtain ⟨f, hf, rfl⟩ := hfrom id hid
        exact ⟨f, List.mem_cons_of_mem _ hf, rfl⟩
      · exact List.mem_append_left _ hold
    · rw [hadded] at hnew hall ⊢
      dsimp only at hnew hall ⊢
      have hnew := List.disjoint_append_right.mp hnew
      refine ⟨e.target :: found, by simp, ?_, ?_, ?_, ?_⟩
      · exact List.nodup_cons.mpr ⟨fun h => hnew.2 h (List.mem_singleton_self _), hnodup⟩
      · exact List.disjoint_cons_left.mpr ⟨hfresh, hnew.1⟩
      · refine List.forall_mem_cons.mpr ⟨⟨e, List.mem_cons_self, rfl⟩, fun id hid => ?_⟩
        obtain ⟨f, hf, rfl⟩ := hfrom id hid
        exact ⟨f, List.mem_cons_of_mem _ hf, rfl⟩
      · simpa using hall

/-- A round takes the first id in line and puts the new targets of its edges behind the others. -/
theorem round_cases (g : Graph) {id : String} {rest : List String} (h : s.queue = id :: rest) :
    ∃ found, s.round g = ⟨s.seen ++ found, rest ++ found⟩ ∧
      found.Nodup ∧ found.Disjoint s.seen ∧
      (∀ x ∈ found, ∃ e ∈ g.edges, e.source = id ∧ e.target = x) ∧
      ∀ e ∈ g.edges, e.source = id → e.target ∈ s.seen ++ found := by
  obtain ⟨found, hend, hnodup, hnew, hfrom, hall⟩ :=
    foldl_follow (g.edgesFrom id) { s with queue := rest }
  refine ⟨found, ?_, hnodup, hnew, fun x hx => ?_, fun e he hid => ?_⟩
  · rw [round, h]
    exact hend
  · obtain ⟨e, he, hx⟩ := hfrom x hx
    obtain ⟨hmem, hid⟩ := mem_edgesFrom.mp he
    exact ⟨e, hmem, hid, hx⟩
  · exact hall e (mem_edgesFrom.mpr ⟨he, hid⟩)

/-! ### What every round preserves -/

/-- All that was found is joined to the source, and what is not in line has had its edges
followed. -/
structure Exact (g : Graph) (source : String) (s : Search) : Prop where
  origin : source ∈ s.seen
  distinct : s.seen.Nodup
  joined : ∀ id ∈ s.seen, g.Joined source id
  closed : ∀ e ∈ g.edges, e.source ∈ s.seen → e.source ∉ s.queue → e.target ∈ s.seen
  waiting : s.queue ⊆ s.seen

theorem exact_start (g : Graph) (source : String) : Exact g source (start source) where
  origin := List.mem_singleton_self _
  distinct := List.nodup_singleton _
  joined := by
    intro id hid
    rw [List.mem_singleton.mp hid]
    exact .refl
  closed := fun _ _ hseen hline => absurd hseen hline
  waiting := List.Subset.refl _

theorem Exact.round (h : Exact g source s) (waits : s.queue ≠ []) :
    Exact g source (s.round g) := by
  obtain ⟨id, rest, hqueue⟩ := List.exists_cons_of_ne_nil waits
  obtain ⟨found, hround, hnodup, hnew, hfrom, hall⟩ := round_cases g hqueue
  have hid : g.Joined source id := h.joined id (h.waiting (hqueue ▸ List.mem_cons_self))
  rw [hround]
  constructor
  case origin => exact List.mem_append_left _ h.origin
  case distinct => exact h.distinct.append hnodup (List.disjoint_symm hnew)
  case joined =>
    intro x hx
    rcases List.mem_append.mp hx with hx | hx
    · exact h.joined x hx
    · obtain ⟨e, he, hsource, htarget⟩ := hfrom x hx
      exact hid.tail ⟨e, he, hsource, htarget⟩
  case closed =>
    intro e he hseen hline
    -- an edge from what is not in line was followed before, or it leaves the id just taken
    obtain ⟨hrest, hfound⟩ : e.source ∉ rest ∧ e.source ∉ found := by simpa using hline
    have hseen : e.source ∈ s.seen := (List.mem_append.mp hseen).resolve_right hfound
    by_cases htaken : e.source = id
    · exact hall e he htaken
    · have hout : e.source ∉ s.queue := by simp [hqueue, htaken, hrest]
      exact List.mem_append_left _ (h.closed e he hseen hout)
  case waiting =>
    have hrest : rest ⊆ s.seen := fun x hx => h.waiting (hqueue ▸ List.mem_cons_of_mem _ hx)
    exact List.append_subset.mpr
      ⟨List.subset_append_of_subset_left _ hrest, List.subset_append_right _ _⟩

/-- The ids in line are the last ones that were found; those before them have been taken. -/
def Fair (taken : List String) (s : Search) : Prop := s.seen = taken ++ s.queue

theorem Fair.round {taken : List String} {id : String} {rest : List String} (h : Fair taken s)
    (hqueue : s.queue = id :: rest) : Fair (taken ++ [id]) (s.round g) := by
  obtain ⟨found, hround, -⟩ := round_cases g hqueue
  unfold Fair at h ⊢
  rw [hround]
  dsimp only
  rw [h, hqueue]
  simp

/-! ### All rounds -/

theorem Exact.finish (h : Exact g source s) :
    Exact g source (s.finish g) ∧ (s.finish g).queue = [] := by
  fun_induction Search.finish g s with
  | case1 s hnone => exact ⟨h, hnone⟩
  | case2 s hwaits ih => exact ih (h.round hwaits)

/-- There are as many rounds as there are ids that have not been taken yet. -/
theorem Fair.finish {taken : List String} (h : Fair taken s) :
    ∃ n, (Search.round g)^[n] s = s.finish g ∧
      (s.finish g).seen.length = taken.length + n := by
  fun_induction Search.finish g s generalizing taken with
  | case1 s hnone =>
    refine ⟨0, rfl, ?_⟩
    rw [h, hnone, List.append_nil, Nat.add_zero]
  | case2 s hwaits ih =>
    obtain ⟨id, rest, hqueue⟩ := List.exists_cons_of_ne_nil hwaits
    obtain ⟨n, hrounds, hlength⟩ := ih (h.round hqueue)
    refine ⟨n + 1, hrounds, ?_⟩
    rw [hlength, List.length_append, List.length_singleton]
    omega

end Search

open Search

/-- What is found are the ids that a path of edges joins to the source. -/
theorem mem_reachableFrom {id : String} : id ∈ g.reachableFrom source ↔ g.Joined source id := by
  obtain ⟨hexact, hnone⟩ := (exact_start g source).finish
  constructor
  · exact hexact.joined id
  · intro h
    induction h with
    | refl => exact hexact.origin
    | tail _ hstep ih =>
      obtain ⟨e, he, rfl, rfl⟩ := hstep
      exact hexact.closed e he ih (by simp [hnone])

theorem reachableFrom_nodup (g : Graph) (source : String) : (g.reachableFrom source).Nodup :=
  (exact_start g source).finish.1.distinct

/-- Apart from the source, what is found is the target of an edge. -/
theorem reachableFrom_length (g : Graph) (source : String) :
    (g.reachableFrom source).length ≤ g.edges.length + 1 := by
  have hwithin : g.reachableFrom source ⊆ source :: g.edges.map Edge.target := by
    intro id hid
    rcases (mem_reachableFrom.mp hid).cases_tail with rfl | ⟨_, -, e, he, -, rfl⟩
    · exact List.mem_cons_self
    · exact List.mem_cons_of_mem _ (List.mem_map_of_mem he)
  simpa using (List.subperm_of_subset (reachableFrom_nodup g source) hwithin).length_le

/-- The search ends after as many rounds as it finds ids, and it finds each id that a path of edges
joins to the source, once, and nothing else. Neither the nodes nor the order of the edges matter. -/
theorem reachableFrom_exact (g : Graph) (source : String) :
    let found := g.reachableFrom source
    let ended := (Search.round g)^[found.length] (Search.start source)
    (ended.queue = [] ∧ ended.seen = found ∧ found.length ≤ g.edges.length + 1) ∧
      (∀ id, id ∈ found ↔ g.Joined source id) ∧ found.Nodup ∧
      ∀ g' : Graph, (∀ e, e ∈ g'.edges ↔ e ∈ g.edges) → (g'.reachableFrom source).Perm found := by
  intro found ended
  have hfair : Fair [] (Search.start source) := rfl
  obtain ⟨n, hrounds, hlength⟩ := hfair.finish (g := g)
  have hn : found.length = n := hlength.trans (Nat.zero_add n)
  have hended : ended = (Search.start source).finish g := by
    rw [← hrounds, ← hn]
  refine ⟨⟨?_, ?_, reachableFrom_length g source⟩, fun id => mem_reachableFrom,
    reachableFrom_nodup g source, fun g' hedges => ?_⟩
  · rw [hended]
    exact (exact_start g source).finish.2
  · rw [hended]
    rfl
  · refine (List.perm_ext_iff_of_nodup (reachableFrom_nodup g' source)
      (reachableFrom_nodup g source)).mpr fun id => ?_
    rw [mem_reachableFrom, mem_reachableFrom, joined_congr hedges]

/-- A cycle with a way out to an id that is no node, drawn twice, and an edge that leads nowhere
from here. -/
def roundabout : Graph where
  nodes := []
  edges := [⟨"a", "b", none⟩, ⟨"b", "c", none⟩, ⟨"c", "a", none⟩, ⟨"b", "ghost", none⟩,
    ⟨"b", "ghost", none⟩, ⟨"d", "a", none⟩]

/-- Its edges in another order are followed in another order, and the same ids are found. -/
theorem roundabout_reachable :
    roundabout.reachableFrom "a" = ["a", "b", "c", "ghost"] ∧
      (∀ e, e ∈ roundabout.edges.reverse ↔ e ∈ roundabout.edges) ∧
      (({ roundabout with edges := roundabout.edges.reverse } : Graph).reachableFrom "a").Perm
        ["a", "b", "c", "ghost"] := by
  have hfound : roundabout.reachableFrom "a" = ["a", "b", "c", "ghost"] := by decide +kernel
  have hedges : ∀ e, e ∈ roundabout.edges.reverse ↔ e ∈ roundabout.edges := fun e =>
    List.mem_reverse
  refine ⟨hfound, hedges, ?_⟩
  rw [← hfound]
  exact (reachableFrom_exact roundabout "a").2.2.2 _ hedges

end Reroll.Graph
