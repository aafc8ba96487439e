import Reroll.Proofs.Graph.Sound

/-!
# What valid graphs have

A graph without problems has a start and an end of the right kinds, only the end is of the kind of
an end, and every edge leads to a node.
-/

namespace Reroll

namespace Graph

variable {g : Graph} {id target : String} {n : Node} {e : Edge}

theorem start_of_valid (valid : g.problems = []) :
    ∃ n, g.node? startId = some n ∧ n.kind = .start := by
  have sound := problems_eq_nil_iff.mp valid
  obtain ⟨n, hn, hid, hkind⟩ := sound.start
  exact ⟨n, (node?_eq_some_iff sound.distinct).mpr ⟨hn, hid⟩, hkind⟩

theorem finish_of_valid (valid : g.problems = []) :
    ∃ n, g.node? endId = some n ∧ n.kind = .finish := by
  have sound := problems_eq_nil_iff.mp valid
  obtain ⟨n, hn, hid, hkind⟩ := sound.finish
  exact ⟨n, (node?_eq_some_iff sound.distinct).mpr ⟨hn, hid⟩, hkind⟩

/-- The end is the only node of its kind. -/
theorem finish_id (valid : g.problems = []) (hn : g.node? id = some n) (hk : n.kind = .finish) :
    id = endId := by
  obtain ⟨hmem, rfl⟩ := mem_of_node? hn
  rcases (problems_eq_nil_iff.mp valid).elsewhere n hmem (.inr hk) with hstart | hfinish
  · obtain ⟨m, hm, hkind⟩ := start_of_valid valid
    rw [hstart, hm] at hn
    cases hn
    rw [hk] at hkind
    cases hkind
  · exact hfinish

theorem target_of_edge (valid : g.problems = []) (he : e ∈ g.edges) :
    (g.node? e.target).isSome = true :=
  node?_isSome_iff.mpr ((problems_eq_nil_iff.mp valid).targets e he)

theorem target_of_nextEdge? (valid : g.problems = []) {branch : Option String}
    (h : (g.nextEdge? id branch).map Edge.target = some target) :
    (g.node? target).isSome = true := by
  obtain ⟨e, he, rfl⟩ := Option.map_eq_some_iff.mp h
  exact target_of_edge valid (nextEdge?_mem he)

end Graph

end Reroll
