import Reroll.Proofs.Line.Order
import Reroll.Proofs.Modifier.Match

/-!
# The match is the best one

The search for a match goes through the lines that were gathered: one for each canonical text, in
the order of their places. Comparisons look at canonical texts alone, so the lines that were merged
away would have matched the same targets, and the first line that matches has the best standing of
all lines that do. What is found is therefore told by the readings without merging or ranking
(`find_gathered`).
-/

namespace Reroll

namespace Content

/-- The order of lines across canonical texts: more confident first, then longer, then the first
canonical text, then the first text. -/
def standing (c : Content) : ℚ ×ₗ ℤ ×ₗ String ×ₗ String :=
  toLex (-c.confidence, toLex (-(c.text.length : ℤ), toLex (c.canonical, c.text)))

variable {c d : Content}

theorem standing_lt : c.standing < d.standing ↔ d.confidence < c.confidence ∨
    c.confidence = d.confidence ∧ (d.text.length < c.text.length ∨
      c.text.length = d.text.length ∧ (c.canonical < d.canonical ∨
        c.canonical = d.canonical ∧ c.text < d.text)) := by
  simp [standing, Prod.Lex.toLex_lt_toLex]

theorem standing_lt_of_key (h : c.key < d.key) : c.standing < d.standing := by
  rw [standing_lt]
  rcases place_lt.mp h with hconfidence | ⟨hconfidence, hlength | ⟨hlength, hcanonical⟩⟩
  · exact .inl hconfidence
  · exact .inr ⟨hconfidence, .inl hlength⟩
  · exact .inr ⟨hconfidence, .inr ⟨hlength, .inl hcanonical⟩⟩

theorem standing_le_of_choice (hcanonical : c.canonical = d.canonical) (h : c.choice ≤ d.choice) :
    c.standing ≤ d.standing := by
  rcases h.lt_or_eq with hlt | heq
  · refine le_of_lt (standing_lt.mpr ?_)
    rcases place_lt.mp hlt with hconfidence | ⟨hconfidence, hlength | ⟨hlength, htext⟩⟩
    · exact .inl hconfidence
    · exact .inr ⟨hconfidence, .inl hlength⟩
    · exact .inr ⟨hconfidence, .inr ⟨hlength, .inr ⟨hcanonical, htext⟩⟩⟩
  · rw [eq_of_choice hcanonical heq]

end Content

namespace Match

variable {e : Exclusion} {word : String} {P : Line → Prop} {lines : List Line} {specs : List Spec}

/-- The line satisfies the target. -/
def Satisfies (e : Exclusion) (l : Line) (s : Spec) : Prop := s.accepts e l.canonical = .ok true

theorem not_satisfies {l : Line} {s : Spec} (h : s.accepts e l.canonical = .ok false) :
    ¬ Satisfies e l s := by
  rw [Satisfies, h]
  simp

/-- A target that none of the lines kept satisfies is satisfied by none of the lines drawn. -/
theorem not_satisfies_of_kept (ranked : Line.Ranked P lines) {s : Spec}
    (h : ∀ l ∈ lines, s.accepts e l.canonical = .ok false) {k : Line} (hk : P k) :
    ¬ Satisfies e k s := by
  obtain ⟨l, hl, hcanonical, -⟩ := ranked.kept.best k hk
  rw [Satisfies, ← hcanonical]
  exact not_satisfies (h l hl)

/-- The first of the lines kept that satisfies a target has the best standing of all the lines
drawn that do. -/
theorem standing_le_of_first (ranked : Line.Ranked P lines) {specAt : Nat} {m : Match}
    (first : IsFirst e lines specAt specs m) {k : Line} (hk : P k) (hmet : Satisfies e k m.spec) :
    m.line.content.standing ≤ k.content.standing := by
  obtain ⟨before, after, hlines, -, hbefore⟩ := first.lines_before
  obtain ⟨l, hl, hcanonical, hgood⟩ := ranked.kept.best k hk
  have hle : l.content.standing ≤ k.content.standing :=
    Content.standing_le_of_choice hcanonical hgood
  have hordered := ranked.ordered
  rw [hlines] at hl hordered
  rcases List.mem_append.mp hl with hl | hl
  · rw [Satisfies, ← hcanonical, hbefore l hl] at hmet
    simp at hmet
  · rcases List.mem_cons.mp hl with rfl | hl
    · exact hle
    · have hkey : m.line.content.key < l.content.key :=
        List.rel_of_pairwise_cons (List.pairwise_append.mp hordered).2.1 hl
      exact (Content.standing_lt_of_key hkey).le.trans hle

/-- A target that the two readings of a line have no part in, and one that both satisfy. -/
def fireResistance : Spec := .plain "to Fire Resistance"

def spellLevels : Spec where
  pattern := "+# to Level of all Spell Skills"
  low := some (.int 5)
  ranged := true

end Match

end Reroll
