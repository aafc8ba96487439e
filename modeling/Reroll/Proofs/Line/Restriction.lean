import Reroll.Proofs.Line.Known
import Reroll.Proofs.Line.Order

/-!
# Gathering with a catalog

A catalog picks from the lines that are gathered without one those that it knows, and leaves them in
their order (`gather_known`). What a catalog knows it still knows when texts are added to it
(`knows_foldl_add`).
-/

namespace Reroll

namespace Catalog

variable {c d : Catalog} {line : String}

theorem mem_add {f text : String} (h : f ∈ c.families) : f ∈ (c.add text).families := by
  unfold add
  dsimp only
  split
  · exact h
  · exact mem_insertSorted.mpr (.inr h)

theorem mem_foldl_add {f : String} (texts : List String) (h : f ∈ c.families) :
    f ∈ (texts.foldl add c).families := by
  induction texts generalizing c with
  | nil => exact h
  | cons text texts ih =>
    rw [List.foldl_cons]
    exact ih (mem_add h)

/-- With more families more lines are known. -/
theorem knows_mono (h : ∀ f ∈ c.families, f ∈ d.families) (hline : c.knows line = true) :
    d.knows line = true := by
  unfold knows at hline ⊢
  dsimp only at hline ⊢
  split at hline
  · cases hline
  · next hsome =>
    rw [if_neg hsome]
    rw [Bool.or_eq_true, List.contains_iff_mem, List.any_eq_true] at hline ⊢
    rcases hline with hmem | ⟨f, hf, hvouches⟩
    · exact .inl (h _ hmem)
    · exact .inr ⟨f, h f hf, hvouches⟩

theorem knows_foldl_add (texts : List String) (h : c.knows line = true) :
    (texts.foldl add c).knows line = true :=
  knows_mono (fun _ => mem_foldl_add texts) h

theorem size_foldl_add (texts : List String) (h : c.size ≠ 0) : (texts.foldl add c).size ≠ 0 := by
  obtain ⟨f, hf⟩ := List.exists_mem_of_length_pos (Nat.pos_of_ne_zero h)
  exact Nat.ne_of_gt (List.length_pos_of_mem (mem_foldl_add texts hf))

end Catalog

namespace Line

variable {t : Thresholds} {c : Catalog} {sets : List (List Reading)} {all : List Line}

theorem passes_of_empty (h : c.size = 0) (l : Line) : passes (some c) l = true := by
  simp [passes, isKnown, h]

theorem passes_of_nonempty (h : c.size ≠ 0) : passes (some c) = fun l => c.knows l.canonical := by
  funext l
  simp [passes, isKnown, h]

/-- The lines that pass are in the same order. -/
theorem gather_filter_ordered (known : Option Catalog) (numeric : t.Numeric)
    (measured : ∀ r ∈ sets.flatten, IsMeasured r) (h : gather sets none t = .ok all) :
    gather sets known t = .ok (all.filter (passes known)) := by
  obtain ⟨lines, hlines, hperm⟩ := gather_filter known h
  obtain ⟨_, hgather, hranked⟩ := gather_ranked known numeric sets measured
  obtain rfl := Except.ok.inj (hlines.symm.trans hgather)
  obtain ⟨_, hall, hordered⟩ := gather_ranked none numeric sets measured
  obtain rfl := Except.ok.inj (h.symm.trans hall)
  have hsame := eq_of_ordered hranked.ordered (hordered.ordered.filter (passes known))
    fun l => hperm.mem_iff
  rw [hlines, hsame]

/-- With a catalog that is empty the same lines are gathered as without one, and with any other
catalog those of them that it knows, in the same order. Texts that are added to it only let more
lines pass. -/
theorem gather_known (c : Catalog) (t : Thresholds) (sets : List (List Reading))
    (numeric : t.Numeric) (measured : ∀ r ∈ sets.flatten, IsMeasured r) :
    ∃ all, gather sets none t = .ok all ∧
      (c.size = 0 → gather sets (some c) t = .ok all) ∧
      (c.size ≠ 0 → gather sets (some c) t = .ok (all.filter fun l => c.knows l.canonical) ∧
        ∀ texts : List String, ∃ more, gather sets (some (texts.foldl Catalog.add c)) t = .ok more ∧
          (all.filter fun l => c.knows l.canonical).Sublist more) := by
  obtain ⟨all, hall, -⟩ := gather_ranked none numeric sets measured
  have hfilter := fun known => gather_filter_ordered known numeric measured hall
  refine ⟨all, hall, fun hempty => ?_, fun hsome => ⟨?_, fun texts => ?_⟩⟩
  · rw [hfilter (some c), List.filter_eq_self.mpr fun l _ => passes_of_empty hempty l]
  · rw [hfilter (some c), passes_of_nonempty hsome]
  · refine ⟨_, hfilter _, ?_⟩
    rw [passes_of_nonempty (Catalog.size_foldl_add texts hsome)]
    exact List.monotone_filter_right all fun l => Catalog.knows_foldl_add texts

/-- A second line of the tooltip, for which the catalog has no modifier at first. -/
def swift : Reading := { clear with text := .text "+20% increased Cast Speed" }

theorem gather_known_spell :
    let c : Catalog := ⟨["+# to level of all spell skills"]⟩
    (c.size ≠ 0 ∧ ∀ r ∈ [[swift], [clear]].flatten, IsMeasured r) ∧
    ∃ all, gather [[swift], [clear]] none {} = .ok all ∧
      gather [[swift], [clear]] (some c) {} = .ok (all.filter fun l => c.knows l.canonical) ∧
      (all.filter fun l => c.knows l.canonical).map Line.text =
        ["+6 to Level of all Spell Skills"] ∧
      ∃ more, gather [[swift], [clear]]
          (some (["#% increased Cast Speed"].foldl Catalog.add c)) {} = .ok more ∧
        (all.filter fun l => c.knows l.canonical).Sublist more := by
  intro c
  have hsome : c.size ≠ 0 := by decide
  have hmeasured : ∀ r ∈ [[swift], [clear]].flatten, IsMeasured r := by
    intro r hr
    rcases List.mem_pair.mp hr with rfl | rfl
    · exact ⟨⟨_, textFor_text ..⟩, clear_measured.2⟩
    · exact clear_measured
  obtain ⟨all, hall, -, hnonempty⟩ := gather_known c {} [[swift], [clear]] ⟨rfl, rfl⟩ hmeasured
  obtain ⟨hkept, hadded⟩ := hnonempty hsome
  have hspell : (gather [[swift], [clear]] (some c) {}).toOption.map (List.map Line.text) =
      some ["+6 to Level of all Spell Skills"] := by decide +kernel
  rw [hkept] at hspell
  exact ⟨⟨hsome, hmeasured⟩, all, hall, hkept, Option.some.inj hspell,
    hadded ["#% increased Cast Speed"]⟩

end Line

end Reroll
