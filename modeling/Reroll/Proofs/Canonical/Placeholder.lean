import Reroll.Proofs.Canonical.Template

/-!
# Placeholders of canonical templates

A character that the passes leave alone is there as often after them as before (`count_tidied`). So
a canonical template has the placeholders of its text, each once (`count_template`), and is canonical
text around them.
-/

namespace Reroll.Canonical

open Text (remark)

variable {c : Char} {cs : List Char} {inWord : Bool}

/-! ### Counting through the passes -/

theorem count_fold (letter : c ∉ "skillgem".toList) (dark : Text.isSpace c = false) :
    (foldFrom inWord 0 cs).count c = cs.count c := by
  induction inWord, cs using fold_induction with
  | nil inWord => rfl
  | keep inWord d cs none ih => rw [foldFrom_keep none, List.count_cons, List.count_cons, ih]
  | fold gem rest is ends ih =>
    have hgem : c ∉ gem := not_mem_skillGem is letter dark
    have hletters : ∀ d ∈ "skills".toList, d ∈ "skillgem".toList := Text.forall_of_all (by decide)
    have hskills : c ∉ "skills".toList := fun hc => letter (hletters c hc)
    rw [foldFrom_gem is ends, List.count_append, List.count_append, ih,
      List.count_eq_zero.mpr hgem, List.count_eq_zero.mpr hskills]

/-- A character that is neither a letter of skill gems nor blanked is kept by all passes. -/
theorem count_tidied {blank : Char → Char} (kept : ∀ d, blank d = c ↔ d = c)
    (letter : c ∉ "skillgem".toList) (dark : Text.isSpace c = false)
    (plain : isSeparator c = false) : (tidied blank cs).count c = cs.count c := by
  have hspace : ' ' ≠ c := by
    rintro rfl
    cases dark
  calc (tidied blank cs).count c
      = ((foldSkillGems (Text.squeeze isSeparator ' ' false cs)).map blank).count c := by
        rw [tidied, foldSkillGems, count_fold letter dark, Text.count_strip dark, squeezed,
          Text.count_squeeze dark hspace]
    _ = (foldSkillGems (Text.squeeze isSeparator ' ' false cs)).count c :=
        Text.count_map_eq fun d _ => kept d
    _ = cs.count c := by
        rw [foldSkillGems, count_fold letter dark, Text.count_squeeze plain hspace]

theorem count_marked : (marked cs).count '_' = cs.count '#' := by
  induction cs with
  | nil => rfl
  | cons c cs ih =>
    rw [marked, List.flatMap_cons, List.count_append, ← marked, ih]
    by_cases hc : c = '#'
    · rw [if_pos hc, hc, List.count_cons_self, List.count_cons_self, List.count_nil]
      omega
    · rw [if_neg hc, List.count_eq_zero.mpr (bar_not_mem_bare c), List.count_cons_of_ne hc]
      exact Nat.zero_add _

theorem count_skeleton : (skeleton cs).count '_' = cs.count '#' := by
  have hkept : ∀ c, blankedApart c = '_' ↔ c = '_' := fun c => blankedApart_eq_iff (.inl rfl)
  rw [skeleton, count_tidied hkept (by decide) (by decide) (by decide), count_marked]

/-- No placeholder is lost and none is added. -/
theorem count_template (tame : ¬reserved <:+: canonicalChars cs) :
    (canonicalTemplateChars placeholder.toList cs).count '#' = cs.count '#' := by
  by_cases mark : '#' ∈ cs
  · have hmark : ∀ c ∈ skeleton cs, remark '_' '#' c = '#' ↔ c = '_' := by
      intro c hc
      apply Text.remark_eq_new
      rintro rfl
      exact mark_not_mem_skeleton cs hc
    rw [template_eq mark tame, Text.count_map_eq hmark, count_skeleton]
  · rw [canonicalTemplateChars_eq, if_neg mark, List.count_eq_zero.mpr mark]
    exact List.count_eq_zero.mpr (not_mem_canonicalChars (by decide))

theorem mark_mem_template (mark : '#' ∈ cs) (tame : ¬reserved <:+: canonicalChars cs) :
    '#' ∈ canonicalTemplateChars placeholder.toList cs := by
  rw [← List.count_pos_iff, count_template tame]
  exact List.count_pos_iff.mpr mark

/-! ### Around the placeholders -/

namespace IsTemplate

theorem chars (template : IsTemplate cs) (h : c ∈ cs) : c = '#' ∨ isCanonicalChar c = true := by
  by_cases hc : c = '#'
  · exact .inl hc
  · exact .inr (template.normal.chars c (Text.mem_fill_of_mem h hc))

theorem first (template : IsTemplate cs) : cs.head? ≠ some ' ' := fun h =>
  template.normal.first ((Text.head?_fill (by decide) (by decide) (by decide)).mpr h)

theorem last (template : IsTemplate cs) : cs.getLast? ≠ some ' ' := fun h =>
  template.normal.last ((Text.getLast?_fill (by decide) (by decide) (by decide)).mpr h)

theorem single (template : IsTemplate cs) : ¬[' ', ' '] <:+: cs := by
  have hspace : ' ' ∉ standIn := by decide
  have hapart : ∀ c ∈ [' ', ' '], c ∉ standIn := by
    intro c hc
    obtain rfl : c = ' ' := by simpa using hc
    exact hspace
  intro h
  exact template.normal.single ((Text.infix_fill (by decide) hapart (by decide)).mpr h)

end IsTemplate

end Reroll.Canonical
