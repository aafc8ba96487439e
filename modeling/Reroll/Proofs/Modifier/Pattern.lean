import Reroll.Proofs.Canonical.Refold
import Reroll.Proofs.Modifier.Instance

/-!
# Patterns and their templates

A target may be given by any pattern with the same template, such as the template itself: a plain
target reads the canonical form of its pattern, which the template has as well
(`canonicalChars_template`), and a target with bounds reads the template, which is its own
(`template_template`).
-/

namespace Reroll

namespace Canonical

open Text (remark)

variable {cs : List Char}

theorem template_template (tame : ¬reserved <:+: canonicalChars cs) :
    canonicalTemplateChars placeholder.toList (canonicalTemplateChars placeholder.toList cs) =
      canonicalTemplateChars placeholder.toList cs := by
  have hquoted : canonicalTemplateChars placeholder.toList
      ([] ++ canonicalTemplateChars placeholder.toList cs ++ []) = _ :=
    (isTemplate tame).canonical_quoted nofun nofun
  rwa [List.nil_append, List.append_nil] at hquoted

theorem bare_template :
    ((skeleton cs).map (remark '_' '#')).flatMap bare = (skeleton cs).map (remark '_' '#') := by
  apply bare_eq_self
  intro c hc
  obtain ⟨d, hd, rfl⟩ := List.mem_map.mp hc
  by_cases hmark : d = '_'
  · rw [remark, if_pos hmark]
    decide +kernel
  · rw [remark, if_neg hmark]
    exact bare_canonical ((mem_skeleton hd).resolve_left hmark)

/-- Blanks for placeholders are blanks for marks. -/
theorem blanked_template :
    ((skeleton cs).map (remark '_' '#')).map blanked = (skeleton cs).map (remark '_' ' ') := by
  rw [List.map_map]
  apply List.map_congr_left
  intro d hd
  by_cases hmark : d = '_'
  · rw [hmark]
    decide
  · have hcanonical := (mem_skeleton hd).resolve_left hmark
    simp only [Function.comp_apply, remark, if_neg hmark, blanked, if_pos hcanonical]

/-- The placeholders of a template are blanked where it has been folded already, those of the
pattern before any fold. -/
theorem canonicalChars_template (tame : ¬reserved <:+: canonicalChars cs) :
    canonicalChars (canonicalTemplateChars placeholder.toList cs) = canonicalChars cs := by
  by_cases mark : '#' ∈ cs
  · rw [template_eq mark tame, canonicalChars_eq_tidy, bare_template, blanked_template,
      ← canonicalChars_eq_skeleton]
  · rw [canonicalTemplateChars_eq, if_neg mark, (canonicalChars_normal cs).canonicalChars_eq]

end Canonical

namespace Spec

open Canonical

variable {s : Spec} {e : Exclusion} {text : List Char}

/-- A plain target depends on the canonical form of its pattern. -/
theorem matchesPlain_congr {t : Spec}
    (h : canonicalChars t.pattern.toList = canonicalChars s.pattern.toList) :
    t.matchesPlain e text = s.matchesPlain e text := by
  unfold matchesPlain
  rw [h]

/-- Bounds admit the same values, whatever the pattern. -/
theorem admits_congr {t : Spec} (hlow : t.low = s.low) (hhigh : t.high = s.high) (n : ℤ) :
    t.admits n = s.admits n := by
  unfold admits
  rw [hlow, hhigh]

theorem anyAdmitted_congr {t : Spec} (hadmits : ∀ n, t.admits n = s.admits n)
    (groups : List (List Char)) : t.anyAdmitted groups = s.anyAdmitted groups := by
  induction groups with
  | nil => rfl
  | cons digits groups ih => simp only [anyAdmitted, ih, hadmits]

/-- A target with bounds depends on those and on the template of its pattern. -/
theorem matchesRanged_congr {t : Spec} (hadmits : ∀ n, t.admits n = s.admits n)
    (h : canonicalTemplateChars placeholder.toList t.pattern.toList =
      canonicalTemplateChars placeholder.toList s.pattern.toList) :
    t.matchesRanged e text = s.matchesRanged e text := by
  unfold matchesRanged
  rw [h]
  simp only [anyAdmitted_congr hadmits, hadmits]

/-- A target accepts the same texts when its pattern is made canonical. -/
theorem accepts_canonicalTemplate (s : Spec) (e : Exclusion) (text : String)
    (tame : ¬reserved <:+: canonicalChars s.pattern.toList) :
    ({ s with pattern := canonicalTemplate s.pattern } : Spec).accepts e text = s.accepts e text ∧
      canonical (canonicalTemplate s.pattern) = canonical s.pattern := by
  have hchars : (canonicalTemplate s.pattern).toList =
      canonicalTemplateChars placeholder.toList s.pattern.toList := String.toList_ofList
  have hcanonical : canonicalChars (canonicalTemplate s.pattern).toList =
      canonicalChars s.pattern.toList := by
    rw [hchars, canonicalChars_template tame]
  have htemplate : canonicalTemplateChars placeholder.toList (canonicalTemplate s.pattern).toList =
      canonicalTemplateChars placeholder.toList s.pattern.toList := by
    rw [hchars, template_template tame]
  let t : Spec := { s with pattern := canonicalTemplate s.pattern }
  have hplain : t.matchesPlain e text.toList = s.matchesPlain e text.toList :=
    matchesPlain_congr hcanonical
  have hranged : t.matchesRanged e text.toList = s.matchesRanged e text.toList :=
    matchesRanged_congr (admits_congr rfl rfl) htemplate
  constructor
  · show t.accepts e text = s.accepts e text
    unfold accepts
    rw [hplain, hranged]
  · rw [canonical, canonical, hcanonical]

/-- The placeholder keeps a skill and its gems apart, and they are one word without it. -/
theorem accepts_canonicalTemplate_gems :
    let s : Spec := .plain "+# to Level of all Spell Skill # Gems"
    let line := "+6 to level of all spell skills"
    ¬reserved <:+: canonicalChars s.pattern.toList ∧
      canonicalTemplate s.pattern = "+# to level of all spell skill # gems" ∧
      ({ s with pattern := canonicalTemplate s.pattern } : Spec).accepts {} line =
        s.accepts {} line ∧
      canonical (canonicalTemplate s.pattern) = canonical s.pattern := by
  intro s line
  have tame : ¬reserved <:+: canonicalChars s.pattern.toList := by decide +kernel
  exact ⟨tame, by decide +kernel, accepts_canonicalTemplate s {} line tame⟩

end Spec

end Reroll
