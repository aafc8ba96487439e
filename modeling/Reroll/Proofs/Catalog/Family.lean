import Reroll.Catalog.Family
import Reroll.Proofs.Canonical.Template

/-!
# Families of families

Writing a placeholder for a number, or one for several, leaves a canonical template one (`Marks`).
So a family, which has neither numbers nor neighbouring placeholders left, is its own family, also
between quotes and commas (`IsFamily.familyChars_quoted`).
-/

namespace Reroll.Catalog

open Canonical
open Text (fill)

variable {c : Char} {cs out rest run v : List Char} {inWord : Bool}

/-! ### Placeholders for pieces of a text -/

/-- Pieces of a text, each of which ends a word or with a placeholder, are written as
placeholders. -/
inductive Marks : List Char → List Char → Prop
  | nil : Marks [] []
  | keep {c : Char} {cs out : List Char} (h : Marks cs out) : Marks (c :: cs) (c :: out)
  | run {run rest out : List Char} (word : ∀ inWord, afterWord inWord (fill '#' standIn run) = true)
    (h : Marks rest out) : Marks (run ++ rest) ('#' :: out)

namespace Marks

/-- What is no placeholder was there before. -/
theorem unfold (h : Marks cs (c :: out)) (hc : c ≠ '#') :
    ∃ more, cs = c :: more ∧ Marks more out := by
  generalize hout : c :: out = whole at h
  cases h with
  | nil => cases hout
  | keep h =>
    cases hout
    exact ⟨_, rfl, h⟩
  | run word h =>
    cases hout
    exact absurd rfl hc

theorem unfold_append (pre : List Char) (hpre : '#' ∉ pre) (h : Marks cs (pre ++ out)) :
    ∃ more, cs = pre ++ more ∧ Marks more out := by
  induction pre generalizing cs with
  | nil => exact ⟨cs, rfl, h⟩
  | cons c pre ih =>
    rw [List.mem_cons, not_or] at hpre
    obtain ⟨next, rfl, hnext⟩ := h.unfold (Ne.symm hpre.1)
    obtain ⟨more, rfl, hmore⟩ := ih hpre.2 hnext
    exact ⟨more, rfl, hmore⟩

theorem mem (h : Marks cs out) (hc : c ∈ out) : c = '#' ∨ c ∈ cs := by
  induction h with
  | nil => cases hc
  | keep h ih =>
    rcases List.mem_cons.mp hc with rfl | hc
    · exact .inr (List.mem_cons_self ..)
    · exact (ih hc).imp_right (List.mem_cons_of_mem _)
  | run word h ih =>
    rcases List.mem_cons.mp hc with rfl | hc
    · exact .inl rfl
    · exact (ih hc).imp_right (List.mem_append_right _)

theorem infix_of (hmark : '#' ∉ v) (h : Marks cs out) (hv : v <:+: out) : v <:+: cs := by
  have hprefix : ∀ {cs out}, Marks cs out → v <+: out → v <:+: cs := by
    rintro cs _ h ⟨after, rfl⟩
    obtain ⟨more, rfl, -⟩ := h.unfold_append v hmark
    exact (List.prefix_append v more).isInfix
  induction h with
  | nil => exact hv
  | keep h ih =>
    rcases List.infix_cons_iff.mp hv with hv | hv
    · exact hprefix h.keep hv
    · exact (ih hv).trans (List.suffix_cons ..).isInfix
  | run word h ih =>
    rcases List.infix_cons_iff.mp hv with hv | hv
    · exact hprefix (h.run word) hv
    · exact (ih hv).trans (List.suffix_append ..).isInfix

theorem head? (h : Marks cs out) (hc : out.head? = some c) : c = '#' ∨ cs.head? = some c := by
  cases h with
  | nil => cases hc
  | keep h => exact .inr hc
  | run word h => exact .inl (Option.some.inj hc).symm

theorem eq_nil (h : Marks cs []) : cs = [] := by
  cases h with
  | nil => rfl

theorem getLast? (h : Marks cs out) (hc : out.getLast? = some c) :
    c = '#' ∨ cs.getLast? = some c := by
  induction h with
  | nil => cases hc
  | @keep d cs out h ih =>
    rw [List.getLast?_cons] at hc ⊢
    cases hlast : out.getLast? with
    | none =>
      rw [List.getLast?_eq_none_iff] at hlast
      subst hlast
      rw [h.eq_nil]
      exact .inr hc
    | some e =>
      rw [hlast] at hc
      rcases ih (hlast.trans hc) with hmark | hlast'
      · exact .inl hmark
      · rw [hlast']
        exact .inr rfl
  | @run run rest out word h ih =>
    rw [List.getLast?_cons] at hc
    cases hlast : out.getLast? with
    | none =>
      rw [hlast] at hc
      exact .inl (Option.some.inj hc).symm
    | some e =>
      rw [hlast] at hc
      rcases ih (hlast.trans hc) with hmark | hlast'
      · exact .inl hmark
      · rw [List.getLast?_append, hlast']
        exact .inr rfl

/-! ### Canonical templates stay canonical -/

theorem ends (h : Marks cs out) (hends : EndsBefore (fill '#' standIn out)) :
    EndsBefore (fill '#' standIn cs) := by
  cases h with
  | nil => exact hends
  | @keep c cs out h =>
    by_cases hc : c = '#'
    · subst hc
      rw [Text.fill_mark] at hends ⊢
      exact hends
    · rw [Text.fill_other hc] at hends ⊢
      exact hends
  | run word h =>
    rw [Text.fill_mark] at hends
    have hz : Text.isWord 'z' = true := by decide
    exact absurd (hends.symm.trans hz) Bool.false_ne_true

/-- No skill gem comes up: where one starts nothing has been written. -/
theorem occurs (h : Marks cs out) (hoccurs : Occurs inWord (fill '#' standIn out)) :
    Occurs inWord (fill '#' standIn cs) := by
  have hword : ∀ c ∈ standIn, Text.isWord c = true := Text.forall_of_all (by decide)
  have hstart : ∀ {inWord out}, Occurs inWord (standIn ++ out) → Occurs true out := by
    intro inWord out hoccurs
    rcases occurs_cons.mp hoccurs with ⟨-, size, hsize⟩ | hlater
    · cases skillGemSize?_head hsize
    · exact occurs_of_word standIn.tail (fun c hc => hword c (List.mem_of_mem_tail hc)) hlater
  induction h generalizing inWord with
  | nil => exact hoccurs
  | @keep c cs out h ih =>
    by_cases hc : c = '#'
    · subst hc
      rw [Text.fill_mark] at hoccurs ⊢
      have hafter : ∀ inWord, afterWord inWord standIn = true := by decide
      refine occurs_append standIn ?_
      rw [hafter]
      exact ih (hstart hoccurs)
    · rw [Text.fill_other hc] at hoccurs ⊢
      rcases occurs_cons.mp hoccurs with ⟨rfl, size, hsize⟩ | hlater
      · obtain ⟨gem, rest, hsplit, -, is, hends⟩ := skillGemSize?_some hsize
        have hz : 'z' ∉ gem := not_mem_skillGem is (by decide) (by decide)
        have hmark : '#' ∉ gem := not_mem_skillGem is (by decide) (by decide)
        rw [← Text.fill_other hc] at hsplit ⊢
        obtain ⟨more, hmore, rfl⟩ := Text.fill_split gem hz hsplit
        have hmarks := h.keep (c := c)
        rw [hmore] at hmarks
        obtain ⟨before, hbefore, hmarks⟩ := hmarks.unfold_append gem hmark
        rw [hbefore, Text.fill_append, Text.fill_eq_self hmark]
        exact .here is (hmarks.ends hends)
      · exact .later (ih hlater)
  | run word h ih =>
    rw [Text.fill_mark] at hoccurs
    rw [Text.fill_append]
    refine occurs_append _ ?_
    rw [word]
    exact ih (hstart hoccurs)

theorem isNormal (h : Marks cs out) (normal : IsNormal (fill '#' standIn cs)) :
    IsNormal (fill '#' standIn out) := by
  have hchars : ∀ c ∈ standIn, isCanonicalChar c = true := Text.forall_of_all (by decide)
  have hhead : ∀ cs, (fill '#' standIn cs).head? = some ' ' ↔ cs.head? = some ' ' := fun cs =>
    Text.head?_fill (by decide) (by decide) (by decide)
  have hlast : ∀ cs, (fill '#' standIn cs).getLast? = some ' ' ↔ cs.getLast? = some ' ' := fun cs =>
    Text.getLast?_fill (by decide) (by decide) (by decide)
  have hsingle : ∀ cs, [' ', ' '] <:+: fill '#' standIn cs ↔ [' ', ' '] <:+: cs := fun cs =>
    Text.infix_fill (by decide) (Text.forall_of_all (by decide)) (by decide)
  refine ⟨fun c hc => ?_, fun hblank => ?_, fun hblank => ?_, fun hblanks => ?_, ?_⟩
  · rcases Text.mem_fill hc with hc | ⟨hc, hmark⟩
    · exact hchars c hc
    · have hmem : c ∈ cs := (h.mem hc).resolve_left hmark
      exact normal.chars c (Text.mem_fill_of_mem hmem hmark)
  · have hbefore := (h.head? ((hhead out).mp hblank)).resolve_left (by decide)
    exact normal.first ((hhead cs).mpr hbefore)
  · have hbefore := (h.getLast? ((hlast out).mp hblank)).resolve_left (by decide)
    exact normal.last ((hlast cs).mpr hbefore)
  · have hbefore := h.infix_of (by decide) ((hsingle out).mp hblanks)
    exact normal.single ((hsingle cs).mpr hbefore)
  · exact folded_of_not_occurs fun hoccurs => normal.not_occurs (h.occurs hoccurs)

theorem isTemplate (h : Marks cs out) (template : IsTemplate cs) : IsTemplate out :=
  ⟨h.isNormal template.normal, fun hv => template.free (h.infix_of (by decide) hv)⟩

end Marks

/-! ### Numbers -/

theorem word_of_getLast? (hlast : run.getLast? = some c) (hc : c = '#' ∨ Text.isWord c = true)
    (inWord : Bool) : afterWord inWord (fill '#' standIn run) = true := by
  obtain ⟨init, rfl⟩ : ∃ init, run = init ++ [c] := by
    rcases List.eq_nil_or_concat run with rfl | ⟨init, d, rfl⟩
    · cases hlast
    · rw [List.concat_eq_append, List.getLast?_append] at hlast
      obtain rfl : d = c := Option.some.inj hlast
      exact ⟨init, List.concat_eq_append ..⟩
  have happend : ∀ as bs, afterWord inWord (as ++ bs) = afterWord (afterWord inWord as) bs :=
    fun as bs => List.foldl_append
  rw [Text.fill_append, happend]
  rcases hc with rfl | hc
  · rw [Text.fill_mark]
    cases afterWord inWord (fill '#' standIn init) <;> decide
  · by_cases hmark : c = '#'
    · rw [hmark, Text.fill_mark]
      cases afterWord inWord (fill '#' standIn init) <;> decide
    · rw [Text.fill_other hmark]
      exact hc

/-- A number ends with a digit. -/
theorem number_split (cs : List Char) (h : Text.isDigit c = true) :
    ∃ number d rest, c :: cs = number ++ rest ∧ number.length = numberSize (c :: cs) ∧
      number.getLast? = some d ∧ Text.isDigit d = true := by
  have hlast : ∀ before cs : List Char, cs.takeWhile Text.isDigit ≠ [] → ∃ d,
      (before ++ cs.takeWhile Text.isDigit).getLast? = some d ∧ Text.isDigit d = true := by
    intro before cs hne
    refine ⟨_, ?_, List.mem_takeWhile_imp (List.getLast_mem hne)⟩
    rw [List.getLast?_append, List.getLast?_eq_some_getLast hne]
    rfl
  have hsplit : ∀ cs : List Char, cs = cs.takeWhile Text.isDigit ++
      cs.drop (cs.takeWhile Text.isDigit).length := fun cs =>
    (List.prefix_iff_eq_append.mp (List.takeWhile_prefix _)).symm
  have hwhole : (c :: cs).takeWhile Text.isDigit ≠ [] := by
    rw [List.takeWhile_cons_of_pos h]
    nofun
  obtain ⟨d, hd, hdigit⟩ := hlast [] (c :: cs) hwhole
  have hbare := hsplit (c :: cs)
  unfold numberSize
  generalize (c :: cs).takeWhile Text.isDigit = whole at hwhole hd hbare ⊢
  dsimp only
  split
  · next rest hrest =>
    split
    · exact ⟨whole, d, _, hbare, rfl, hd, hdigit⟩
    · next hfraction =>
      have hne : rest.takeWhile Text.isDigit ≠ [] := fun hnil => hfraction (by rw [hnil]; rfl)
      obtain ⟨e, he, hedigit⟩ := hlast (whole ++ ['.']) rest hne
      refine ⟨whole ++ ['.'] ++ rest.takeWhile Text.isDigit, e,
        rest.drop (rest.takeWhile Text.isDigit).length, ?_, ?_, he, hedigit⟩
      · rw [List.append_assoc, List.append_assoc, ← hsplit rest]
        rw [hrest] at hbare
        exact hbare
      · simp only [List.length_append, List.length_singleton]
  · exact ⟨whole, d, _, hbare, rfl, hd, hdigit⟩

theorem markNumbersFrom_skip (skipped : List Char) :
    markNumbersFrom skipped.length (skipped ++ rest) = markNumbersFrom 0 rest := by
  induction skipped with
  | nil => rfl
  | cons c skipped ih =>
    rw [List.length_cons, List.cons_append, markNumbersFrom]
    exact ih

theorem markNumbers_marks (chars : ∀ c ∈ cs, Text.isDigit c = true → Text.isWord c = true) :
    Marks cs (markNumbersFrom 0 cs) ∧ ∀ c ∈ markNumbersFrom 0 cs, Text.isDigit c = false := by
  induction hlength : cs.length using Nat.strongRecOn generalizing cs with
  | _ length ih =>
    subst hlength
    cases cs with
    | nil => exact ⟨.nil, nofun⟩
    | cons c cs =>
      rw [markNumbersFrom]
      cases hdigit : Text.isDigit c with
      | true =>
        obtain ⟨number, d, rest, hsplit, hsize, hlast, hd⟩ := number_split cs hdigit
        rw [if_pos rfl, ← hsize]
        cases number with
        | nil => cases hlast
        | cons e number =>
          obtain ⟨rfl, hcs⟩ := List.cons.inj hsplit
          have hcs : cs = number ++ rest := hcs
          subst hcs
          rw [List.length_cons, Nat.add_sub_cancel, markNumbersFrom_skip]
          have hshorter : rest.length < (c :: (number ++ rest)).length := by
            rw [List.length_cons, List.length_append]
            omega
          have hrest := ih rest.length hshorter (fun c hc => chars c (by simp [hc])) rfl
          have hword : Text.isWord d = true := by
            refine chars d ?_ hd
            exact List.mem_append_left rest (List.mem_of_getLast? hlast)
          refine ⟨.run (word_of_getLast? hlast (.inr hword)) hrest.1, fun c hc => ?_⟩
          rcases List.mem_cons.mp hc with rfl | hc
          · decide +kernel
          · exact hrest.2 c hc
      | false =>
        have hrest := ih cs.length (by simp) (fun c hc => chars c (List.mem_cons_of_mem _ hc)) rfl
        rw [if_neg Bool.false_ne_true]
        refine ⟨hrest.1.keep, fun d hd => ?_⟩
        rcases List.mem_cons.mp hd with rfl | hd
        · exact hdigit
        · exact hrest.2 d hd

theorem markNumbers_eq_self (none : ∀ c ∈ cs, Text.isDigit c = false) :
    markNumbersFrom 0 cs = cs := by
  induction cs with
  | nil => rfl
  | cons c cs ih =>
    obtain ⟨hc, hrest⟩ := List.forall_mem_cons.mp none
    rw [markNumbersFrom, if_neg (Bool.eq_false_iff.mp hc), ih hrest]

/-! ### Neighbouring placeholders -/

/-- No placeholder comes next, blanks apart. -/
def Apart (cs : List Char) : Prop := (cs.dropWhile Text.isSpace).head? ≠ some '#'

theorem apart_cons (h : Text.isSpace c = true) : Apart (c :: cs) ↔ Apart cs := by
  unfold Apart
  rw [List.dropWhile_cons_of_pos h]

theorem apart_other (hspace : Text.isSpace c = false) (hc : c ≠ '#') : Apart (c :: cs) := by
  unfold Apart
  rw [List.dropWhile_cons_of_neg (Bool.eq_false_iff.mp hspace)]
  exact fun h => hc (Option.some.inj h)

theorem not_apart : ¬Apart ('#' :: cs) := fun h => h rfl

/-- A run of placeholders ends with one, and none follows. -/
theorem placeholderRun_split (seen pending : Nat) (cs : List Char) :
    ∃ run rest, cs = run ++ rest ∧ Apart rest ∧
      ((run = [] ∧ placeholderRun seen pending cs = seen) ∨
        (run.getLast? = some '#' ∧
          placeholderRun seen pending cs = seen + pending + run.length)) := by
  induction cs generalizing seen pending with
  | nil => exact ⟨[], [], rfl, nofun, .inl ⟨rfl, rfl⟩⟩
  | cons c cs ih =>
    rw [placeholderRun]
    by_cases hc : c = '#'
    · subst hc
      obtain ⟨run, rest, rfl, hrest, ⟨rfl, hsize⟩ | ⟨hlast, hsize⟩⟩ := ih (seen + pending + 1) 0
      · refine ⟨['#'], rest, rfl, hrest, .inr ⟨rfl, ?_⟩⟩
        rw [if_pos rfl, hsize]
        rfl
      · refine ⟨'#' :: run, rest, rfl, hrest, .inr ⟨?_, ?_⟩⟩
        · rw [List.getLast?_cons, hlast]
          rfl
        · rw [if_pos rfl, hsize, List.length_cons]
          omega
    · rw [if_neg hc]
      cases hspace : Text.isSpace c with
      | true =>
        obtain ⟨run, rest, rfl, hrest, ⟨rfl, hsize⟩ | ⟨hlast, hsize⟩⟩ := ih seen (pending + 1)
        · exact ⟨[], c :: rest, rfl, (apart_cons hspace).mpr hrest, .inl ⟨rfl, hsize⟩⟩
        · refine ⟨c :: run, rest, rfl, hrest, .inr ⟨?_, ?_⟩⟩
          · rw [List.getLast?_cons, hlast]
            rfl
          · rw [if_pos rfl, hsize, List.length_cons]
            omega
      | false => exact ⟨[], c :: cs, rfl, apart_other hspace hc, .inl ⟨rfl, rfl⟩⟩

theorem placeholderRun_apart {seen pending : Nat} (h : Apart cs) :
    placeholderRun seen pending cs = seen := by
  induction cs generalizing pending with
  | nil => rfl
  | cons c cs ih =>
    rw [placeholderRun]
    have hc : c ≠ '#' := by
      rintro rfl
      exact not_apart h
    rw [if_neg hc]
    split
    · next hspace => exact ih ((apart_cons hspace).mp h)
    · rfl

theorem mergeFrom_skip (skipped : List Char) :
    mergeFrom skipped.length (skipped ++ rest) = mergeFrom 0 rest := by
  induction skipped with
  | nil => rfl
  | cons c skipped ih =>
    rw [List.length_cons, List.cons_append, mergeFrom]
    exact ih

theorem mergeFrom_other (hc : c ≠ '#') : mergeFrom 0 (c :: cs) = c :: mergeFrom 0 cs := by
  rw [mergeFrom, if_neg hc]

/-- A text is empty, or a character stays, or a run of placeholders becomes one. -/
theorem merge_induction {motive : List Char → Prop} (nil : motive [])
    (keep : ∀ c cs, c ≠ '#' → motive cs → motive (c :: cs))
    (merge : ∀ run rest, run.getLast? = some '#' → Apart rest →
      mergeFrom 0 (run ++ rest) = '#' :: mergeFrom 0 rest → motive rest → motive (run ++ rest)) :
    ∀ cs, motive cs := by
  intro cs
  induction hlength : cs.length using Nat.strongRecOn generalizing cs with
  | _ length ih =>
    subst hlength
    cases cs with
    | nil => exact nil
    | cons c cs =>
      by_cases hc : c = '#'
      · subst hc
        obtain ⟨run, rest, rfl, hrest, hrun⟩ := placeholderRun_split 0 0 cs
        have hsize : placeholderRun 0 0 (run ++ rest) = run.length := by
          rcases hrun with ⟨rfl, hsize⟩ | ⟨-, hsize⟩
          · exact hsize
          · rw [hsize]
            omega
        have hlast : ('#' :: run).getLast? = some '#' := by
          rw [List.getLast?_cons]
          rcases hrun with ⟨rfl, -⟩ | ⟨hlast, -⟩
          · rfl
          · rw [hlast]
            rfl
        have hmerge : mergeFrom 0 ('#' :: run ++ rest) = '#' :: mergeFrom 0 rest := by
          rw [List.cons_append, mergeFrom, if_pos rfl, hsize, mergeFrom_skip]
        have hshorter : rest.length < ('#' :: (run ++ rest)).length := by
          rw [List.length_cons, List.length_append]
          omega
        exact merge ('#' :: run) rest hlast hrest hmerge (ih rest.length hshorter rest rfl)
      · exact keep c cs hc (ih cs.length (by simp) cs rfl)

theorem merge_marks (cs : List Char) : Marks cs (mergeFrom 0 cs) := by
  induction cs using merge_induction with
  | nil => exact .nil
  | keep c cs hc ih =>
    rw [mergeFrom_other hc]
    exact ih.keep
  | merge run rest hlast hrest hmerge ih =>
    rw [hmerge]
    exact .run (word_of_getLast? hlast (.inl rfl)) ih

theorem merge_apart (h : Apart cs) : Apart (mergeFrom 0 cs) := by
  induction cs with
  | nil => exact h
  | cons c cs ih =>
    have hc : c ≠ '#' := by
      rintro rfl
      exact not_apart h
    rw [mergeFrom_other hc]
    cases hspace : Text.isSpace c with
    | true => exact (apart_cons hspace).mpr (ih ((apart_cons hspace).mp h))
    | false => exact apart_other hspace hc

theorem merge_merge (cs : List Char) : mergeFrom 0 (mergeFrom 0 cs) = mergeFrom 0 cs := by
  induction cs using merge_induction with
  | nil => rfl
  | keep c cs hc ih => rw [mergeFrom_other hc, mergeFrom_other hc, ih]
  | merge run rest hlast hrest hmerge ih =>
    rw [hmerge, mergeFrom, if_pos rfl, placeholderRun_apart (merge_apart hrest), ih]

/-! ### Families -/

/-- A family: a canonical template without numbers or neighbouring placeholders. -/
structure IsFamily (cs : List Char) : Prop where
  template : IsTemplate cs
  numberless : ∀ c ∈ cs, Text.isDigit c = false
  merged : mergeFrom 0 cs = cs

/-- What a text has for its family is one. -/
theorem isFamily (tame : ¬reserved <:+: canonicalChars cs) : IsFamily (familyChars cs) := by
  have htemplate := isTemplate tame
  unfold familyChars
  generalize canonicalTemplateChars placeholder.toList cs = cs at htemplate
  have hword : ∀ c, isCanonicalChar c = true → Text.isDigit c = true → Text.isWord c = true :=
    forall_canonical (by decide +kernel)
  have hchars : ∀ c ∈ cs, Text.isDigit c = true → Text.isWord c = true := by
    intro c hc hdigit
    have hmark : c ≠ '#' := by
      rintro rfl
      revert hdigit
      decide +kernel
    have hcanonical := htemplate.normal.chars c (Text.mem_fill_of_mem hc hmark)
    exact hword c hcanonical hdigit
  obtain ⟨hmarks, hnumberless⟩ := markNumbers_marks hchars
  generalize markNumbersFrom 0 cs = marked at hmarks hnumberless
  refine ⟨(merge_marks marked).isTemplate (hmarks.isTemplate htemplate), fun c hc => ?_,
    merge_merge marked⟩
  rcases (merge_marks marked).mem hc with rfl | hc
  · decide +kernel
  · exact hnumberless c hc

/-- A family is its own family, also between quotes and commas. -/
theorem IsFamily.familyChars_quoted (h : IsFamily cs) {before after : List Char}
    (hbefore : IsQuoting before) (hafter : IsQuoting after) :
    familyChars (before ++ cs ++ after) = cs := by
  unfold familyChars
  rw [h.template.canonical_quoted hbefore hafter, markNumbers_eq_self h.numberless, h.merged]

end Reroll.Catalog
