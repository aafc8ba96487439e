import Reroll.Proofs.Catalog.Saved
import Reroll.Proofs.Modifier.Amount

/-!
# Families of instances

A template keeps its placeholders when it is made canonical and an instance its numbers, for which
the family has placeholders again. A number that stands beside neither a point nor a digit is marked
as a whole (`markNumbers_fillBy`), so an instance has the family of its template
(`familyChars_instance`), and also when it was made canonical before.
-/

namespace Reroll.Catalog

open Canonical
open Text (fillBy)

variable {a c : Char} {cs as bs number rest : List Char} {words : ℕ → List Char}

/-! ### Placeholders that stand alone -/

/-- A number does not end where this character begins. -/
def Joins (c : Char) : Prop := Text.isDigit c = true ∨ c = '.' ∨ c = '#'

instance (c : Char) : Decidable (Joins c) := by
  unfold Joins
  infer_instance

/-- No placeholder stands beside a point, a digit or another placeholder. -/
def Alone (cs : List Char) : Prop :=
  cs.IsChain fun a b => (a = '#' → ¬Joins b) ∧ (b = '#' → ¬Joins a)

instance (cs : List Char) : Decidable (Alone cs) := by
  unfold Alone
  infer_instance

namespace Alone

theorem behind (as : List Char) (h : Alone (as ++ bs)) : Alone bs := (List.isChain_append.mp h).2.1

theorem behind_digits (h : Alone (as ++ bs)) (nonempty : as ≠ [])
    (digits : ∀ c ∈ as, Text.isDigit c = true) : ∃ a, Joins a ∧ Alone (a :: bs) := by
  obtain ⟨init, a, rfl⟩ := (List.eq_nil_or_concat as).resolve_left nonempty
  rw [List.concat_eq_append, List.append_assoc] at h
  have ha : Text.isDigit a = true := digits a (by simp)
  exact ⟨a, .inl ha, h.behind init⟩

theorem next (h : Alone ('#' :: cs)) : ∀ c ∈ cs.head?, ¬Joins c := by
  intro c hc
  exact ((List.isChain_cons.mp h).1 c hc).1 rfl

/-- Behind a point or a digit the text starts as before, since no number is written there. -/
theorem head?_fillBy (words : ℕ → List Char) (h : Alone (a :: cs)) (ha : Joins a) :
    (fillBy '#' words cs).head? = cs.head? := by
  cases cs with
  | nil => rfl
  | cons c cs =>
    have hc : c ≠ '#' := by
      intro hmark
      exact ((List.isChain_cons.mp h).1 c rfl).2 hmark ha
    rw [Text.fillBy_other hc]
    rfl

/-- The same for what comes behind a number. -/
theorem head?_fillBy_next (words : ℕ → List Char) (h : Alone ('#' :: cs)) :
    ∀ c ∈ (fillBy '#' words cs).head?, ¬Joins c := by
  intro c hc
  cases cs with
  | nil => cases hc
  | cons d cs =>
    have hd : ¬Joins d := h.next d rfl
    have hmark : d ≠ '#' := fun hmark => hd (.inr (.inr hmark))
    rw [Text.fillBy_other hmark] at hc
    obtain rfl : d = c := Option.some.inj hc
    exact hd

/-- Where the number ended before a point it still does. -/
theorem point_fillBy (words : ℕ → List Char) (h : Alone (a :: cs)) (ha : Joins a)
    (hpoint : ∀ more, cs = '.' :: more → ∀ c ∈ more.head?, Text.isDigit c = false) :
    ∀ more, fillBy '#' words cs = '.' :: more → ∀ c ∈ more.head?, Text.isDigit c = false := by
  intro more hmore c hc
  have hhead : cs.head? = some '.' := by
    rw [← h.head?_fillBy words ha, hmore]
    rfl
  obtain ⟨later, rfl⟩ := List.head?_eq_some_iff.mp hhead
  rw [Text.fillBy_other (by decide)] at hmore
  obtain ⟨-, rfl⟩ := List.cons.inj hmore
  have hlater := (h.behind [a]).head?_fillBy words (.inr (.inl rfl))
  rw [hlater] at hc
  exact hpoint later rfl c hc

end Alone

/-! ### Numbers that are marked -/

theorem markNumbers_number (nonempty : number ≠ [])
    (first : ∀ c ∈ number.head?, Text.isDigit c = true)
    (hsize : numberSize (number ++ rest) = number.length) :
    markNumbersFrom 0 (number ++ rest) = '#' :: markNumbersFrom 0 rest := by
  obtain ⟨c, number, rfl⟩ := List.exists_cons_of_ne_nil nonempty
  have hc : Text.isDigit c = true := first c rfl
  rw [List.cons_append] at hsize ⊢
  rw [markNumbersFrom, if_pos hc, hsize, List.length_cons, Nat.add_sub_cancel, markNumbersFrom_skip]

theorem markNumbers_other (h : Text.isDigit c = false) :
    markNumbersFrom 0 (c :: cs) = c :: markNumbersFrom 0 cs := by
  rw [markNumbersFrom, if_neg (Bool.eq_false_iff.mp h)]

theorem numberSize_amount (a : Amount) (hend : ∀ c ∈ rest.head?, ¬Joins c) :
    numberSize (a.written ++ rest) = a.written.length := by
  have hdigit : ∀ c ∈ rest.head?, Text.isDigit c = false := by
    intro c hc
    exact Bool.eq_false_iff.mpr fun h => hend c hc (.inl h)
  obtain ⟨whole, fraction⟩ := a
  cases fraction with
  | none =>
    have hpoint : ∀ more, rest = '.' :: more → ∀ c ∈ more.head?, Text.isDigit c = false := by
      rintro more rfl
      exact absurd (.inr (.inl rfl)) (hend '.' rfl)
    have hsize := numberSize_whole whole.isDigit hdigit hpoint
    simpa [Amount.written, Amount.behind] using hsize
  | some fraction =>
    have hsize := numberSize_fraction whole.isDigit fraction.isDigit fraction.nonempty hdigit
    simp only [Amount.written, Amount.behind, List.append_assoc, List.cons_append,
      List.length_append, List.length_cons]
    omega

theorem first_digit (a : Amount) : ∀ c ∈ a.written.head?, Text.isDigit c = true := by
  obtain ⟨d, more, hdigits⟩ := List.exists_cons_of_ne_nil a.whole.nonempty
  intro c hc
  rw [Amount.written, hdigits] at hc
  obtain rfl : d = c := Option.some.inj hc
  exact a.whole.isDigit d (by rw [hdigits]; exact List.mem_cons_self ..)

/-- A number at a placeholder that stands alone is marked as the placeholder is. -/
theorem markNumbers_fillBy (alone : Alone cs) (amounts : ℕ → Amount) :
    markNumbersFrom 0 (fillBy '#' (fun i => (amounts i).written) cs) = markNumbersFrom 0 cs := by
  have hmark : Text.isDigit '#' = false := by decide +kernel
  have hplain : ∀ cs : List Char, (∀ c ∈ cs, Text.isDigit c = true) → '#' ∉ cs := by
    intro cs hcs hmem
    rw [hcs '#' hmem] at hmark
    cases hmark
  have hfirst : ∀ cs rest : List Char, cs ≠ [] → (∀ c ∈ cs, Text.isDigit c = true) →
      ∀ c ∈ (cs ++ rest).head?, Text.isDigit c = true := by
    intro cs rest hne hcs c hc
    obtain ⟨d, cs, rfl⟩ := List.exists_cons_of_ne_nil hne
    exact hcs c (List.mem_of_head? hc)
  induction cs using figures_induction generalizing amounts with
  | nil => rfl
  | other c cs h ih =>
    have hrest := ih (alone.behind [c])
    by_cases hc : c = '#'
    · subst hc
      have hsize := numberSize_amount (amounts 0)
        (alone.head?_fillBy_next fun i => (amounts (i + 1)).written)
      rw [Text.fillBy_mark, markNumbers_number (amounts 0).stands.nonempty (first_digit _) hsize,
        hrest fun i => amounts (i + 1), markNumbers_other h]
    · rw [Text.fillBy_other hc, markNumbers_other h, markNumbers_other h, hrest amounts]
  | number whole rest digits nonempty hend hpoint ih =>
    obtain ⟨a, ha, hnext⟩ := alone.behind_digits nonempty digits
    have hhead := hnext.head?_fillBy (fun i => (amounts i).written) ha
    have hbehind := hnext.point_fillBy (fun i => (amounts i).written) ha hpoint
    have hstart : ∀ c ∈ whole.head?, Text.isDigit c = true := by
      simpa using hfirst whole [] nonempty digits
    rw [Text.fillBy_before (hplain whole digits),
      markNumbers_number nonempty hstart (numberSize_whole digits (hhead ▸ hend) hbehind),
      markNumbers_number nonempty hstart (numberSize_whole digits hend hpoint),
      ih (alone.behind whole) amounts]
  | point whole fraction rest hwhole nonempty hfraction hsome hend ih =>
    have hrest : Alone (fraction ++ rest) := (alone.behind whole).behind ['.']
    obtain ⟨a, ha, hnext⟩ := hrest.behind_digits hsome hfraction
    have hhead := hnext.head?_fillBy (fun i => (amounts i).written) ha
    have hsize : ∀ rest : List Char, (∀ c ∈ rest.head?, Text.isDigit c = false) →
        markNumbersFrom 0 (whole ++ '.' :: (fraction ++ rest)) = '#' :: markNumbersFrom 0 rest := by
      intro rest hend
      have hnumber := numberSize_fraction hwhole hfraction hsome hend
      have hassoc : whole ++ '.' :: (fraction ++ rest) = whole ++ '.' :: fraction ++ rest := by simp
      rw [hassoc] at hnumber ⊢
      apply markNumbers_number (by simp) (hfirst whole _ nonempty hwhole)
      rw [hnumber]
      simp only [List.length_append, List.length_cons]
      omega
    rw [Text.fillBy_before (hplain whole hwhole), Text.fillBy_other (by decide),
      Text.fillBy_before (hplain fraction hfraction), hsize _ (hhead ▸ hend), hsize _ hend,
      ih (hrest.behind fraction) amounts]

/-! ### Families -/

/-- No placeholder is left in an instance. -/
theorem mark_not_mem_instance (amounts : ℕ → Amount) (cs : List Char) :
    '#' ∉ fillBy '#' (fun i => (amounts i).written) cs := by
  have hwritten : ∀ a : Amount, '#' ∉ a.written := by
    intro a hmem
    have hcanonical := (a.stands.canonical '#' hmem).1
    cases hcanonical
  induction cs generalizing amounts with
  | nil => exact List.not_mem_nil
  | cons c cs ih =>
    by_cases hc : c = '#'
    · rw [hc, Text.fillBy_mark, List.mem_append, not_or]
      exact ⟨hwritten (amounts 0), ih fun i => amounts (i + 1)⟩
    · rw [Text.fillBy_other hc, List.mem_cons, not_or]
      exact ⟨Ne.symm hc, ih amounts⟩

/-- The family of a text without placeholders is found in its canonical form. -/
theorem familyChars_plain (h : '#' ∉ cs) :
    familyChars cs = mergeFrom 0 (markNumbersFrom 0 (canonicalChars cs)) := by
  rw [familyChars, canonicalTemplateChars_eq, if_neg h]

theorem familyChars_canonical (h : '#' ∉ cs) : familyChars (canonicalChars cs) = familyChars cs := by
  have hcanonical : '#' ∉ canonicalChars cs := not_mem_canonicalChars (by decide)
  rw [familyChars_plain hcanonical, (canonicalChars_normal cs).canonicalChars_eq,
    familyChars_plain h]

/-- An instance has the family of its template. -/
theorem familyChars_instance (amounts : ℕ → Amount) (tame : ¬reserved <:+: canonicalChars cs)
    (alone : Alone (canonicalTemplateChars placeholder.toList cs)) :
    familyChars (fillBy '#' (fun i => (amounts i).written) cs) = familyChars cs := by
  by_cases mark : '#' ∈ cs
  · rw [familyChars_plain (mark_not_mem_instance amounts cs),
      canonicalChars_instance mark tame fun i => (amounts i).stands,
      markNumbers_fillBy alone amounts, familyChars]
  · rw [Text.fillBy_eq_self mark]

end Reroll.Catalog
