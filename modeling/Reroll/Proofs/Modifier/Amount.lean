import Reroll.Proofs.Modifier.Scope

/-!
# Plain targets and their own instances

A plain target has no placeholders left in its canonical form, so an instance of it need not contain
that. But words and digits of the target were in its template between two placeholders, where an
instance has them too (`infix_instance`), and a number brings in no word that the exclusion looks
for (`rejects_none`). So a target recognizes its own instances (`accepts_own_instance`).
-/

namespace Reroll

open Text (fillBy remark)

/-! ### Amounts -/

/-- A number as it stands in a line: digits and, behind a point, perhaps more. -/
structure Amount where
  whole : Numeral
  fraction : Option Numeral

namespace Amount

/-- The point and the digits behind it. -/
def behind (a : Amount) : List Char :=
  match a.fraction with
  | none => []
  | some fraction => '.' :: fraction.digits

/-- The number as it is written. -/
def written (a : Amount) : List Char := a.whole.digits ++ a.behind

theorem mem_written {a : Amount} {c : Char} (h : c ∈ a.written) :
    c = '.' ∨ ∃ n : Numeral, c ∈ n.digits := by
  obtain ⟨whole, fraction⟩ := a
  rcases List.mem_append.mp h with h | h
  · exact .inr ⟨whole, h⟩
  · cases fraction with
    | none => cases h
    | some fraction =>
      rcases List.mem_cons.mp h with h | h
      · exact .inl h
      · exact .inr ⟨fraction, h⟩

/-- There is no word in a number. -/
theorem digit_of_word {a : Amount} {c : Char} (h : c ∈ a.written) (hword : Text.isWord c = true) :
    Text.isDigit c = true := by
  rcases mem_written h with rfl | ⟨n, hn⟩
  · cases hword
  · exact n.isDigit c hn

theorem stands (a : Amount) : Canonical.Stands a.written := by
  have hpoint : Canonical.isCanonicalChar '.' = true ∧ '.' ≠ ' ' ∧ '.' ≠ 's' := by decide
  constructor
  · intro c hc
    rcases mem_written hc with rfl | ⟨n, hn⟩
    · exact ⟨hpoint.1, hpoint.2.1⟩
    · exact n.stands.canonical c hn
  · obtain ⟨z, more, hdigits, hword, hletter⟩ := a.whole.stands.first
    exact ⟨z, more ++ a.behind, by rw [written, hdigits, List.cons_append], hword, hletter⟩
  · intro d hd
    obtain ⟨whole, fraction⟩ := a
    cases fraction with
    | none =>
      apply whole.stands.last d
      simpa [written, behind] using hd
    | some fraction =>
      apply fraction.stands.last d
      have hne := List.getLast?_isSome.mpr fraction.nonempty
      obtain ⟨last, hlast⟩ := Option.isSome_iff_exists.mp hne
      simp only [written, behind, List.getLast?_append, List.getLast?_cons, hlast] at hd ⊢
      exact hd
  · intro hs
    rcases mem_written hs with hs | ⟨n, hn⟩
    · exact hpoint.2.2 hs.symm
    · exact n.stands.plain hn

end Amount

/-! ### What an instance has of its target -/

namespace Canonical

variable {cs v : List Char} {words : ℕ → List Char} {inWord : Bool}

theorem infix_of_occurs (h : Occurs inWord cs) : "gem".toList <:+: cs := by
  obtain ⟨before, gem, rest, rfl, is, -⟩ := exists_of_occurs h
  obtain ⟨blanks, plural, -, -, -⟩ := is
  exact ⟨before ++ ("skill".toList ++ blanks), plural ++ rest, by simp⟩

/-- Where there are no gems the canonical form has what stands between two marks, in single
blanks. -/
theorem canonicalChars_gemless (mark : '#' ∈ cs) (tame : ¬reserved <:+: canonicalChars cs)
    (gemless : ¬"gem".toList <:+: canonicalTemplateChars placeholder.toList cs) :
    canonicalChars cs = Text.strip (squeezed ((skeleton cs).map (remark '_' ' '))) := by
  have hletters : ∀ d ∈ "gem".toList, d ≠ '_' ∧ d ≠ '#' ∧ d ≠ ' ' :=
    Text.forall_of_all (by decide)
  have hskeleton : ¬"gem".toList <:+: skeleton cs := by
    rwa [template_eq mark tame, Text.infix_map fun d hd c =>
      Text.remark_eq_iff (hletters d hd).1 (hletters d hd).2.1] at gemless
  have hblanked : ¬"gem".toList <:+: (skeleton cs).map (remark '_' ' ') := by
    rwa [Text.infix_map fun d hd c => Text.remark_eq_iff (hletters d hd).1 (hletters d hd).2.2]
  rw [canonicalChars_eq_skeleton, tidy_eq]
  unfold foldSkillGems
  rw [fold_eq_self (mt infix_of_occurs hblanked)]

/-- A word of the canonical form is in every instance. -/
theorem infix_instance (stands : ∀ i, Stands (words i)) (tame : ¬reserved <:+: canonicalChars cs)
    (gemless : ¬"gem".toList <:+: canonicalTemplateChars placeholder.toList cs) (nonempty : v ≠ [])
    (dark : ' ' ∉ v) (h : v <:+: canonicalChars cs) : v <:+: canonicalChars (fillBy '#' words cs) := by
  by_cases mark : '#' ∈ cs
  · have hcanonical : ∀ d ∈ v, isCanonicalChar d = true := fun d hd =>
      (canonicalChars_normal cs).chars d (h.mem hd)
    have hspace : ∀ d ∈ v, d ≠ ' ' := fun d hd heq => dark (heq ▸ hd)
    have hbar : ∀ d ∈ v, d ≠ '_' := by
      intro d hd heq
      have hd := hcanonical d hd
      rw [heq] at hd
      cases hd
    have halone : ∀ d ∈ v, Text.isSpace d = false := by
      intro d hd
      apply Bool.eq_false_iff.mpr
      intro hblank
      exact hspace d hd ((isSpace_of_canonical (hcanonical d hd)).mp hblank)
    rw [canonicalChars_gemless mark tame gemless, Text.infix_strip nonempty halone, squeezed,
      Text.infix_squeeze nonempty halone dark,
      Text.infix_map fun d hd c => Text.remark_eq_iff (hbar d hd) (hspace d hd)] at h
    rw [canonicalChars_fillBy stands]
    exact Text.infix_fillBy_of_infix (fun hmem => hbar _ hmem rfl) h
  · rwa [Text.fillBy_eq_self mark]

/-- A word that tells scopes apart is in an instance only if it is in the canonical form. -/
theorem infix_of_instance (telling : IsTelling v) (amounts : ℕ → Amount)
    (h : v <:+: canonicalChars (fillBy '#' (fun i => (amounts i).written) cs)) :
    v <:+: canonicalChars cs := by
  have hstands : ∀ i, Stands (amounts i).written := fun i => (amounts i).stands
  have hapart : ∀ i, ∀ c ∈ (amounts i).written, c ∉ v := by
    intro i c hc hmem
    obtain ⟨hword, hdigit, -⟩ := telling.letters c hmem
    rw [Amount.digit_of_word hc hword] at hdigit
    cases hdigit
  rw [canonicalChars_fillBy hstands, Text.infix_fillBy telling.nonempty
    (fun i => (hstands i).nonempty) hapart (telling.not_mem (by decide))] at h
  rwa [canonicalChars_eq_skeleton, tidy, foldSkillGems, telling.infix_fold,
    Text.infix_strip telling.nonempty telling.dark, squeezed, telling.infix_squeeze,
    telling.infix_map]

end Canonical

/-! ### Recognition -/

namespace Spec

variable {s : Spec} {e : Exclusion} {cs target text v : List Char}

/-- The exclusion lets a text pass that has its words only where the target has them. -/
theorem rejects_none (context : ∃ word, e.context = .text word)
    (h : ∀ word ∈ e.words, word.toList <:+: text → word.toList <:+: target) :
    e.rejects target text = .ok none := by
  obtain ⟨word, hcontext⟩ := context
  have hnone : e.excludedWord? target text = none := by
    apply List.find?_eq_none.mpr
    intro word hword hfound
    obtain ⟨hpresent, habsent⟩ := Bool.and_eq_true_iff.mp hfound
    have hwithin := h word hword (Text.occursIn_iff.mp hpresent)
    rw [Text.occursIn_iff.mpr hwithin] at habsent
    cases habsent
  have hlooked : e.inContext text = .ok (Text.occursIn word.toList text) := by
    unfold Exclusion.inContext
    rw [hcontext]
  unfold Exclusion.rejects
  rw [hlooked, hnone]
  cases e.concerns target with
  | false => rfl
  | true => cases Text.occursIn word.toList text <;> rfl

theorem allOccur_of_infix {needles : List (List Char)} (h : ∀ w ∈ needles, w <:+: text) :
    allOccur needles text = true :=
  List.all_eq_true.mpr fun w hw => Text.occursIn_iff.mpr (h w hw)

/-- A line that holds the longer words of a target and its digits is accepted if it is not
excluded. -/
theorem matchesPlain_of_parts (htarget : Canonical.canonicalChars s.pattern.toList = target)
    (nonempty : target ≠ []) (passes : e.rejects target text = .ok none)
    (hwords : ∀ w ∈ keywords Text.isWord target, w <:+: text)
    (hgroups : ∀ g ∈ Text.runsOf Text.isDigit target, g <:+: text) :
    s.matchesPlain e text = .ok true := by
  have hsome : target.isEmpty = false := List.isEmpty_eq_false_iff.mpr nonempty
  unfold matchesPlain
  rw [htarget]
  dsimp only
  rw [hsome, passes, allOccur_of_infix hwords, allOccur_of_infix hgroups]
  cases Text.occursIn target text with
  | false => rfl
  | true => rfl

theorem mem_of_keywords {p : Char → Bool} (h : v ∈ keywords p target) :
    v ∈ Text.runsOf p target :=
  List.mem_of_mem_filter h

/-- A run of such characters is a part of the text. -/
theorem infix_of_runsOf {p : Char → Bool} (h : v ∈ Text.runsOf p cs) :
    v ≠ [] ∧ (∀ c ∈ v, p c = true) ∧ v <:+: cs := by
  obtain ⟨before, after, rfl, hall, -⟩ := Text.isRun_of_mem h
  exact ⟨Text.ne_nil_of_mem_runsOf h, hall, before, after, by simp⟩

/-- A plain target accepts its own instances, whatever numbers they have, and the exclusion does not
reject them. The word "gem" might be folded with a word on the other side of a placeholder. -/
theorem accepts_own_instance (pattern : String) (amounts : ℕ → Amount)
    (nonempty : Canonical.canonicalChars pattern.toList ≠ [])
    (tame : ¬Canonical.reserved <:+: Canonical.canonicalChars pattern.toList)
    (gemless : ¬"gem".toList <:+:
      Canonical.canonicalTemplateChars Canonical.placeholder.toList pattern.toList) :
    let line := Canonical.canonical (String.ofList
      (fillBy '#' (fun i => (amounts i).written) pattern.toList))
    (plain pattern).accepts {} line = .ok true ∧
      ({} : Exclusion).rejects (Canonical.canonicalChars pattern.toList) line.toList =
        .ok none := by
  intro line
  have hline : line.toList = Canonical.canonicalChars
      (fillBy '#' (fun i => (amounts i).written) pattern.toList) := by
    simp only [line, Canonical.canonical, String.toList_ofList]
  have hpasses : ({} : Exclusion).rejects (Canonical.canonicalChars pattern.toList) line.toList =
      .ok none := by
    apply rejects_none ⟨"spell", rfl⟩
    intro word hword hpresent
    obtain ⟨htelling, -⟩ := isTelling_excluded word hword
    rw [hline] at hpresent
    exact Canonical.infix_of_instance htelling amounts hpresent
  have hparts : ∀ p : Char → Bool, p ' ' = false →
      ∀ v ∈ Text.runsOf p (Canonical.canonicalChars pattern.toList), v <:+: line.toList := by
    intro p hp v hv
    obtain ⟨hne, hall, hwithin⟩ := infix_of_runsOf hv
    have hdark : ' ' ∉ v := by
      intro hmem
      have hspace := hall ' ' hmem
      rw [hp] at hspace
      cases hspace
    rw [hline]
    exact Canonical.infix_instance (fun i => (amounts i).stands) tame gemless hne hdark hwithin
  have htarget : Canonical.canonicalChars (plain pattern).pattern.toList =
      Canonical.canonicalChars pattern.toList := rfl
  have hplain : (plain pattern).matchesPlain {} line.toList = .ok true := by
    apply matchesPlain_of_parts htarget nonempty hpasses
    · intro w hw
      exact hparts Text.isWord (by decide) w (mem_of_keywords hw)
    · exact hparts Text.isDigit (by decide +kernel)
  refine ⟨?_, hpasses⟩
  show ((plain pattern).matchesPlain {} line.toList).mapError MatchError.shape = .ok true
  rw [hplain]
  rfl

/-- The plus and the percent sign come together in the target, and the number is between them in the
line. -/
theorem accepts_own_instance_spell :
    let pattern := "+#% to Spell Damage"
    let line := "+12.5% to spell damage"
    (Canonical.canonicalChars pattern.toList ≠ [] ∧
      ¬Canonical.reserved <:+: Canonical.canonicalChars pattern.toList ∧
      ¬"gem".toList <:+:
        Canonical.canonicalTemplateChars Canonical.placeholder.toList pattern.toList) ∧
    ¬Canonical.canonicalChars pattern.toList <:+: line.toList ∧
    (plain pattern).accepts {} line = .ok true := by
  intro pattern line
  let amount : Amount :=
    ⟨⟨"12".toList, by decide, by simp⟩, some ⟨"5".toList, by decide, by simp⟩⟩
  have nonempty : Canonical.canonicalChars pattern.toList ≠ [] := by decide +kernel
  have tame : ¬Canonical.reserved <:+: Canonical.canonicalChars pattern.toList := by
    decide +kernel
  have gemless : ¬"gem".toList <:+:
      Canonical.canonicalTemplateChars Canonical.placeholder.toList pattern.toList := by
    decide +kernel
  have hline : Canonical.canonical (String.ofList
      (fillBy '#' (fun _ => amount.written) pattern.toList)) = line := by
    decide +kernel
  obtain ⟨haccepts, -⟩ := accepts_own_instance pattern (fun _ => amount) nonempty tame gemless
  rw [hline] at haccepts
  exact ⟨⟨nonempty, tame, gemless⟩, by decide +kernel, haccepts⟩

end Spec

end Reroll
