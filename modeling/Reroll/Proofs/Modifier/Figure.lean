import Reroll.Catalog.Family
import Reroll.Proofs.Modifier.Instance

/-!
# Numbers in a line

A family counts digits with a point and more digits as one number; a target reads one group of
digits. The groups of digits of a line are those of its numbers (`runsOf_figures`), so a target with
bounds that accepts a line has found a group of a number in it, and all of that group where the
placeholders of the target are set off from digits (`accepted_figure`). A number with a fraction has
two groups, and either will do.
-/

namespace Reroll

namespace Catalog

/-- A number in a text: the digits before the point and, if there is one, those behind it. -/
structure Figure where
  whole : List Char
  fraction : List Char
  deriving DecidableEq

namespace Figure

/-- The groups of digits of the number. -/
def groups (f : Figure) : List (List Char) :=
  if f.fraction = [] then [f.whole] else [f.whole, f.fraction]

/-- The value of the number. -/
def value (f : Figure) : ℚ :=
  Text.digitsValue f.whole + Text.digitsValue f.fraction / 10 ^ f.fraction.length

/-- A number without a fraction is its one group of digits. -/
theorem value_eq {f : Figure} {group : List Char} (h : group ∈ f.groups)
    (hfraction : f.fraction = []) : f.value = Text.digitsValue group := by
  rw [groups, if_pos hfraction] at h
  obtain rfl := List.mem_singleton.mp h
  rw [value, hfraction]
  simp [Text.digitsValue]

end Figure

/-- The number at the start of a text. -/
def figureAt (cs : List Char) : Figure :=
  let whole := cs.takeWhile Text.isDigit
  ⟨whole, (cs.take (numberSize cs)).drop (whole.length + 1)⟩

/-- The numbers of a text as a family counts them, after `skip` characters already read. -/
def figuresFrom (skip : ℕ) : List Char → List Figure
  | [] => []
  | c :: cs =>
    match skip with
    | k + 1 => figuresFrom k cs
    | 0 =>
      if Text.isDigit c then figureAt (c :: cs) :: figuresFrom (numberSize (c :: cs) - 1) cs
      else figuresFrom 0 cs

/-- The numbers of a text. -/
def figures (cs : List Char) : List Figure := figuresFrom 0 cs

variable {c : Char} {cs whole fraction rest : List Char}

theorem figuresFrom_skip (skipped : List Char) :
    figuresFrom skipped.length (skipped ++ rest) = figures rest := by
  induction skipped with
  | nil => rfl
  | cons c skipped ih =>
    rw [List.length_cons, List.cons_append, figuresFrom]
    exact ih

theorem figuresFrom_number {number : List Char} (first : Text.isDigit c = true)
    (hsize : numberSize (c :: (number ++ rest)) = number.length + 1) :
    figures (c :: (number ++ rest)) = figureAt (c :: (number ++ rest)) :: figures rest := by
  rw [figures, figuresFrom, if_pos first, hsize, Nat.add_sub_cancel, figuresFrom_skip]

theorem figures_other (h : Text.isDigit c = false) : figures (c :: cs) = figures cs := by
  rw [figures, figuresFrom, if_neg (Bool.eq_false_iff.mp h)]
  rfl

/-- Digits with no point and digits behind them are a number. -/
theorem numberSize_whole (digits : ∀ c ∈ whole, Text.isDigit c = true)
    (hend : ∀ c ∈ rest.head?, Text.isDigit c = false)
    (hpoint : ∀ more, rest = '.' :: more → ∀ c ∈ more.head?, Text.isDigit c = false) :
    numberSize (whole ++ rest) = whole.length := by
  have hrun : (whole ++ rest).takeWhile Text.isDigit = whole := Text.takeWhile_run digits hend
  unfold numberSize
  dsimp only
  rw [hrun, List.drop_left]
  split
  · next more =>
    have hnone : ([] ++ more).takeWhile Text.isDigit = [] :=
      Text.takeWhile_run nofun (hpoint more rfl)
    rw [List.nil_append] at hnone
    rw [hnone]
    rfl
  · rfl

/-- Digits, a point and digits are a number. -/
theorem numberSize_fraction (hwhole : ∀ c ∈ whole, Text.isDigit c = true)
    (hfraction : ∀ c ∈ fraction, Text.isDigit c = true) (hsome : fraction ≠ [])
    (hend : ∀ c ∈ rest.head?, Text.isDigit c = false) :
    numberSize (whole ++ '.' :: (fraction ++ rest)) = whole.length + 1 + fraction.length := by
  have hpoint : ∀ c ∈ ('.' :: (fraction ++ rest)).head?, Text.isDigit c = false := by
    rintro c ⟨⟩
    decide +kernel
  have hrun := Text.takeWhile_run hwhole hpoint
  have hbehind : (fraction ++ rest).takeWhile Text.isDigit = fraction :=
    Text.takeWhile_run hfraction hend
  unfold numberSize
  dsimp only
  rw [hrun, List.drop_left]
  split
  · next more hmore =>
    obtain ⟨-, rfl⟩ := List.cons.inj hmore
    rw [hbehind, if_neg (mt List.length_eq_zero_iff.mp hsome)]
  · next hnone => exact absurd rfl (hnone (fraction ++ rest))

/-- Digits with no point and digits behind them are a number without a fraction. -/
theorem figures_whole (digits : ∀ c ∈ whole, Text.isDigit c = true) (nonempty : whole ≠ [])
    (hend : ∀ c ∈ rest.head?, Text.isDigit c = false)
    (hpoint : ∀ more, rest = '.' :: more → ∀ c ∈ more.head?, Text.isDigit c = false) :
    figures (whole ++ rest) = ⟨whole, []⟩ :: figures rest := by
  have hrun : (whole ++ rest).takeWhile Text.isDigit = whole := Text.takeWhile_run digits hend
  have hsize := numberSize_whole digits hend hpoint
  have hfigure : figureAt (whole ++ rest) = ⟨whole, []⟩ := by
    unfold figureAt
    dsimp only
    rw [hrun, hsize, List.take_left, List.drop_eq_nil_of_le (Nat.le_succ _)]
  obtain ⟨c, number, rfl⟩ := List.exists_cons_of_ne_nil nonempty
  have hfirst : Text.isDigit c = true := digits c (List.mem_cons_self ..)
  rw [List.cons_append] at hsize hfigure ⊢
  rw [figuresFrom_number hfirst hsize, hfigure]

/-- Digits, a point and digits are a number with a fraction. -/
theorem figures_fraction (hwhole : ∀ c ∈ whole, Text.isDigit c = true) (nonempty : whole ≠ [])
    (hfraction : ∀ c ∈ fraction, Text.isDigit c = true) (hsome : fraction ≠ [])
    (hend : ∀ c ∈ rest.head?, Text.isDigit c = false) :
    figures (whole ++ '.' :: (fraction ++ rest)) = ⟨whole, fraction⟩ :: figures rest := by
  have hpoint : ∀ c ∈ ('.' :: (fraction ++ rest)).head?, Text.isDigit c = false := by
    rintro c ⟨⟩
    decide +kernel
  have hrun := Text.takeWhile_run hwhole hpoint
  have hsize := numberSize_fraction hwhole hfraction hsome hend
  have hfigure : figureAt (whole ++ '.' :: (fraction ++ rest)) = ⟨whole, fraction⟩ := by
    have hsplit : whole ++ '.' :: (fraction ++ rest) = (whole ++ ['.']) ++ (fraction ++ rest) := by
      simp
    have hlength : whole.length + 1 = (whole ++ ['.']).length := by simp
    unfold figureAt
    dsimp only
    rw [hrun, hsize, hsplit, hlength, List.take_length_add_append, List.drop_left, List.take_left]
  obtain ⟨c, number, rfl⟩ := List.exists_cons_of_ne_nil nonempty
  have hfirst : Text.isDigit c = true := hwhole c (List.mem_cons_self ..)
  have hnumber : (c :: number) ++ '.' :: (fraction ++ rest) =
      c :: ((number ++ '.' :: fraction) ++ rest) := by
    simp
  have hlength : (c :: number).length + 1 + fraction.length =
      (number ++ '.' :: fraction).length + 1 := by
    simp only [List.length_cons, List.length_append]
    omega
  rw [hnumber] at hsize hfigure ⊢
  rw [figuresFrom_number hfirst (hsize.trans hlength), hfigure]

/-- A text is gone through number by number. -/
theorem figures_induction {motive : List Char → Prop} (nil : motive [])
    (other : ∀ c cs, Text.isDigit c = false → motive cs → motive (c :: cs))
    (number : ∀ whole rest, (∀ c ∈ whole, Text.isDigit c = true) → whole ≠ [] →
      (∀ c ∈ rest.head?, Text.isDigit c = false) →
      (∀ more, rest = '.' :: more → ∀ c ∈ more.head?, Text.isDigit c = false) → motive rest →
      motive (whole ++ rest))
    (point : ∀ whole fraction rest, (∀ c ∈ whole, Text.isDigit c = true) → whole ≠ [] →
      (∀ c ∈ fraction, Text.isDigit c = true) → fraction ≠ [] →
      (∀ c ∈ rest.head?, Text.isDigit c = false) → motive rest →
      motive (whole ++ '.' :: (fraction ++ rest))) (cs : List Char) : motive cs := by
  have hrun : ∀ cs : List Char, ∃ run rest, cs = run ++ rest ∧
      (∀ c ∈ run, Text.isDigit c = true) ∧ ∀ c ∈ rest.head?, Text.isDigit c = false := by
    intro cs
    refine ⟨_, _, (List.takeWhile_append_dropWhile (p := Text.isDigit)).symm, ?_, ?_⟩
    · exact fun c hc => List.mem_takeWhile_imp hc
    · intro c hc
      have hnot := List.head?_dropWhile_not Text.isDigit cs
      rw [hc] at hnot
      exact hnot
  induction hlength : cs.length using Nat.strongRecOn generalizing cs with
  | _ length ih =>
    obtain ⟨run, rest, rfl, hdigits, hend⟩ := hrun cs
    have hshorter : run ≠ [] → rest.length < length := by
      intro hne
      have hpositive := List.length_pos_iff.mpr hne
      rw [← hlength, List.length_append]
      omega
    by_cases hne : run = []
    · rw [hne, List.nil_append] at hlength ⊢
      cases rest with
      | nil => exact nil
      | cons c rest =>
        have htail : rest.length < length := by simp [← hlength]
        exact other c rest (hend c rfl) (ih rest.length htail rest rfl)
    · by_cases hpoint : ∀ more, rest = '.' :: more → ∀ c ∈ more.head?, Text.isDigit c = false
      · exact number run rest hdigits hne hend hpoint (ih rest.length (hshorter hne) rest rfl)
      · simp only [not_forall, Bool.not_eq_false] at hpoint
        obtain ⟨more, rfl, c, hc, hdigit⟩ := hpoint
        obtain ⟨fraction, behind, rfl, hfraction, hbehind⟩ := hrun more
        have hsome : fraction ≠ [] := by
          rintro rfl
          rw [hbehind c hc] at hdigit
          cases hdigit
        have hlast : behind.length < length := by
          have hrest := hshorter hne
          rw [List.length_cons, List.length_append] at hrest
          omega
        exact point run fraction behind hdigits hne hfraction hsome hbehind
          (ih behind.length hlast behind rfl)

/-- The groups of digits of a text are those of its numbers. -/
theorem runsOf_figures (cs : List Char) :
    Text.runsOf Text.isDigit cs = (figures cs).flatMap Figure.groups := by
  have hpoint : Text.isDigit '.' = false := by decide +kernel
  induction cs using figures_induction with
  | nil => rfl
  | other c cs h ih => rw [Text.runsOf_other h, figures_other h, ih]
  | number whole rest digits nonempty hend hpoint ih =>
    rw [Text.runsOf_run digits nonempty hend, figures_whole digits nonempty hend hpoint, ih]
    rfl
  | point whole fraction rest hwhole nonempty hfraction hsome hend ih =>
    rw [Text.runsOf_run hwhole nonempty, Text.runsOf_other hpoint,
      Text.runsOf_run hfraction hsome hend,
      figures_fraction hwhole nonempty hfraction hsome hend, ih, List.flatMap_cons, Figure.groups,
      if_neg hsome]
    · rfl
    · rintro c ⟨⟩
      exact hpoint

end Catalog

namespace Template

variable {as bs before behind number rest target text digits : List Char} {sizes : List ℕ}

/-- An instance starts where the first part is followed by digits and an instance of the others. -/
theorem sizesAt?_ne_none {part : List Char} {more : List (List Char)}
    (digits : ∀ c ∈ number, Text.isDigit c = true) (nonempty : number ≠ []) (hmore : more ≠ [])
    (h : sizesAt? more rest = some sizes) :
    sizesAt? (part :: more) (part ++ (number ++ rest)) ≠ none := by
  obtain ⟨second, others, rfl⟩ := List.exists_cons_of_ne_nil hmore
  have hpart : part.isPrefixOf (part ++ (number ++ rest)) = true :=
    List.isPrefixOf_iff_prefix.mpr (List.prefix_append ..)
  have hlength : number.length ≤ ((number ++ rest).takeWhile Text.isDigit).length := by
    rw [List.takeWhile_append_of_pos digits, List.length_append]
    omega
  rw [sizesAt?, if_pos hpart, List.drop_left]
  · intro hnone
    have hrest := longest?_none hnone number.length (List.length_pos_iff.mpr nonempty) hlength
    rw [List.drop_left, h] at hrest
    cases hrest
  · exact List.cons_ne_nil second others

theorem sizesAt?_prefix {part : List Char} {more : List (List Char)}
    (h : sizesAt? (part :: more) text = some sizes) : part <+: text := by
  cases more with
  | nil =>
    simp only [sizesAt?] at h
    split at h
    · next hpart => exact List.isPrefixOf_iff_prefix.mp hpart
    · cases h
  | cons second others =>
    obtain ⟨number, rest, -, rfl, -⟩ := sizesAt?_some (List.cons_ne_nil second others) h
    exact List.prefix_append ..

/-- Behind a placeholder that is set off, the template ends or the text starts as it does. -/
theorem SetOff.ends_or_starts (setOff : SetOff (as ++ '#' :: bs))
    (h : sizesAt? (Text.splitOn ['#'] bs) rest = some sizes) :
    bs = [] ∨ ∀ c ∈ rest.head?, Text.isDigit c = false := by
  cases bs with
  | nil => exact .inl rfl
  | cons b bs =>
    obtain ⟨hdigit, hmark⟩ := setOff.next b rfl
    have hstart : ∃ part others, Text.splitOn ['#'] (b :: bs) = (b :: part) :: others := by
      by_cases hmem : '#' ∈ b :: bs
      · obtain ⟨part, after, hsplit, hpart⟩ := List.eq_append_cons_of_mem hmem
        cases part with
        | nil => exact absurd (List.cons.inj hsplit).1 hmark
        | cons c part =>
          obtain ⟨rfl, -⟩ := List.cons.inj hsplit
          exact ⟨part, _, by rw [hsplit, Text.splitOn_mark hpart]⟩
      · exact ⟨bs, [], Text.splitOn_plain hmem⟩
    obtain ⟨part, others, hparts⟩ := hstart
    rw [hparts] at h
    obtain ⟨after, rfl⟩ := sizesAt?_prefix h
    right
    rintro c ⟨⟩
    exact hdigit

/-- The first number that is found for a template whose placeholders are set off is a whole group of
digits of the text: digits before it would have started an instance earlier, and digits behind it
would have been part of it. -/
theorem search_run {hit : Hit} (setOff : SetOff target) (mark : '#' ∈ target)
    (h : (Template.mk (Text.splitOn ['#'] target)).search text = some hit)
    (hfirst : hit.numbers.head? = some digits) : digits ∈ Text.runsOf Text.isDigit text := by
  obtain ⟨as, bs, rfl, has⟩ := List.eq_append_cons_of_mem mark
  obtain ⟨before, behind, sizes, rfl, hsizes, hnumbers, hnone⟩ := searchFrom_some h
  have hparts : Text.splitOn ['#'] (as ++ '#' :: bs) = as :: Text.splitOn ['#'] bs :=
    Text.splitOn_mark has
  dsimp only at hsizes hnumbers hnone
  rw [hparts] at hsizes hnumbers hnone
  obtain ⟨number, rest, others, rfl, hne, hdigits, rfl, hrest, hlonger⟩ :=
    sizesAt?_some (Text.splitOn_ne_nil bs) hsizes
  obtain rfl : number = digits := by
    rw [hnumbers] at hfirst
    simpa [cut] using hfirst
  have hbefore : ∀ c ∈ (before ++ as).getLast?, Text.isDigit c = false := by
    intro c hc
    rcases List.eq_nil_or_concat as with rfl | ⟨init, last, rfl⟩
    · rw [List.append_nil] at hc
      obtain ⟨pre, rfl⟩ := List.getLast?_eq_some_iff.mp hc
      refine Bool.eq_false_iff.mpr fun hdigit => ?_
      have hlonger : ∀ d ∈ c :: number, Text.isDigit d = true :=
        List.forall_mem_cons.mpr ⟨hdigit, hdigits⟩
      have hearlier : sizesAt? ([] :: Text.splitOn ['#'] bs)
          ([] ++ ((c :: number) ++ rest)) ≠ none :=
        sizesAt?_ne_none hlonger (List.cons_ne_nil c number) (Text.splitOn_ne_nil bs) hrest
      exact hearlier (hnone pre [c] rfl (List.cons_ne_nil c []))
    · rw [List.concat_eq_append, ← List.append_assoc, List.getLast?_concat] at hc
      rw [List.concat_eq_append] at setOff
      exact setOff.previous c (List.getLast?_concat.trans hc)
  have hafter : ∀ c ∈ rest.head?, Text.isDigit c = false := by
    rcases setOff.ends_or_starts hrest with rfl | hstarts
    · intro c hc
      obtain ⟨after, rfl⟩ := List.head?_eq_some_iff.mp hc
      refine Bool.eq_false_iff.mpr fun hdigit => ?_
      have hlength : number.length + 1 ≤
          ((number ++ c :: after).takeWhile Text.isDigit).length := by
        rw [List.takeWhile_append_of_pos hdigits, List.takeWhile_cons_of_pos hdigit,
          List.length_append, List.length_cons]
        omega
      cases hlonger (number.length + 1) (Nat.lt_succ_self _) hlength
    · exact hstarts
  rw [← List.append_assoc]
  exact Text.mem_runsOf hdigits hne hbefore hafter

end Template

namespace Spec

variable {s : Spec} {e : Exclusion} {text : List Char}

theorem numberOf_eq {digits : List Char} {n : ℤ} (h : numberOf digits = .ok n) :
    n = Text.digitsValue digits := by
  unfold numberOf at h
  split at h
  · cases h
  · exact (Except.ok.inj h).symm

theorem anyAdmitted_true {groups : List (List Char)} (h : s.anyAdmitted groups = .ok true) :
    ∃ group ∈ groups, s.Encloses (Text.digitsValue group) := by
  induction groups with
  | nil => cases h
  | cons group groups ih =>
    unfold anyAdmitted at h
    split at h
    · cases h
    · next n hn =>
      split at h
      · next hadmits =>
        have hencloses := (admits_iff n).mp hadmits
        rw [numberOf_eq hn, Int.cast_natCast] at hencloses
        exact ⟨group, List.mem_cons_self .., hencloses⟩
      · obtain ⟨found, hfound, hencloses⟩ := ih h
        exact ⟨found, List.mem_cons_of_mem _ hfound, hencloses⟩

/-- A line is accepted for the number read at the placeholder or for a group of its digits. -/
theorem matchesRanged_true {target : List Char}
    (htarget : Canonical.canonicalTemplateChars Canonical.placeholder.toList s.pattern.toList =
      target)
    (h : s.matchesRanged e text = .ok true) :
    (∃ hit digits, '#' ∈ target ∧
      (Template.mk (Text.splitOn ['#'] target)).search text = some hit ∧
      hit.numbers.head? = some digits ∧ s.Encloses (Text.digitsValue digits)) ∨
    ∃ group ∈ Text.runsOf Text.isDigit text, s.Encloses (Text.digitsValue group) := by
  unfold matchesRanged at h
  rw [htarget] at h
  dsimp only at h
  split at h
  · cases h
  · split at h
    · next digits hdigits =>
      obtain ⟨hit, hhit, hfirst⟩ := Option.bind_eq_some_iff.mp hdigits
      obtain ⟨t, ht, hsearch⟩ := Option.bind_eq_some_iff.mp hhit
      have hmark : '#' ∈ target ∧ t = ⟨Text.splitOn ['#'] target⟩ := by
        unfold Template.ofText? at ht
        split at ht
        · next hoccurs =>
          exact ⟨Canonical.occursIn_single.mp hoccurs, (Option.some.inj ht).symm⟩
        · cases ht
      split at h
      · cases h
      · next n hn =>
        have hencloses := (admits_iff n).mp (Except.ok.inj h)
        rw [numberOf_eq hn, Int.cast_natCast] at hencloses
        rw [hmark.2] at hsearch
        exact .inl ⟨hit, digits, hmark.1, hsearch, hfirst, hencloses⟩
    · split at h
      · cases h
      · cases h
      · split at h
        · cases h
        · cases hgroups : s.anyAdmitted (Text.runsOf Text.isDigit text) with
          | error err =>
            rw [hgroups] at h
            cases h
          | ok b =>
            rw [hgroups] at h
            obtain rfl : b = true := Except.ok.inj h
            exact .inr (anyAdmitted_true hgroups)

/-- The template of the target is nowhere in the text. -/
def Misses (s : Spec) (text : List Char) : Prop :=
  ((Template.ofText? Canonical.placeholder.toList
      (Canonical.canonicalTemplateChars Canonical.placeholder.toList s.pattern.toList)).bind
    fun t => t.search text) = none

/-- A target with bounds that accepts a text has found digits with a value within the bounds in a
group of digits of a number of the text. They are the whole group, unless the target has a
placeholder beside a digit or another one and is found in the text. Then the number itself has a
value within the bounds, if it has no fraction. -/
theorem accepted_figure {text : String} (ranged : s.ranged = true)
    (h : s.accepts e text = .ok true) :
    ∃ figure ∈ Catalog.figures text.toList, ∃ group ∈ figure.groups, ∃ digits,
      digits ≠ [] ∧ digits <:+: group ∧ s.Encloses (Text.digitsValue digits) ∧
      (Template.SetOff (Canonical.canonicalTemplateChars Canonical.placeholder.toList
          s.pattern.toList) ∨ s.Misses text.toList →
        digits = group ∧ (figure.fraction = [] → s.Encloses figure.value)) := by
  have hfigure : ∀ group ∈ Text.runsOf Text.isDigit text.toList,
      ∃ figure ∈ Catalog.figures text.toList, group ∈ figure.groups := by
    intro group hgroup
    rw [Catalog.runsOf_figures] at hgroup
    exact List.mem_flatMap.mp hgroup
  have hvalue : ∀ (figure : Catalog.Figure), ∀ group ∈ figure.groups,
      s.Encloses (Text.digitsValue group) → figure.fraction = [] → s.Encloses figure.value := by
    intro figure group hgroup hencloses hfraction
    rwa [Catalog.Figure.value_eq hgroup hfraction]
  rw [accepts, if_pos ranged] at h
  rcases matchesRanged_true rfl h with
    ⟨hit, digits, hmark, hsearch, hfirst, hencloses⟩ | ⟨group, hgroup, hencloses⟩
  · obtain ⟨hwithin, hne, hdigit⟩ := Template.searchFrom_head hsearch hfirst
    by_cases setOff : Template.SetOff
        (Canonical.canonicalTemplateChars Canonical.placeholder.toList s.pattern.toList)
    · obtain ⟨figure, hmem, hpart⟩ :=
        hfigure digits (Template.search_run setOff hmark hsearch hfirst)
      exact ⟨figure, hmem, digits, hpart, digits, hne, List.infix_refl _, hencloses,
        fun _ => ⟨rfl, hvalue figure digits hpart hencloses⟩⟩
    · obtain ⟨run, hrun, hpart⟩ := Text.infix_run hwithin hdigit hne
      obtain ⟨figure, hmem, hgroup⟩ := hfigure run hrun
      refine ⟨figure, hmem, run, hgroup, digits, hne, hpart, hencloses, fun hwhole => ?_⟩
      have hmisses := hwhole.resolve_left setOff
      rw [Misses, Template.ofText?_mark hmark, Option.bind_some, hsearch] at hmisses
      cases hmisses
  · obtain ⟨figure, hmem, hpart⟩ := hfigure group hgroup
    have hne : group ≠ [] := Text.ne_nil_of_mem_runsOf hgroup
    exact ⟨figure, hmem, group, hpart, group, hne, List.infix_refl _, hencloses,
      fun _ => ⟨rfl, hvalue figure group hpart hencloses⟩⟩

/-- A line that recognition mangled is accepted for a number in it. -/
theorem mangled_line_figure :
    let s : Spec := {
      pattern := "#% increased Cast Speed", low := some (.int 20), high := some (.int 30),
      ranged := true }
    let text := Canonical.canonical "increased cast 24 speed %"
    (s.ranged = true ∧ s.accepts {} text = .ok true) ∧
    ∃ figure ∈ Catalog.figures text.toList, ∃ group ∈ figure.groups, ∃ digits,
      digits ≠ [] ∧ digits <:+: group ∧ s.Encloses (Text.digitsValue digits) ∧
      (Template.SetOff (Canonical.canonicalTemplateChars Canonical.placeholder.toList
          s.pattern.toList) ∨ s.Misses text.toList →
        digits = group ∧ (figure.fraction = [] → s.Encloses figure.value)) := by
  intro s text
  have haccepts : s.accepts {} text = .ok true := by decide +kernel
  exact ⟨⟨rfl, haccepts⟩, accepted_figure rfl haccepts⟩

/-- The digits of a fraction are enough for a target, and so are the last digits of a number behind
the others in the template. -/
theorem part_of_number_accepted :
    let five (pattern : String) : Spec :=
      ⟨pattern, some (.int 5), some (.int 5), true, by simp, by decide⟩
    ((five "# life").accepts {} (Canonical.canonical "1.5 life") = .ok true ∧
      ∀ figure ∈ Catalog.figures (Canonical.canonical "1.5 life").toList,
        ¬(five "# life").Encloses figure.value) ∧
    (five "1# life").accepts {} (Canonical.canonical "15 life") = .ok true ∧
      ∀ figure ∈ Catalog.figures (Canonical.canonical "15 life").toList,
        ¬(five "1# life").Encloses figure.value := by
  intro five
  have hfive : ∀ pattern q, (five pattern).Encloses q → q = 5 := by
    intro pattern q h
    obtain ⟨hlow, hhigh⟩ := (encloses_whole (some 5) (some 5) rfl rfl q).mp h
    exact le_antisymm (hhigh 5 rfl) (hlow 5 rfl)
  refine ⟨⟨by decide +kernel, ?_⟩, by decide +kernel, ?_⟩
  · have hfigures : Catalog.figures (Canonical.canonical "1.5 life").toList = [⟨['1'], ['5']⟩] := by
      decide +kernel
    have hvalue : Catalog.Figure.value ⟨['1'], ['5']⟩ = 1 + 5 / 10 ^ 1 := rfl
    intro figure hfigure h
    rw [hfigures, List.mem_singleton] at hfigure
    rw [hfigure, hvalue] at h
    exact absurd (hfive _ _ h) (by norm_num)
  · have hfigures :
        Catalog.figures (Canonical.canonical "15 life").toList = [⟨['1', '5'], []⟩] := by
      decide +kernel
    have hvalue : Catalog.Figure.value ⟨['1', '5'], []⟩ = 15 + 0 / 10 ^ 0 := rfl
    intro figure hfigure h
    rw [hfigures, List.mem_singleton] at hfigure
    rw [hfigure, hvalue] at h
    exact absurd (hfive _ _ h) (by norm_num)

end Spec

end Reroll
