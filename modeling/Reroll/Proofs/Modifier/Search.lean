import Mathlib.Data.List.Count
import Reroll.Proofs.Modifier.Figure

/-!
# The leftmost instance

A text holds an instance of a template where the literal parts stand in it with numbers between
them (`Template.Occurs`). The search finds one if there is one, no other starts earlier, and of
those that start there it has the longest first number, among these the longest second one, and so
on (`Template.search_leftmost`). The notation of a template, in which every special character has a
backslash, stands for nothing but the template (`readNotation_notated`).
-/

namespace Reroll

namespace Text

variable {mark : Char}

theorem splitOn_intercalate (cs : List Char) : [mark].intercalate (splitOn [mark] cs) = cs := by
  induction cs using mark_induction mark with
  | plain cs h => rw [splitOn_plain h, List.intercalate_singleton]
  | parts as bs has ih =>
    have hne : splitOn [mark] bs ≠ [] := splitOn_ne_nil bs
    obtain ⟨part, more, hparts⟩ := List.exists_cons_of_ne_nil hne
    rw [splitOn_mark has]
    rw [hparts] at ih ⊢
    rw [List.intercalate_cons_cons, ih, List.append_assoc, List.singleton_append]

theorem mark_not_mem_splitOn (cs : List Char) : ∀ part ∈ splitOn [mark] cs, mark ∉ part := by
  induction cs using mark_induction mark with
  | plain cs h => simpa [splitOn_plain h] using h
  | parts as bs has ih =>
    rw [splitOn_mark has]
    exact List.forall_mem_cons.mpr ⟨has, ih⟩

theorem length_splitOn (cs : List Char) : (splitOn [mark] cs).length = cs.count mark + 1 := by
  induction cs using mark_induction mark with
  | plain cs h => rw [splitOn_plain h, List.count_eq_zero_of_not_mem h, List.length_singleton]
  | parts as bs has ih =>
    rw [splitOn_mark has, List.length_cons, ih, List.count_append, List.count_cons_self,
      List.count_eq_zero_of_not_mem has]
    omega

end Text

namespace Template

variable {part cs before behind text : List Char} {parts more numbers : List (List Char)}
variable {sizes : List ℕ}

/-! ### Notation -/

/-- A character more at the start of the first part. -/
def extend (c : Char) : List (List Char) → List (List Char)
  | [] => []
  | part :: more => (c :: part) :: more

/-- The literal parts around the groups of digits of a regular expression that has nothing else: a
character stands for itself unless it is an operator, any other than a letter or a digit also
behind a backslash. -/
def readNotation : List Char → Option (List (List Char))
  | [] => some [[]]
  | '(' :: '\\' :: 'd' :: '+' :: ')' :: rest => (readNotation rest).map ([] :: ·)
  | '\\' :: c :: rest => if c.isAlphanum then none else (readNotation rest).map (extend c)
  | c :: rest =>
    if ".^$*+?\x7b[|()\\".toList.contains c then none else (readNotation rest).map (extend c)

theorem readNotation_group (rest : List Char) :
    readNotation ("(\\d+)".toList ++ rest) = (readNotation rest).map ([] :: ·) := rfl

/-- A character is read from the notation for it. -/
theorem readNotation_char (c : Char) (rest : List Char) :
    readNotation ((if isSpecial c then ['\\', c] else [c]) ++ rest) =
      (readNotation rest).map (extend c) := by
  split
  · next hspecial =>
    have hplain : c.isAlphanum = false := by
      have hall : ∀ d ∈ "()[]\x7b\x7d?*+-|^$\\.&~# \t\n\r\x0b\x0c".toList, d.isAlphanum = false :=
        Text.forall_of_all (by decide)
      exact hall c (by simpa [isSpecial] using hspecial)
    simp [readNotation, hplain]
  · next hspecial =>
    have hoperator : ".^$*+?\x7b[|()\\".toList.contains c = false := by
      rw [Bool.eq_false_iff]
      intro hc
      have hall : ∀ d ∈ ".^$*+?\x7b[|()\\".toList, isSpecial d = true :=
        Text.forall_of_all (by decide)
      exact hspecial (hall c (by simpa using hc))
    have hparen : c ≠ '(' := by
      rintro rfl
      cases hoperator
    have hslash : c ≠ '\\' := by
      rintro rfl
      cases hoperator
    rw [List.singleton_append, readNotation]
    · rw [hoperator]
      rfl
    all_goals simp [hparen, hslash]

theorem readNotation_part (part rest : List Char) (h : readNotation rest = some (cs :: more)) :
    readNotation (escapedPart part ++ rest) = some ((part ++ cs) :: more) := by
  induction part with
  | nil => exact h
  | cons c part ih =>
    have hcons : escapedPart (c :: part) ++ rest =
        (if isSpecial c then ['\\', c] else [c]) ++ (escapedPart part ++ rest) := by
      simp [escapedPart]
    rw [hcons, readNotation_char, ih]
    rfl

theorem notated_last (part : List Char) : (Template.mk [part]).notated.toList = escapedPart part := by
  unfold notated
  rw [List.map_singleton, String.intercalate_singleton, String.toList_ofList]

theorem notated_cons (part next : List Char) (more : List (List Char)) :
    (Template.mk (part :: next :: more)).notated.toList =
      escapedPart part ++ ("(\\d+)".toList ++ (Template.mk (next :: more)).notated.toList) := by
  unfold notated
  simp only [List.map_cons, String.intercalate_cons_cons, String.toList_append,
    String.toList_ofList, List.append_assoc]

/-- The notation of a template is read as the template. -/
theorem readNotation_notated (h : parts ≠ []) :
    readNotation (Template.mk parts).notated.toList = some parts := by
  induction parts with
  | nil => exact absurd rfl h
  | cons part more ih =>
    cases more with
    | nil =>
      have hnothing : readNotation [] = some [[]] := rfl
      simpa [notated_last] using readNotation_part part [] hnothing
    | cons next more =>
      have hgroup := readNotation_group (Template.mk (next :: more)).notated.toList
      rw [ih (List.cons_ne_nil next more)] at hgroup
      rw [notated_cons, readNotation_part part _ hgroup, List.append_nil]

/-! ### Instances -/

/-- The literal parts with numbers between them. -/
def interleaved : List (List Char) → List (List Char) → List Char
  | part :: more, number :: numbers => part ++ (number ++ interleaved more numbers)
  | part :: _, [] => part
  | [], _ => []

/-- There is a number for each placeholder, and each has digits only, one at least. -/
structure Fit (parts numbers : List (List Char)) : Prop where
  count : numbers.length + 1 = parts.length
  digits : ∀ number ∈ numbers, number ≠ [] ∧ ∀ c ∈ number, Text.isDigit c = true

/-- An instance of the template with some numbers stands in the text, behind one part of it and
before another. -/
structure Occurs (t : Template) (text before : List Char) (numbers : List (List Char))
    (behind : List Char) : Prop where
  whole : text = before ++ (interleaved t.parts numbers ++ behind)
  fit : Fit t.parts numbers

/-- Sizes that are the same, or smaller where they first differ. -/
def AtMost (sizes sizes' : List ℕ) : Prop := sizes = sizes' ∨ List.Lex (· < ·) sizes sizes'

theorem fit_last {last : List Char} (h : Fit [last] numbers) : numbers = [] :=
  List.length_eq_zero_iff.mp (by simpa using h.count)

theorem fit_cons {next : List Char} (h : Fit (part :: next :: more) numbers) :
    ∃ number others, numbers = number :: others ∧ number ≠ [] ∧
      (∀ c ∈ number, Text.isDigit c = true) ∧ Fit (next :: more) others := by
  cases numbers with
  | nil => cases h.count
  | cons number others =>
    obtain ⟨hnumber, hothers⟩ := List.forall_mem_cons.mp h.digits
    exact ⟨number, others, rfl, hnumber.1, hnumber.2, by simpa using h.count, hothers⟩

/-- Sizes that are found are those of the numbers of an instance. -/
theorem sizesAt?_sound (h : sizesAt? parts cs = some sizes) :
    ∃ numbers behind, cs = interleaved parts numbers ++ behind ∧ Fit parts numbers ∧
      numbers.map List.length = sizes ∧
      cut parts sizes cs = (numbers, (interleaved parts numbers).length) := by
  induction parts generalizing cs sizes with
  | nil => cases h
  | cons part more ih =>
    cases more with
    | nil =>
      obtain ⟨behind, rfl⟩ := sizesAt?_prefix h
      have hnone : sizes = [] := by
        simp only [sizesAt?] at h
        split at h
        · exact (Option.some.inj h).symm
        · cases h
      exact ⟨[], behind, rfl, ⟨rfl, List.forall_mem_nil _⟩, hnone.symm, by rw [hnone]; rfl⟩
    | cons next more =>
      obtain ⟨number, rest, others, rfl, hne, hdigits, rfl, hrest, -⟩ :=
        sizesAt?_some (List.cons_ne_nil next more) h
      obtain ⟨numbers, behind, rfl, hfit, hsizes, hcut⟩ := ih hrest
      refine ⟨number :: numbers, behind, ?_, ⟨?_, ?_⟩, ?_, ?_⟩
      · simp [interleaved]
      · simpa using hfit.count
      · exact List.forall_mem_cons.mpr ⟨⟨hne, hdigits⟩, hfit.digits⟩
      · rw [List.map_cons, hsizes]
      · simp [cut, interleaved, hcut, Nat.add_assoc]

/-- Where an instance starts sizes are found, and they are the greatest ones from the first number
to the last. -/
theorem sizesAt?_greatest (behind : List Char) (h : Fit parts numbers) :
    ∃ sizes, sizesAt? parts (interleaved parts numbers ++ behind) = some sizes ∧
      AtMost (numbers.map List.length) sizes := by
  induction parts generalizing numbers with
  | nil => cases h.count
  | cons part more ih =>
    cases more with
    | nil =>
      obtain rfl := fit_last h
      refine ⟨[], ?_, .inl rfl⟩
      rw [sizesAt?, if_pos]
      exact List.isPrefixOf_iff_prefix.mpr (List.prefix_append part behind)
    | cons next more =>
      obtain ⟨number, others, rfl, hne, hdigits, hfit⟩ := fit_cons h
      obtain ⟨sizes, hsizes, hle⟩ := ih hfit
      have hmore : next :: more ≠ [] := List.cons_ne_nil next more
      have hwhole : interleaved (part :: next :: more) (number :: others) ++ behind =
          part ++ (number ++ (interleaved (next :: more) others ++ behind)) := by
        simp [interleaved]
      have hsome : sizesAt? (part :: next :: more) (part ++ (number ++
          (interleaved (next :: more) others ++ behind))) ≠ none :=
        sizesAt?_ne_none hdigits hne hmore hsizes
      obtain ⟨found, hfound⟩ := Option.ne_none_iff_exists'.mp hsome
      refine ⟨found, by rw [hwhole, hfound], ?_⟩
      obtain ⟨number', rest, others', hsplit, -, -, rfl, hrest, hlonger⟩ :=
        sizesAt?_some hmore hfound
      have hsame := List.append_cancel_left hsplit
      rcases Nat.lt_trichotomy number.length number'.length with hlt | heq | hgt
      · exact .inr (.rel hlt)
      · -- numbers of one size are the same, and so is what comes behind them
        obtain ⟨rfl, rfl⟩ := List.append_inj hsame heq
        rw [hsizes] at hrest
        obtain rfl : sizes = others' := Option.some.inj hrest
        exact hle.imp (congrArg (number.length :: ·)) .cons
      · -- a longer number would have been taken
        have hwithin : number.length ≤
            ((number' ++ rest).takeWhile Text.isDigit).length := by
          rw [← hsame, List.takeWhile_append_of_pos hdigits, List.length_append]
          omega
        have hnone := hlonger number.length hgt hwithin
        rw [← hsame, List.drop_left, hsizes] at hnone
        cases hnone

/-! ### The search -/

theorem searchFrom_none {t : Template} {start : ℕ} (h : t.searchFrom start cs = none) :
    ∀ before behind, cs = before ++ behind → sizesAt? t.parts behind = none := by
  induction cs generalizing start with
  | nil =>
    rintro before behind hsplit
    obtain ⟨rfl, rfl⟩ := List.append_eq_nil_iff.mp hsplit.symm
    unfold searchFrom at h
    split at h
    · cases h
    · assumption
  | cons c cs ih =>
    unfold searchFrom at h
    split at h
    · cases h
    · next hnone =>
      intro before behind hsplit
      cases before with
      | nil =>
        rw [List.nil_append] at hsplit
        rw [← hsplit]
        exact hnone
      | cons d before =>
        obtain ⟨rfl, hrest⟩ := List.cons.inj hsplit
        exact ih h before behind hrest

theorem Occurs.found {t : Template} (h : t.Occurs text before numbers behind) :
    ∃ rest sizes, text = before ++ rest ∧ sizesAt? t.parts rest = some sizes ∧
      AtMost (numbers.map List.length) sizes := by
  obtain ⟨sizes, hsizes, hle⟩ := sizesAt?_greatest behind h.fit
  exact ⟨_, sizes, h.whole, hsizes, hle⟩

/-- What is found is an instance where it says it is. -/
theorem occurs_of_search {t : Template} {hit : Hit} (h : t.search text = some hit) :
    ∃ before behind, t.Occurs text before hit.numbers behind ∧ before.length = hit.start ∧
      hit.stop + behind.length = text.length := by
  obtain ⟨before, rest, sizes, rfl, hsizes, hstart, hnumbers, hstop, -⟩ := searchFrom_found h
  obtain ⟨numbers, behind, rfl, hfit, -, hcut⟩ := sizesAt?_sound hsizes
  rw [hcut] at hnumbers hstop
  rw [Nat.zero_add] at hstart
  refine ⟨before, behind, ⟨?_, ?_⟩, hstart.symm, ?_⟩
  · rw [hnumbers]
  · rw [hnumbers]
    exact hfit
  · simp only [hstop, hstart, List.length_append]
    omega

/-- Every other instance starts later, or its sizes come before those of the one found. -/
theorem search_best {t : Template} {hit : Hit} (h : t.search text = some hit)
    (other : t.Occurs text before numbers behind) :
    hit.start < before.length ∨
      hit.start = before.length ∧ AtMost (numbers.map List.length) (hit.numbers.map List.length) := by
  obtain ⟨first, rest, sizes, hsplit, hsizes, hstart, hnumbers, -, hnone⟩ := searchFrom_found h
  obtain ⟨rest', sizes', hsplit', hsizes', hle⟩ := other.found
  rw [Nat.zero_add] at hstart
  rw [hstart]
  rcases Nat.lt_trichotomy first.length before.length with hlt | heq | hgt
  · exact .inl hlt
  · obtain ⟨rfl, rfl⟩ := List.append_inj (hsplit.symm.trans hsplit') heq
    obtain ⟨found, -, -, -, hfound, hcut⟩ := sizesAt?_sound hsizes
    rw [hsizes'] at hsizes
    refine .inr ⟨rfl, ?_⟩
    rw [hnumbers, hcut, hfound, ← Option.some.inj hsizes]
    exact hle
  · -- no instance starts before the one that is found
    have hbefore : before <+: first :=
      List.prefix_of_prefix_length_le ⟨rest', hsplit'.symm⟩ ⟨rest, hsplit.symm⟩ hgt.le
    obtain ⟨post, rfl⟩ := hbefore
    have hrest : rest' = post ++ rest := by
      refine List.append_cancel_left (hsplit'.symm.trans ?_)
      rw [hsplit, List.append_assoc]
    have hpost : post ≠ [] := by
      rintro rfl
      simp at hgt
    rw [hrest, hnone before post rfl hpost] at hsizes'
    cases hsizes'

/-- A text with placeholders is split at them into literal parts, which may have any characters. The
search for its template succeeds exactly on texts in which an instance occurs. What it finds is an
instance; every other one starts later or there, and of those that start there it has the greatest
sizes of numbers, compared from the first to the last. -/
theorem search_leftmost (t : String) (mark : '#' ∈ t.toList) :
    ∃ T : Template, read Canonical.placeholder.toList t.toList = .ok (some T) ∧
      (['#'].intercalate T.parts = t.toList ∧ (∀ part ∈ T.parts, '#' ∉ part) ∧
        T.parts.length = t.toList.count '#' + 1) ∧
      readNotation T.notated.toList = some T.parts ∧
      ∀ text : String,
        ((∃ hit, T.search text.toList = some hit) ↔
          ∃ before numbers behind, T.Occurs text.toList before numbers behind) ∧
        ∀ hit, T.search text.toList = some hit →
          (∃ before behind, T.Occurs text.toList before hit.numbers behind ∧
            before.length = hit.start ∧ hit.stop + behind.length = text.toList.length) ∧
          ∀ before numbers behind, T.Occurs text.toList before numbers behind →
            hit.start < before.length ∨ hit.start = before.length ∧
              AtMost (numbers.map List.length) (hit.numbers.map List.length) := by
  refine ⟨⟨Text.splitOn ['#'] t.toList⟩, ?_, ⟨?_, ?_, ?_⟩, ?_, fun text => ⟨?_, ?_⟩⟩
  · exact congrArg Except.ok (ofText?_mark mark)
  · exact Text.splitOn_intercalate t.toList
  · exact Text.mark_not_mem_splitOn t.toList
  · exact Text.length_splitOn t.toList
  · exact readNotation_notated (Text.splitOn_ne_nil t.toList)
  · constructor
    · rintro ⟨hit, hsearch⟩
      obtain ⟨before, behind, hoccurs, -⟩ := occurs_of_search hsearch
      exact ⟨before, hit.numbers, behind, hoccurs⟩
    · rintro ⟨before, numbers, behind, hoccurs⟩
      refine Option.ne_none_iff_exists'.mp fun hnone => ?_
      obtain ⟨rest, sizes, hsplit, hsizes, -⟩ := hoccurs.found
      rw [searchFrom_none hnone before rest hsplit] at hsizes
      cases hsizes
  · exact fun hit hsearch => ⟨occurs_of_search hsearch, fun _ _ _ => search_best hsearch⟩

/-- The first number takes as much as leaves a digit for the second one and an instance of the rest,
which begins with a digit too. -/
theorem search_adjacent_numbers :
    let text := "((1213141)"
    '#' ∈ "(##1#".toList ∧
      ∃ T : Template, read Canonical.placeholder.toList "(##1#".toList = .ok (some T) ∧
        ∃ hit, T.search text.toList = some hit ∧ hit.start = 1 ∧
          hit.numbers = ["121".toList, "3".toList, "41".toList] ∧
          ∀ before numbers behind, T.Occurs text.toList before numbers behind →
            1 < before.length ∨ 1 = before.length ∧ AtMost (numbers.map List.length) [3, 1, 2] := by
  intro text
  have mark : '#' ∈ "(##1#".toList := by decide
  obtain ⟨T, hread, -, -, hall⟩ := search_leftmost "(##1#" mark
  have hparts : read Canonical.placeholder.toList "(##1#".toList =
      .ok (some ⟨[['('], [], ['1'], []]⟩) := rfl
  cases hparts.symm.trans hread
  have hfound : ((⟨[['('], [], ['1'], []]⟩ : Template).search text.toList).map
      (fun hit => (hit.start, hit.numbers)) =
        some (1, ["121".toList, "3".toList, "41".toList]) := by
    decide +kernel
  obtain ⟨hit, hsearch, hhit⟩ := Option.map_eq_some_iff.mp hfound
  obtain ⟨hstart, hnumbers⟩ := Prod.mk.inj hhit
  refine ⟨mark, _, hread, hit, hsearch, hstart, hnumbers, fun before numbers behind hoccurs => ?_⟩
  have hbest := ((hall text).2 hit hsearch).2 before numbers behind hoccurs
  rw [hstart, hnumbers] at hbest
  exact hbest

end Template

end Reroll
