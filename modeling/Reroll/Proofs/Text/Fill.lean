import Reroll.Proofs.Text.Blank

/-!
# Words in the place of marks

The marks of a text are filled with one word (`fill`), or each with a word of its own (`fillBy`).
Passes that leave both the marks and the words alone do the same before and after
(`squeeze_fillBy`, `strip_fillBy`). Words without blanks are neither made nor lost where blanks are
squeezed or stripped (`infix_squeeze`, `infix_strip`), and other characters are there as often as
before (`count_squeeze`, `count_strip`).
-/

namespace Reroll.Text

variable {p : Char → Bool} {c mark by' : Char} {word cs v : List Char} {inRun : Bool}
variable {words : ℕ → List Char}

/-- What holds of each character of a text is told by going through it. -/
theorem forall_of_all {P : Char → Prop} [DecidablePred P]
    (h : (cs.all fun c => decide (P c)) = true) : ∀ c ∈ cs, P c :=
  fun c hc => of_decide_eq_true (List.all_eq_true.mp h c hc)

/-- A text of one part, or of a first part, a mark and the text behind it. -/
theorem mark_induction (mark : Char) {motive : List Char → Prop}
    (plain : ∀ cs, mark ∉ cs → motive cs)
    (parts : ∀ as bs, mark ∉ as → motive bs → motive (as ++ mark :: bs)) (cs : List Char) :
    motive cs := by
  induction hlength : cs.length using Nat.strongRecOn generalizing cs with
  | _ length ih =>
    by_cases h : mark ∈ cs
    · obtain ⟨as, bs, rfl, has⟩ := List.eq_append_cons_of_mem h
      have hshorter : bs.length < length := by
        rw [← hlength, List.length_append, List.length_cons]
        omega
      exact parts as bs has (ih bs.length hshorter bs rfl)
    · exact plain cs h

/-! ### Filling -/

/-- Every mark of a text filled with a word. -/
def fill (mark : Char) (word cs : List Char) : List Char :=
  cs.flatMap fun c => if c = mark then word else [c]

theorem fill_mark : fill mark word (mark :: cs) = word ++ fill mark word cs := by
  unfold fill
  rw [List.flatMap_cons, if_pos rfl]

theorem fill_other (h : c ≠ mark) : fill mark word (c :: cs) = c :: fill mark word cs := by
  unfold fill
  rw [List.flatMap_cons, if_neg h]
  rfl

theorem fill_append (as bs : List Char) :
    fill mark word (as ++ bs) = fill mark word as ++ fill mark word bs :=
  List.flatMap_append

theorem fill_eq_self (h : mark ∉ cs) : fill mark word cs = cs := by
  induction cs with
  | nil => rfl
  | cons c cs ih =>
    rw [List.mem_cons, not_or] at h
    rw [fill_other (Ne.symm h.1), ih h.2]

/-- Replacing a single character fills it. -/
theorem replace_single : replace [mark] word cs = fill mark word cs := by
  unfold replace
  induction cs with
  | nil => rfl
  | cons c cs ih =>
    by_cases hc : c = mark
    · subst hc
      have hhead : [c].isPrefixOf (c :: cs) = true := by simp
      rw [replaceFrom, if_pos hhead, fill_mark, ← ih]
      rfl
    · have hhead : ¬[mark].isPrefixOf (c :: cs) = true := by simpa using Ne.symm hc
      rw [replaceFrom, if_neg hhead, fill_other hc, ih]

theorem mem_fill (h : c ∈ fill mark word cs) : c ∈ word ∨ c ∈ cs ∧ c ≠ mark := by
  obtain ⟨d, hd, hc⟩ := List.mem_flatMap.mp h
  by_cases hmark : d = mark
  · rw [if_pos hmark] at hc
    exact .inl hc
  · rw [if_neg hmark, List.mem_singleton] at hc
    subst hc
    exact .inr ⟨hd, hmark⟩

theorem mem_fill_of_mem (h : c ∈ cs) (hne : c ≠ mark) : c ∈ fill mark word cs :=
  List.mem_flatMap.mpr ⟨c, h, by rw [if_neg hne, List.mem_singleton]⟩

/-- As far as a filled text has no first letter of the word it is the text itself. -/
theorem fill_split {z : Char} {rest : List Char} (pre : List Char) (hz : z ∉ pre)
    (h : fill mark (z :: word) cs = pre ++ rest) :
    ∃ more, cs = pre ++ more ∧ rest = fill mark (z :: word) more := by
  induction pre generalizing cs with
  | nil => exact ⟨cs, rfl, h.symm⟩
  | cons d pre ih =>
    rw [List.mem_cons, not_or] at hz
    cases cs with
    | nil => cases h
    | cons c cs =>
      by_cases hc : c = mark
      · subst hc
        rw [fill_mark] at h
        exact absurd (List.cons.inj h).1 hz.1
      · rw [fill_other hc] at h
        obtain ⟨rfl, hrest⟩ := List.cons.inj h
        obtain ⟨more, rfl, hmore⟩ := ih hz.2 hrest
        exact ⟨more, rfl, hmore⟩

theorem prefix_fill {z : Char} (hz : z ∉ v) (h : v <+: fill mark (z :: word) cs) : v <+: cs := by
  obtain ⟨rest, hrest⟩ := h
  obtain ⟨more, rfl, -⟩ := fill_split v hz hrest.symm
  exact List.prefix_append v more

/-- One mark written for another. -/
def remark (old new : Char) (c : Char) : Char := if c = old then new else c

theorem remark_eq_iff {old new d : Char} (hold : d ≠ old) (hnew : d ≠ new) :
    remark old new c = d ↔ c = d := by
  unfold remark
  constructor
  · intro h
    split at h
    · exact absurd h.symm hnew
    · exact h
  · rintro rfl
    exact if_neg hold

theorem remark_eq_new {old new : Char} (hnew : c ≠ new) : remark old new c = new ↔ c = old := by
  unfold remark
  split
  · next h => exact iff_of_true rfl h
  · next h => exact iff_of_false hnew h

/-! ### Filling with words of their own -/

/-- The marks of a text filled from left to right, each with the next word. -/
def fillBy (mark : Char) (words : ℕ → List Char) : List Char → List Char
  | [] => []
  | c :: cs =>
    if c = mark then words 0 ++ fillBy mark (fun i => words (i + 1)) cs
    else c :: fillBy mark words cs

theorem fillBy_mark : fillBy mark words (mark :: cs) =
    words 0 ++ fillBy mark (fun i => words (i + 1)) cs := by
  rw [fillBy, if_pos rfl]

theorem fillBy_other (h : c ≠ mark) : fillBy mark words (c :: cs) = c :: fillBy mark words cs := by
  rw [fillBy, if_neg h]

/-- One word for all marks. -/
theorem fill_eq_fillBy : fill mark word cs = fillBy mark (fun _ => word) cs := by
  induction cs with
  | nil => rfl
  | cons c cs ih =>
    by_cases hc : c = mark
    · rw [hc, fill_mark, fillBy_mark, ih]
    · rw [fill_other hc, fillBy_other hc, ih]

theorem fillBy_remark {new : Char} (h : new ∉ cs) :
    fillBy new words (cs.map (remark mark new)) = fillBy mark words cs := by
  induction cs generalizing words with
  | nil => rfl
  | cons c cs ih =>
    rw [List.mem_cons, not_or] at h
    rw [List.map_cons, remark]
    by_cases hc : c = mark
    · rw [if_pos hc, hc, fillBy_mark, fillBy_mark, ih h.2]
    · rw [if_neg hc, fillBy_other hc, fillBy_other (Ne.symm h.1), ih h.2]

theorem fill_remark {new : Char} (h : new ∉ cs) :
    fill new word (cs.map (remark mark new)) = fill mark word cs := by
  rw [fill_eq_fillBy, fill_eq_fillBy, fillBy_remark h]

theorem fillBy_eq_self (h : mark ∉ cs) : fillBy mark words cs = cs := by
  induction cs with
  | nil => rfl
  | cons c cs ih =>
    rw [List.mem_cons, not_or] at h
    rw [fillBy_other (Ne.symm h.1), ih h.2]

theorem fillBy_before {as bs : List Char} (h : mark ∉ as) :
    fillBy mark words (as ++ bs) = as ++ fillBy mark words bs := by
  induction as with
  | nil => rfl
  | cons a as ih =>
    rw [List.mem_cons, not_or] at h
    rw [List.cons_append, fillBy_other (Ne.symm h.1), ih h.2, List.cons_append]

theorem fillBy_after {as bs : List Char} (h : mark ∉ bs) :
    fillBy mark words (as ++ bs) = fillBy mark words as ++ bs := by
  induction as generalizing words with
  | nil => exact fillBy_eq_self h
  | cons a as ih =>
    by_cases ha : a = mark
    · rw [ha, List.cons_append, fillBy_mark, fillBy_mark, ih, List.append_assoc]
    · rw [List.cons_append, fillBy_other ha, fillBy_other ha, ih, List.cons_append]

theorem fillBy_concat (init : List Char) : ∃ i,
    fillBy mark words (init ++ [mark]) = fillBy mark words init ++ words i := by
  induction init generalizing words with
  | nil => exact ⟨0, by rw [List.nil_append, fillBy_mark]; exact List.append_nil _⟩
  | cons a init ih =>
    by_cases ha : a = mark
    · obtain ⟨i, hi⟩ := @ih fun i => words (i + 1)
      exact ⟨i + 1, by rw [ha, List.cons_append, fillBy_mark, hi, fillBy_mark, List.append_assoc]⟩
    · obtain ⟨i, hi⟩ := @ih words
      exact ⟨i, by rw [List.cons_append, fillBy_other ha, hi, fillBy_other ha, List.cons_append]⟩

section Words

variable (nonempty : ∀ i, words i ≠ [])

include nonempty

/-- As far as a filled text has no first letter of a word it is the text itself. -/
theorem fillBy_split {rest : List Char} (pre : List Char)
    (first : ∀ i, ∀ z ∈ (words i).head?, z ∉ pre) (h : fillBy mark words cs = pre ++ rest) :
    ∃ more, cs = pre ++ more ∧ rest = fillBy mark words more := by
  induction pre generalizing cs with
  | nil => exact ⟨cs, rfl, h.symm⟩
  | cons d pre ih =>
    cases cs with
    | nil => cases h
    | cons c cs =>
      by_cases hc : c = mark
      · obtain ⟨z, w, hw⟩ := List.exists_cons_of_ne_nil (nonempty 0)
        have hz : z ∉ d :: pre := first 0 z (by rw [hw]; rfl)
        rw [hc, fillBy_mark, hw] at h
        have hd : z = d := (List.cons.inj h).1
        rw [hd] at hz
        exact absurd (List.mem_cons_self ..) hz
      · rw [fillBy_other hc] at h
        obtain ⟨hd, hrest⟩ := List.cons.inj h
        have hfirst : ∀ i, ∀ z ∈ (words i).head?, z ∉ pre := fun i z hz hmem =>
          first i z hz (List.mem_cons_of_mem _ hmem)
        obtain ⟨more, hmore, heq⟩ := ih hfirst hrest
        exact ⟨more, by rw [hd, hmore, List.cons_append], heq⟩

/-- A filled text starts with a word or as the text does. -/
theorem head?_fillBy (h : (fillBy mark words cs).head? = some c) :
    c ∈ words 0 ∨ cs.head? = some c := by
  cases cs with
  | nil => cases h
  | cons d cs =>
    by_cases hd : d = mark
    · obtain ⟨z, w, hw⟩ := List.exists_cons_of_ne_nil (nonempty 0)
      rw [hd, fillBy_mark, hw, List.cons_append, List.head?_cons] at h
      rw [hw, Option.some.inj h]
      exact .inl (List.mem_cons_self ..)
    · rw [fillBy_other hd, List.head?_cons] at h
      exact .inr h

/-- A filled text ends with a word or as the text does. -/
theorem getLast?_fillBy (h : (fillBy mark words cs).getLast? = some c) :
    (∃ i, c ∈ words i) ∨ cs.getLast? = some c := by
  rcases List.eq_nil_or_concat cs with rfl | ⟨init, d, rfl⟩
  · cases h
  · rw [List.concat_eq_append] at h ⊢
    by_cases hd : d = mark
    · have hconcat : ∃ i, fillBy mark words (init ++ [mark]) =
          fillBy mark words init ++ words i := fillBy_concat init
      obtain ⟨i, hi⟩ := hconcat
      have hword : (words i).getLast? = some c := by
        rw [hd, hi, List.getLast?_append] at h
        rw [List.getLast?_eq_some_getLast (nonempty i)] at h ⊢
        exact h
      exact .inl ⟨i, List.mem_of_getLast? hword⟩
    · have hmark : mark ∉ [d] := fun hmem => hd (List.mem_singleton.mp hmem).symm
      rw [fillBy_after hmark, List.getLast?_concat] at h
      rw [List.getLast?_concat]
      exact .inr h

end Words

/-! ### Passes over filled text -/

theorem squeeze_append (as bs : List Char) : squeeze p by' inRun (as ++ bs) =
    squeeze p by' inRun as ++ squeeze p by' (as.foldl (fun _ c => p c) inRun) bs := by
  induction as generalizing inRun with
  | nil => rfl
  | cons a as ih =>
    rw [List.cons_append, squeeze, squeeze, List.foldl_cons, ih, ih]
    cases hp : p a with
    | true => cases inRun <;> rfl
    | false => rfl

theorem squeeze_word (nonempty : word ≠ []) (alone : ∀ c ∈ word, p c = false) :
    squeeze p by' inRun (word ++ cs) = word ++ squeeze p by' false cs := by
  have hend : word.foldl (fun _ c => p c) inRun = false := by
    obtain ⟨init, last, rfl⟩ := (List.eq_nil_or_concat word).resolve_left nonempty
    rw [List.concat_eq_append, List.foldl_append]
    exact alone last (by simp)
  rw [squeeze_append, squeeze_eq_self_of_forall alone, hend]

theorem squeeze_fillBy (nonempty : ∀ i, words i ≠ [])
    (alone : ∀ i, ∀ c ∈ words i, p c = false) (hmark : p mark = false) (hby : by' ≠ mark) :
    squeeze p by' inRun (fillBy mark words cs) = fillBy mark words (squeeze p by' inRun cs) := by
  induction cs generalizing inRun words with
  | nil => rfl
  | cons c cs ih =>
    by_cases hc : c = mark
    · have hrest := @ih false (fun i => words (i + 1)) (fun i => nonempty (i + 1)) fun i =>
        alone (i + 1)
      rw [hc, fillBy_mark, squeeze_word (nonempty 0) (alone 0), hrest, squeeze,
        if_neg (Bool.eq_false_iff.mp hmark), fillBy_mark]
    · rw [fillBy_other hc, squeeze, squeeze, ih nonempty alone, ih nonempty alone]
      cases p c with
      | true =>
        cases inRun with
        | true => rfl
        | false => exact (fillBy_other hby).symm
      | false => exact (fillBy_other hc).symm

theorem reverse_fill : (fill mark word cs).reverse = fill mark word.reverse cs.reverse := by
  induction cs with
  | nil => rfl
  | cons c cs ih =>
    rw [List.reverse_cons, fill_append, ← ih]
    by_cases hc : c = mark
    · subst hc
      rw [fill_mark, fill_mark, List.reverse_append]
      simp [fill]
    · rw [fill_other hc, fill_other hc, List.reverse_cons]
      rfl

/-- Other characters start a filled text where they started it before. -/
theorem head?_fill (nonempty : word ≠ []) (apart : c ∉ word) (hc : c ≠ mark) :
    (fill mark word cs).head? = some c ↔ cs.head? = some c := by
  cases cs with
  | nil => exact Iff.rfl
  | cons d cs =>
    by_cases hd : d = mark
    · subst hd
      obtain ⟨first, word, rfl⟩ := List.exists_cons_of_ne_nil nonempty
      rw [List.mem_cons, not_or] at apart
      rw [fill_mark, List.cons_append, List.head?_cons, List.head?_cons]
      exact iff_of_false (fun h => apart.1 (Option.some.inj h).symm)
        fun h => hc (Option.some.inj h).symm
    · rw [fill_other hd, List.head?_cons, List.head?_cons]

theorem getLast?_fill (nonempty : word ≠ []) (apart : c ∉ word) (hc : c ≠ mark) :
    (fill mark word cs).getLast? = some c ↔ cs.getLast? = some c := by
  have hnonempty : word.reverse ≠ [] := fun h => nonempty (List.reverse_eq_nil_iff.mp h)
  have hapart : c ∉ word.reverse := fun h => apart (List.mem_reverse.mp h)
  rw [← List.head?_reverse, ← List.head?_reverse, reverse_fill, head?_fill hnonempty hapart hc]

/-- What is cut off both ends of a text stood around a part that neither begins nor ends so. -/
theorem trim_between {before after : List Char} (hbefore : ∀ c ∈ before, p c = true)
    (hafter : ∀ c ∈ after, p c = true) (first : ∀ c, cs.head? = some c → p c = false)
    (last : ∀ c, cs.getLast? = some c → p c = false) :
    (((before ++ cs ++ after).dropWhile p).reverse.dropWhile p).reverse = cs := by
  have hbare : (cs ++ after).dropWhile p = cs ++ if cs = [] then [] else after := by
    cases cs with
    | nil => exact List.dropWhile_eq_nil_iff.mpr hafter
    | cons c cs =>
      rw [if_neg nofun]
      exact List.dropWhile_cons_of_neg (Bool.eq_false_iff.mp (first c rfl))
  have hrest : ∀ c ∈ (if cs = [] then [] else after).reverse, p c = true := by
    intro c hc
    split at hc
    · cases hc
    · exact hafter c (List.mem_reverse.mp hc)
  have hend : cs.reverse.dropWhile p = cs.reverse := by
    cases hcs : cs.reverse with
    | nil => rfl
    | cons c more =>
      have hlast : cs.getLast? = some c := by rw [← List.head?_reverse, hcs]; rfl
      exact List.dropWhile_cons_of_neg (Bool.eq_false_iff.mp (last c hlast))
  rw [List.append_assoc, List.dropWhile_append_of_pos hbefore, hbare, List.reverse_append,
    List.dropWhile_append_of_pos hrest, hend, List.reverse_reverse]

theorem trim_split (p : Char → Bool) (cs : List Char) : ∃ before after,
    cs = before ++ ((cs.dropWhile p).reverse.dropWhile p).reverse ++ after ∧
    (∀ c ∈ before, p c = true) ∧ ∀ c ∈ after, p c = true := by
  have hend : ∀ ds : List Char, ∃ after, ds = (ds.reverse.dropWhile p).reverse ++ after ∧
      ∀ c ∈ after, p c = true := by
    intro ds
    have hsplit := List.takeWhile_append_dropWhile (p := p) (l := ds.reverse)
    refine ⟨(ds.reverse.takeWhile p).reverse, ?_, fun c hc => ?_⟩
    · rw [← List.reverse_append, hsplit, List.reverse_reverse]
    · exact List.mem_takeWhile_imp (List.mem_reverse.mp hc)
  obtain ⟨after, hafter, hblank⟩ := hend (cs.dropWhile p)
  have hsplit := List.takeWhile_append_dropWhile (p := p) (l := cs)
  refine ⟨cs.takeWhile p, after, ?_, fun c hc => List.mem_takeWhile_imp hc, hblank⟩
  rw [List.append_assoc, ← hafter, hsplit]

/-- Blanks around a text go when it is stripped. -/
theorem strip_between {before after : List Char} (hbefore : ∀ c ∈ before, isSpace c = true)
    (hafter : ∀ c ∈ after, isSpace c = true) (first : ∀ c, cs.head? = some c → isSpace c = false)
    (last : ∀ c, cs.getLast? = some c → isSpace c = false) :
    strip (before ++ cs ++ after) = cs :=
  trim_between hbefore hafter first last

/-- What is stripped off a text are the blanks at either end. -/
theorem strip_split (cs : List Char) : ∃ before after, cs = before ++ strip cs ++ after ∧
    (∀ c ∈ before, isSpace c = true) ∧ ∀ c ∈ after, isSpace c = true :=
  trim_split isSpace cs

theorem not_mem_of_blank (dark : isSpace c = false) (blank : ∀ d ∈ cs, isSpace d = true) :
    c ∉ cs := by
  intro hc
  rw [blank c hc] at dark
  cases dark

theorem strip_fillBy (nonempty : ∀ i, words i ≠ [])
    (alone : ∀ i, ∀ c ∈ words i, isSpace c = false) (hmark : isSpace mark = false) :
    strip (fillBy mark words cs) = fillBy mark words (strip cs) := by
  obtain ⟨before, after, hcs, hbefore, hafter⟩ := strip_split cs
  have hfill : fillBy mark words cs = before ++ fillBy mark words (strip cs) ++ after := by
    nth_rewrite 1 [hcs]
    rw [fillBy_after (not_mem_of_blank hmark hafter),
      fillBy_before (not_mem_of_blank hmark hbefore)]
  rw [hfill]
  apply strip_between hbefore hafter
  · intro c hc
    rcases head?_fillBy nonempty hc with hword | hhead
    · exact alone 0 c hword
    · exact strip_head? hhead
  · intro c hc
    rcases getLast?_fillBy nonempty hc with ⟨i, hword⟩ | hlast
    · exact alone i c hword
    · exact strip_getLast? hlast

/-! ### Words that last -/

section Infix

variable (nonempty : v ≠ []) (alone : ∀ c ∈ v, p c = false)

include alone in
theorem prefix_squeeze (hby : by' ∉ v) : v <+: squeeze p by' false cs ↔ v <+: cs := by
  induction v generalizing cs with
  | nil => exact iff_of_true (List.nil_prefix) (List.nil_prefix)
  | cons d v ih =>
    rw [List.mem_cons, not_or] at hby
    have hd := alone d (List.mem_cons_self ..)
    cases cs with
    | nil => simp [squeeze]
    | cons c cs =>
      rw [squeeze]
      cases hp : p c with
      | true =>
        have hne : d ≠ c := by
          rintro rfl
          rw [hd] at hp
          cases hp
        rw [if_pos rfl, if_neg Bool.false_ne_true, List.cons_prefix_cons, List.cons_prefix_cons]
        exact iff_of_false (fun h => hby.1 h.1.symm) fun h => hne h.1
      | false =>
        rw [if_neg Bool.false_ne_true, List.cons_prefix_cons, List.cons_prefix_cons,
          ih (fun c hc => alone c (List.mem_cons_of_mem _ hc)) hby.2]

include nonempty alone

theorem not_prefix_of_run {d : Char} (hd : p d = true) : ¬v <+: d :: cs := by
  obtain ⟨first, rest, rfl⟩ := List.exists_cons_of_ne_nil nonempty
  rw [List.cons_prefix_cons]
  rintro ⟨rfl, -⟩
  have hfirst := alone first (List.mem_cons_self ..)
  rw [hd] at hfirst
  cases hfirst

theorem infix_squeeze (hby : by' ∉ v) : v <:+: squeeze p by' inRun cs ↔ v <:+: cs := by
  induction cs generalizing inRun with
  | nil => exact Iff.rfl
  | cons c cs ih =>
    rw [squeeze]
    cases hp : p c with
    | true =>
      rw [if_pos rfl, List.infix_cons_iff, or_iff_right (not_prefix_of_run nonempty alone hp)]
      cases inRun with
      | true => exact ih
      | false =>
        have hno : ¬v <+: by' :: squeeze p by' true cs := by
          obtain ⟨first, rest, rfl⟩ := List.exists_cons_of_ne_nil nonempty
          rw [List.cons_prefix_cons]
          rintro ⟨rfl, -⟩
          exact hby (List.mem_cons_self ..)
        rw [if_neg Bool.false_ne_true, List.infix_cons_iff, or_iff_right hno]
        exact ih
    | false =>
      have hcons : v <+: squeeze p by' false (c :: cs) ↔ v <+: c :: cs := prefix_squeeze alone hby
      rw [squeeze, hp, if_neg Bool.false_ne_true] at hcons
      rw [if_neg Bool.false_ne_true, List.infix_cons_iff, List.infix_cons_iff, hcons, ih]

theorem infix_dropWhile : v <:+: cs.dropWhile p ↔ v <:+: cs := by
  induction cs with
  | nil => exact Iff.rfl
  | cons c cs ih =>
    cases hp : p c with
    | true =>
      rw [List.dropWhile_cons_of_pos hp, ih, List.infix_cons_iff,
        or_iff_right (not_prefix_of_run nonempty alone hp)]
    | false => rw [List.dropWhile_cons_of_neg (Bool.eq_false_iff.mp hp)]

end Infix

theorem infix_strip (nonempty : v ≠ []) (alone : ∀ c ∈ v, isSpace c = false) :
    v <:+: strip cs ↔ v <:+: cs := by
  have hsome : v.reverse ≠ [] := fun h => nonempty (List.reverse_eq_nil_iff.mp h)
  have halone : ∀ c ∈ v.reverse, isSpace c = false := fun c hc => alone c (List.mem_reverse.mp hc)
  unfold strip trimEnd
  rw [← List.reverse_infix, List.reverse_reverse, infix_dropWhile hsome halone, List.reverse_infix,
    infix_dropWhile nonempty alone]

theorem infix_append_iff {first : Char} {as bs : List Char} (h : first ∉ as) :
    first :: v <:+: as ++ bs ↔ first :: v <:+: bs := by
  induction as with
  | nil => exact Iff.rfl
  | cons a as ih =>
    rw [List.mem_cons, not_or] at h
    rw [List.cons_append, List.infix_cons_iff, List.cons_prefix_cons, ih h.2,
      or_iff_right fun hprefix => h.1 hprefix.1]

/-- A word of other letters is found in a filled text where it was before. -/
theorem infix_fill (nonempty : v ≠ []) {z : Char} (apart : ∀ c ∈ v, c ∉ z :: word)
    (hmark : mark ∉ v) : v <:+: fill mark (z :: word) cs ↔ v <:+: cs := by
  have hz : z ∉ v := fun h => apart z h (List.mem_cons_self ..)
  constructor
  · intro h
    induction cs with
    | nil => exact h
    | cons c cs ih =>
      by_cases hc : c = mark
      · subst hc
        obtain ⟨first, v, rfl⟩ := List.exists_cons_of_ne_nil nonempty
        rw [fill_mark, infix_append_iff (apart first (List.mem_cons_self ..))] at h
        exact (ih h).trans (List.suffix_cons c cs).isInfix
      · rw [fill_other hc, List.infix_cons_iff, ← fill_other hc] at h
        rcases h with h | h
        · exact (prefix_fill hz h).isInfix
        · exact (ih h).trans (List.suffix_cons c cs).isInfix
  · rintro ⟨before, after, rfl⟩
    rw [fill_append, fill_append, fill_eq_self hmark]
    exact ⟨_, _, rfl⟩

/-- A text is found again where only other characters have changed. -/
theorem map_eq_iff {g : Char → Char} (h : ∀ d ∈ v, ∀ c, g c = d ↔ c = d) :
    cs.map g = v ↔ cs = v := by
  induction cs generalizing v with
  | nil => rw [List.map_nil]
  | cons c cs ih =>
    cases v with
    | nil => exact iff_of_false nofun nofun
    | cons d v =>
      rw [List.map_cons, List.cons.injEq, List.cons.injEq, h d (List.mem_cons_self ..),
        ih fun d hd => h d (List.mem_cons_of_mem _ hd)]

theorem infix_map {g : Char → Char} (h : ∀ d ∈ v, ∀ c, g c = d ↔ c = d) :
    v <:+: cs.map g ↔ v <:+: cs := by
  constructor
  · rintro ⟨before, after, hsplit⟩
    obtain ⟨start, after', rfl, hstart, -⟩ := List.map_eq_append_iff.mp hsplit.symm
    obtain ⟨before', v', rfl, -, hv⟩ := List.map_eq_append_iff.mp hstart
    obtain rfl := (map_eq_iff h).mp hv
    exact ⟨before', after', rfl⟩
  · rintro ⟨before, after, rfl⟩
    refine ⟨before.map g, after.map g, ?_⟩
    rw [List.map_append, List.map_append, (map_eq_iff h).mpr rfl]

/-! ### Characters that last -/

theorem count_squeeze (alone : p c = false) (hby : by' ≠ c) :
    (squeeze p by' inRun cs).count c = cs.count c := by
  induction cs generalizing inRun with
  | nil => rfl
  | cons d cs ih =>
    rw [squeeze]
    cases hp : p d with
    | true =>
      have hd : d ≠ c := by
        rintro rfl
        rw [alone] at hp
        cases hp
      cases inRun with
      | true => simp [ih, hd]
      | false => simp [ih, hd, hby]
    | false => simp [List.count_cons, ih]

theorem count_strip (dark : isSpace c = false) : (strip cs).count c = cs.count c := by
  obtain ⟨before, after, hcs, hbefore, hafter⟩ := strip_split cs
  have hstart : before.count c = 0 := List.count_eq_zero.mpr (not_mem_of_blank dark hbefore)
  have hend : after.count c = 0 := List.count_eq_zero.mpr (not_mem_of_blank dark hafter)
  conv_rhs => rw [hcs, List.count_append, List.count_append, hstart, hend]
  omega

/-- There are as many of a character where only others have changed. -/
theorem count_map_eq {g : Char → Char} {d : Char} (h : ∀ e ∈ cs, g e = d ↔ e = c) :
    (cs.map g).count d = cs.count c := by
  unfold List.count
  rw [List.countP_map]
  refine List.countP_congr fun e he => ?_
  simpa using h e he

end Reroll.Text
