import Reroll.Proofs.Text.Fill
import Reroll.Text.Word

/-!
# Words between blanks

A character that is not in a word keeps the word to one side of it (`infix_around`). Squeezing and
stripping only touch blanks: the words of a text stay the same (`words_squeeze`, `words_strip`), and
so does everything from one character to another that are no blanks (`infix_strip_of_ends`). A text
that was squeezed and stripped is its words with a space between them (`intercalate_words_eq`). What
a squeezed text starts with was the start of the text before (`squeeze_split`, `squeeze_split_run`).
-/

namespace Reroll.Text

variable {p : Char → Bool} {c z by' : Char} {cs as bs v out : List Char} {inRun : Bool}

/-- The codes of the blanks. -/
def spaceCodes : List ℕ :=
  [9, 10, 11, 12, 13, 28, 29, 30, 31, 32, 0x85, 0xA0, 0x1680, 0x2000, 0x2001, 0x2002, 0x2003,
    0x2004, 0x2005, 0x2006, 0x2007, 0x2008, 0x2009, 0x200A, 0x2028, 0x2029, 0x202F, 0x205F, 0x3000]

/-- The blanks are run through. -/
theorem forall_space {P : Char → Prop} (blank : ∀ n ∈ spaceCodes, P (Char.ofNat n)) :
    ∀ c, isSpace c = true → P c := by
  intro c h
  have hcode : c.toNat ∈ spaceCodes := by
    simp only [isSpace, Bool.or_eq_true, Bool.and_eq_true, decide_eq_true_eq, beq_iff_eq] at h
    simp only [spaceCodes, List.mem_cons, List.not_mem_nil, or_false]
    omega
  have hc := blank c.toNat hcode
  rwa [Char.ofNat_toNat] at hc

theorem isWord_of_isSpace (h : isSpace c = true) : isWord c = false :=
  forall_space (P := fun c => isWord c = false) (by decide +kernel) c h

/-! ### Beside a character -/

/-- A word that lacks a character stands before it or behind it. -/
theorem split_around {before after : List Char} (hz : z ∉ v)
    (h : as ++ z :: bs = before ++ (v ++ after)) :
    (∃ more, as = before ++ (v ++ more) ∧ after = more ++ z :: bs) ∨
      ∃ more, before = as ++ z :: more ∧ bs = more ++ (v ++ after) := by
  rcases List.append_eq_append_iff.mp h with ⟨rest, rfl, hrest⟩ | ⟨rest, rfl, hrest⟩
  · cases rest with
    | nil =>
      cases v with
      | nil => exact .inl ⟨[], by simp, by simpa using hrest.symm⟩
      | cons d v =>
        obtain rfl : z = d := (List.cons.inj hrest).1
        exact absurd (List.mem_cons_self ..) hz
    | cons d rest =>
      obtain ⟨rfl, rfl⟩ := List.cons.inj hrest
      exact .inr ⟨rest, rfl, rfl⟩
  · left
    rcases List.append_eq_append_iff.mp hrest with ⟨more, rfl, rfl⟩ | ⟨more, rfl, hmore⟩
    · exact ⟨more, rfl, rfl⟩
    · cases more with
      | nil => exact ⟨[], by simp, hmore.symm⟩
      | cons d more =>
        obtain rfl : z = d := (List.cons.inj hmore).1
        exact absurd (by simp) hz

theorem infix_around (hz : z ∉ v) : v <:+: as ++ z :: bs ↔ v <:+: as ∨ v <:+: bs := by
  constructor
  · rintro ⟨before, after, h⟩
    rw [List.append_assoc] at h
    rcases split_around hz h.symm with ⟨more, rfl, -⟩ | ⟨more, -, rfl⟩
    · exact .inl ⟨before, more, List.append_assoc ..⟩
    · exact .inr ⟨more, after, List.append_assoc ..⟩
  · rintro (h | h)
    · exact h.trans (List.prefix_append ..).isInfix
    · exact h.trans ((List.suffix_cons z bs).trans (List.suffix_append ..)).isInfix

/-! ### Words -/

theorem piecesBetween_append (started as bs : List Char) (hc : p c = true) :
    piecesBetween p started (as ++ c :: bs) =
      piecesBetween p started as ++ piecesBetween p [] bs := by
  induction as generalizing started with
  | nil =>
    rw [List.nil_append, piecesBetween.eq_2, if_pos hc]
    rfl
  | cons a as ih =>
    rw [List.cons_append, piecesBetween, piecesBetween, ih, ih]
    split
    · rfl
    · rfl

theorem words_append (as bs : List Char) (hc : isSpace c = true) :
    words (as ++ c :: bs) = words as ++ words bs := by
  rw [words, piecesBetween_append [] as bs hc, List.filter_append]
  rfl

theorem words_blanks (blank : ∀ c ∈ as, isSpace c = true) (cs : List Char) :
    words (as ++ cs) = words cs := by
  induction as with
  | nil => rfl
  | cons a as ih =>
    obtain ⟨ha, hrest⟩ := List.forall_mem_cons.mp blank
    have hnone := words_append [] (as ++ cs) ha
    rw [List.nil_append] at hnone
    rw [List.cons_append, hnone, ih hrest]
    rfl

theorem words_squeeze (cs : List Char) : words (squeeze isSpace ' ' false cs) = words cs := by
  have hstarted : ∀ (started : List Char) (inRun : Bool), (inRun = true → started = []) →
      (piecesBetween isSpace started (squeeze isSpace ' ' inRun cs)).filter (fun w => !w.isEmpty) =
        (piecesBetween isSpace started cs).filter fun w => !w.isEmpty := by
    induction cs with
    | nil => exact fun _ _ _ => rfl
    | cons c cs ih =>
      intro started inRun hrun
      have hblank : isSpace ' ' = true := by decide
      rw [squeeze, piecesBetween.eq_2]
      cases hc : isSpace c with
      | true =>
        have hrest := ih [] true fun _ => rfl
        cases inRun with
        | true =>
          rw [hrun rfl]
          exact hrest
        | false =>
          rw [if_pos rfl, if_pos rfl, if_neg Bool.false_ne_true, piecesBetween.eq_2,
            if_pos hblank, List.filter_cons, List.filter_cons, hrest]
      | false =>
        rw [if_neg Bool.false_ne_true, if_neg Bool.false_ne_true, piecesBetween.eq_2, hc,
          if_neg Bool.false_ne_true]
        exact ih (c :: started) false (absurd · Bool.false_ne_true)
  exact hstarted [] false fun _ => rfl

theorem words_strip (cs : List Char) : words (strip cs) = words cs := by
  obtain ⟨before, after, hcs, hbefore, hafter⟩ := strip_split cs
  rw [List.append_assoc] at hcs
  conv_rhs => rw [hcs, words_blanks hbefore]
  cases after with
  | nil => rw [List.append_nil]
  | cons a after =>
    obtain ⟨ha, hrest⟩ := List.forall_mem_cons.mp hafter
    have hnone := words_blanks hrest []
    rw [List.append_nil] at hnone
    rw [words_append _ _ ha, hnone]
    exact (List.append_nil _).symm

theorem piecesBetween_plain (dark : ∀ c ∈ cs, p c = false) (started : List Char) :
    piecesBetween p started cs = [started.reverse ++ cs] := by
  induction cs generalizing started with
  | nil => simp [piecesBetween]
  | cons c cs ih =>
    obtain ⟨hc, hrest⟩ := List.forall_mem_cons.mp dark
    rw [piecesBetween, if_neg (Bool.eq_false_iff.mp hc), ih hrest]
    simp

theorem words_plain (dark : ∀ c ∈ cs, isSpace c = false) (nonempty : cs ≠ []) :
    words cs = [cs] := by
  rw [words, piecesBetween_plain dark]
  simpa using nonempty

/-- Text with single spaces, and none at its ends, is its words with a space between them. -/
theorem intercalate_words (only : ∀ c ∈ cs, isSpace c = true → c = ' ')
    (first : cs.head? ≠ some ' ') (last : cs.getLast? ≠ some ' ') (single : ¬[' ', ' '] <:+: cs) :
    [' '].intercalate (words cs) = cs := by
  induction cs using mark_induction ' ' with
  | plain cs hmark =>
    have hdark : ∀ c ∈ cs, isSpace c = false := by
      intro c hc
      by_contra hspace
      rw [only c hc (by simpa using hspace)] at hc
      exact hmark hc
    cases cs with
    | nil => rfl
    | cons c cs => rw [words_plain hdark nofun, List.intercalate_singleton]
  | parts as bs has ih =>
    have hsome : as ≠ [] := by
      rintro rfl
      exact first rfl
    have hdark : ∀ c ∈ as, isSpace c = false := by
      intro c hc
      by_contra hspace
      rw [only c (List.mem_append_left _ hc) (by simpa using hspace)] at hc
      exact has hc
    have hwithin : ' ' :: bs <:+: as ++ ' ' :: bs := (List.suffix_append as _).isInfix
    have hfirst : bs.head? ≠ some ' ' := fun h =>
      single (List.IsInfix.trans (doubled_cons.mpr (.inl ⟨rfl, h⟩)) hwithin)
    have hrest := ih (fun c hc => only c (by simp [hc])) hfirst
      (fun h => last (by simp [List.getLast?_append, List.getLast?_cons, h]))
      (fun h => single (h.trans ((List.suffix_cons ' ' bs).isInfix.trans hwithin)))
    -- a space at the end would be the last character
    have hbehind : words bs ≠ [] := by
      intro h
      rw [h] at hrest
      rw [← hrest] at last
      exact last (by simp)
    obtain ⟨w, ws, hws⟩ := List.exists_cons_of_ne_nil hbehind
    rw [hws] at hrest
    rw [words_append as bs (by decide), words_plain hdark hsome, hws, List.singleton_append,
      List.intercalate_cons_cons, hrest, List.append_assoc, List.singleton_append]

/-- Squeezed and stripped, a text is its words with a space between them. -/
theorem intercalate_words_eq (cs : List Char) :
    [' '].intercalate (words cs) = strip (squeeze isSpace ' ' false cs) := by
  have hwithin := strip_infix (squeeze isSpace ' ' false cs)
  have honly : ∀ c ∈ strip (squeeze isSpace ' ' false cs), isSpace c = true → c = ' ' := by
    intro c hc hspace
    exact mem_squeeze_run (hwithin.subset hc) hspace
  rw [← words_squeeze, ← words_strip]
  refine intercalate_words honly (fun h => ?_) (fun h => ?_) fun h => ?_
  · cases strip_head? h
  · cases strip_getLast? h
  · exact squeeze_single rfl (h.trans hwithin)

/-! ### Parts that stay -/

theorem infix_dropWhile_of_head (head : ∀ c ∈ v.head?, p c = false) (nonempty : v ≠ [])
    (h : v <:+: cs) : v <:+: cs.dropWhile p := by
  induction cs with
  | nil => exact h
  | cons c cs ih =>
    cases hp : p c with
    | true =>
      rw [List.dropWhile_cons_of_pos hp]
      refine ih ((List.infix_cons_iff.mp h).resolve_left fun hprefix => ?_)
      obtain ⟨d, v, rfl⟩ := List.exists_cons_of_ne_nil nonempty
      obtain ⟨rfl, -⟩ := List.cons_prefix_cons.mp hprefix
      rw [head d rfl] at hp
      cases hp
    | false =>
      rw [List.dropWhile_cons_of_neg (Bool.eq_false_iff.mp hp)]
      exact h

/-- From one character to another that are no blanks nothing is stripped off. -/
theorem infix_strip_of_ends (first : ∀ c ∈ v.head?, isSpace c = false)
    (last : ∀ c ∈ v.getLast?, isSpace c = false) (nonempty : v ≠ []) (h : v <:+: cs) :
    v <:+: strip cs := by
  have hstart := infix_dropWhile_of_head first nonempty h
  have hlast : ∀ c ∈ v.reverse.head?, isSpace c = false := by
    rw [List.head?_reverse]
    exact last
  have hnonempty : v.reverse ≠ [] := by simpa using nonempty
  unfold strip trimEnd
  rw [← List.reverse_infix, List.reverse_reverse]
  exact infix_dropWhile_of_head hlast hnonempty (List.reverse_infix.mpr hstart)

/-! ### Squeezed again -/

/-- A squeeze before the characters are changed is made up for by the one after it. -/
theorem squeeze_map_squeeze {q : Char → Bool} {sep : Char} {b : Char → Char} {skipping : Bool}
    (hsep : p (b sep) = true) (hrun : ∀ c, q c = true → p (b c) = true)
    (start : skipping = true → inRun = true) :
    squeeze p by' inRun ((squeeze q sep skipping cs).map b) = squeeze p by' inRun (cs.map b) := by
  induction cs generalizing inRun skipping with
  | nil => rfl
  | cons c cs ih =>
    rw [squeeze]
    cases hq : q c with
    | true =>
      have hrest := @ih true true fun _ => rfl
      rw [if_pos rfl, List.map_cons, squeeze, if_pos (hrun c hq)]
      cases skipping with
      | true =>
        rw [if_pos rfl, start rfl, if_pos rfl]
        exact hrest
      | false =>
        rw [if_neg Bool.false_ne_true, List.map_cons, squeeze, if_pos hsep, hrest]
    | false =>
      have hrest := fun inRun => @ih inRun false (absurd · Bool.false_ne_true)
      rw [if_neg Bool.false_ne_true, List.map_cons, List.map_cons, squeeze, squeeze, hrest, hrest]

theorem strip_blanks_after (blank : ∀ c ∈ as, isSpace c = true) (cs : List Char) :
    strip (cs ++ as) = strip cs := by
  obtain ⟨before, after, hcs, hbefore, hafter⟩ := strip_split cs
  have hends : ∀ c ∈ after ++ as, isSpace c = true := fun c hc =>
    (List.mem_append.mp hc).elim (hafter c) (blank c)
  conv_lhs => rw [hcs, List.append_assoc]
  exact strip_between hbefore hends (fun _ => strip_head?) fun _ => strip_getLast?

/-! ### Back from a squeezed text -/

theorem squeeze_true (cs : List Char) :
    squeeze p by' true cs = squeeze p by' false (cs.dropWhile p) := by
  induction cs with
  | nil => rfl
  | cons c cs ih =>
    rw [squeeze]
    cases hp : p c with
    | true => rw [List.dropWhile_cons_of_pos hp, ← ih, if_pos rfl, if_pos rfl]
    | false =>
      rw [List.dropWhile_cons_of_neg (Bool.eq_false_iff.mp hp), squeeze, hp]
      rfl

theorem strip_squeeze_dropWhile (cs : List Char) :
    strip (squeeze isSpace ' ' false (cs.dropWhile isSpace)) =
      strip (squeeze isSpace ' ' false cs) := by
  cases cs with
  | nil => rfl
  | cons c cs =>
    cases hc : isSpace c with
    | true =>
      rw [List.dropWhile_cons_of_pos hc, ← squeeze_true, squeeze, if_pos hc,
        if_neg Bool.false_ne_true]
      rfl
    | false => rw [List.dropWhile_cons_of_neg (Bool.eq_false_iff.mp hc)]

/-- Blanks around a text make no difference to it when it is squeezed and stripped. -/
theorem strip_squeeze_between (hbefore : ∀ c ∈ as, isSpace c = true)
    (hafter : ∀ c ∈ bs, isSpace c = true) (cs : List Char) :
    strip (squeeze isSpace ' ' false (as ++ (cs ++ bs))) =
      strip (squeeze isSpace ' ' false cs) := by
  have hblanks : ∀ inRun, ∀ c ∈ squeeze isSpace ' ' inRun bs, isSpace c = true := by
    intro inRun c hc
    rcases mem_squeeze hc with rfl | hc
    · decide
    · exact hafter c hc
  rw [← strip_squeeze_dropWhile, List.dropWhile_append_of_pos hbefore, strip_squeeze_dropWhile,
    squeeze_append, strip_blanks_after (hblanks _)]

/-- A run is squeezed to one character. -/
theorem squeeze_run {run : List Char} (nonempty : run ≠ []) (hrun : ∀ c ∈ run, p c = true)
    (cs : List Char) : squeeze p by' false (run ++ cs) = by' :: squeeze p by' true cs := by
  obtain ⟨c, run, rfl⟩ := List.exists_cons_of_ne_nil nonempty
  obtain ⟨hc, hrest⟩ := List.forall_mem_cons.mp hrun
  rw [List.cons_append, squeeze, if_pos hc, if_neg Bool.false_ne_true, squeeze_true,
    List.dropWhile_append_of_pos hrest, ← squeeze_true]

theorem squeeze_split (hby : p by' = true) (alone : ∀ c ∈ v, p c = false)
    (h : squeeze p by' false cs = v ++ out) :
    ∃ more, cs = v ++ more ∧ squeeze p by' false more = out := by
  induction v generalizing cs with
  | nil => exact ⟨cs, rfl, h⟩
  | cons d v ih =>
    obtain ⟨hd, hrest⟩ := List.forall_mem_cons.mp alone
    cases cs with
    | nil => cases h
    | cons c cs =>
      rw [squeeze] at h
      cases hp : p c with
      | true =>
        rw [hp, if_pos rfl, if_neg Bool.false_ne_true] at h
        obtain rfl : by' = d := (List.cons.inj h).1
        rw [hby] at hd
        cases hd
      | false =>
        rw [hp, if_neg Bool.false_ne_true, List.cons_append] at h
        obtain ⟨rfl, htail⟩ := List.cons.inj h
        obtain ⟨more, rfl, hmore⟩ := ih hrest htail
        exact ⟨more, rfl, hmore⟩

/-- Where a squeezed text starts with a blank there was a run of them. -/
theorem squeeze_split_run {d : Char} (hd : p d = true) (h : squeeze p by' false cs = d :: out) :
    ∃ run more, cs = run ++ more ∧ run ≠ [] ∧ (∀ c ∈ run, p c = true) ∧
      (∀ c ∈ more.head?, p c = false) ∧ squeeze p by' false more = out := by
  cases cs with
  | nil => cases h
  | cons c cs =>
    rw [squeeze] at h
    cases hp : p c with
    | false =>
      rw [hp, if_neg Bool.false_ne_true] at h
      obtain rfl : c = d := (List.cons.inj h).1
      rw [hd] at hp
      cases hp
    | true =>
      rw [hp, if_pos rfl, if_neg Bool.false_ne_true, squeeze_true] at h
      refine ⟨c :: cs.takeWhile p, cs.dropWhile p, ?_, List.cons_ne_nil _ _, ?_, ?_,
        (List.cons.inj h).2⟩
      · rw [List.cons_append, List.takeWhile_append_dropWhile]
      · exact List.forall_mem_cons.mpr ⟨hp, fun c hc => List.mem_takeWhile_imp hc⟩
      · intro c hc
        have hnot := List.head?_dropWhile_not p cs
        rw [hc] at hnot
        exact hnot

end Reroll.Text
