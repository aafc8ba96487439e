import Reroll.Proofs.Canonical.Template
import Reroll.Proofs.Text.Words

/-!
# Folding again

A text may be cut where no skill gem reaches over (`fold_append`), so the fold takes turns with
squeezing and stripping as one likes (`fold_squeeze`, `fold_strip`). A fold before characters are
blanked is made up for by the one after it (`refold`). So the passes that make a text canonical come
down to blanking, squeezing, stripping and one fold (`tidied_eq`), and a text is made canonical from
its template by blanking the marks (`canonicalChars_eq_skeleton`).
-/

namespace Reroll.Canonical

open Text (remark)

variable {c : Char} {cs as bs gem rest v word : List Char} {inWord after : Bool}

/-! ### Cutting a text -/

theorem afterWord_append (as bs : List Char) :
    afterWord inWord (as ++ bs) = afterWord (afterWord inWord as) bs :=
  List.foldl_append

theorem skillGemSize?_of_not (h : ¬(inWord = false ∧ ∃ size, skillGemSize? cs = some size)) :
    inWord = false → skillGemSize? cs = none := fun hstart =>
  Option.eq_none_iff_forall_ne_some.mpr fun size hsize => h ⟨hstart, size, hsize⟩

/-- No skill gem begins in the first text and ends in the second. -/
def Apart (as bs : List Char) : Prop :=
  ∀ t u rest, IsSkillGem (t ++ u) → t ≠ [] → t <:+ as → bs = u ++ rest → u = []

theorem Apart.behind (apart : Apart (as ++ cs) bs) : Apart cs bs := fun t u rest is ht hsuffix =>
  apart t u rest is ht (hsuffix.trans (List.suffix_append as cs))

/-- A skill gem at the start of both texts is in the first one. -/
theorem Apart.skillGem (apart : Apart (c :: cs) bs) {size : ℕ}
    (h : skillGemSize? (c :: (cs ++ bs)) = some size) :
    ∃ size, skillGemSize? (c :: cs) = some size := by
  obtain ⟨gem, rest, hsplit, -, is, hends⟩ := skillGemSize?_some h
  rcases List.append_eq_append_iff.mp (show (c :: cs) ++ bs = gem ++ rest from hsplit) with
    ⟨u, rfl, hbs⟩ | ⟨more, hcs, rfl⟩
  · obtain rfl := apart (c :: cs) u rest is (List.cons_ne_nil c cs) (List.suffix_refl _) hbs
    rw [List.append_nil] at is
    have hwhole := skillGemSize?_append is (show EndsBefore [] from rfl)
    rw [List.append_nil] at hwhole
    exact ⟨_, hwhole⟩
  · have hmore : EndsBefore more := by
      cases more with
      | nil => rfl
      | cons d more => exact hends
    rw [hcs]
    exact ⟨_, skillGemSize?_append is hmore⟩

/-- A text may be cut where no skill gem and no word reaches over. -/
theorem fold_append (apart : Apart as bs) (ends : afterWord inWord as = false ∨ EndsBefore bs) :
    foldFrom inWord 0 (as ++ bs) =
      foldFrom inWord 0 as ++ foldFrom (afterWord inWord as) 0 bs := by
  induction inWord, as using fold_induction with
  | nil inWord => rfl
  | keep inWord c cs none ih =>
    have hkeep : inWord = false → skillGemSize? (c :: (cs ++ bs)) = .none := by
      refine skillGemSize?_of_not ?_
      rintro ⟨hstart, size, hsize⟩
      obtain ⟨size, hgem⟩ := apart.skillGem hsize
      rw [none hstart] at hgem
      cases hgem
    have hwhole : Apart ([c] ++ cs) bs := apart
    have hrest : Apart cs bs := hwhole.behind
    rw [List.cons_append, foldFrom_keep hkeep, foldFrom_keep none, ih hrest ends]
    rfl
  | fold gem rest is hends ih =>
    have hafter : afterWord false (gem ++ rest) = afterWord true rest := by
      rw [afterWord_append, is.afterWord]
    have hboth : EndsBefore (rest ++ bs) := by
      cases rest with
      | nil =>
        rw [hafter] at ends
        exact ends.resolve_left nofun
      | cons d rest => exact hends
    rw [hafter] at ends ⊢
    rw [List.append_assoc, foldFrom_gem is hboth, foldFrom_gem is hends, ih apart.behind ends,
      List.append_assoc]

theorem IsSkillGem.ends (is : IsSkillGem gem) : ∃ init last, gem = init ++ [last] ∧
    Text.isSpace last = false := by
  obtain ⟨blanks, plural, -, -, rfl | rfl⟩ := is
  · exact ⟨"skill".toList ++ (blanks ++ "ge".toList), 'm', by simp, by decide⟩
  · exact ⟨"skill".toList ++ (blanks ++ "gem".toList), 's', by simp, by decide⟩

/-- Blanks at the start stay. -/
theorem fold_blanks_before (blank : ∀ c ∈ as, Text.isSpace c = true) (cs : List Char) :
    foldFrom false 0 (as ++ cs) = as ++ foldFrom false 0 cs := by
  induction as with
  | nil => rfl
  | cons a as ih =>
    obtain ⟨ha, hrest⟩ := List.forall_mem_cons.mp blank
    have hs : a ≠ 's' := by
      rintro rfl
      cases ha
    rw [List.cons_append, foldFrom_keep fun _ => skillGemSize?_none hs,
      Text.isWord_of_isSpace ha, ih hrest, List.cons_append]

/-- Blanks at the end stay. -/
theorem fold_blanks_after (blank : ∀ c ∈ bs, Text.isSpace c = true) (cs : List Char) :
    foldFrom inWord 0 (cs ++ bs) = foldFrom inWord 0 cs ++ bs := by
  have hapart : Apart cs bs := by
    rintro t u rest is - - rfl
    by_contra hu
    obtain ⟨init, last, hgem, hdark⟩ := is.ends
    obtain ⟨more, d, rfl⟩ := (List.eq_nil_or_concat u).resolve_left hu
    rw [List.concat_eq_append, ← List.append_assoc] at hgem
    have hd : d = last := List.singleton_inj.mp (List.append_inj_right' hgem rfl)
    rw [← hd, blank d (by simp)] at hdark
    cases hdark
  have hends : EndsBefore bs := by
    cases bs with
    | nil => rfl
    | cons b bs => exact Text.isWord_of_isSpace (blank b (List.mem_cons_self ..))
  have hsame : ∀ inWord, foldFrom inWord 0 bs = bs := by
    refine fun inWord => fold_eq_self fun h => ?_
    have hs := blank 's' (occurs_letter h)
    cases hs
  rw [fold_append hapart (.inr hends), hsame]

/-! ### Letters in a row -/

/-- No skill gem starts within a word. -/
theorem fold_letters (letters : ∀ c ∈ word, Text.isWord c = true) (cs : List Char) :
    foldFrom true 0 (word ++ cs) = word ++ foldFrom true 0 cs := by
  induction word with
  | nil => rfl
  | cons c word ih =>
    obtain ⟨hc, hrest⟩ := List.forall_mem_cons.mp letters
    have hkeep : true = false → skillGemSize? (c :: (word ++ cs)) = none := nofun
    rw [List.cons_append, foldFrom_keep hkeep, hc, ih hrest, List.cons_append]

theorem fold_unfold_letters {out : List Char} (letters : ∀ c ∈ word, Text.isWord c = true)
    (h : foldFrom true 0 cs = word ++ out) :
    ∃ more, cs = word ++ more ∧ foldFrom true 0 more = out := by
  induction word generalizing cs with
  | nil => exact ⟨cs, rfl, h⟩
  | cons c word ih =>
    obtain ⟨hc, hrest⟩ := List.forall_mem_cons.mp letters
    obtain ⟨next, rfl, hnext⟩ := fold_unfold (.inl rfl) h
    rw [hc] at hnext
    obtain ⟨more, rfl, hmore⟩ := ih hrest hnext
    exact ⟨more, rfl, hmore⟩

theorem fold_skills (cs : List Char) :
    foldFrom false 0 ("skills".toList ++ cs) = "skills".toList ++ foldFrom true 0 cs := by
  have hskills : "skills".toList = 's' :: "kills".toList := rfl
  have hnone : skillGemSize? ('s' :: ("kills".toList ++ cs)) = none := by
    refine Option.eq_none_iff_forall_ne_some.mpr fun size hsize => ?_
    obtain ⟨gem, out, hout, -, is, -⟩ := skillGemSize?_some hsize
    obtain ⟨blank, after, rfl, hblank⟩ := is.uncons
    obtain rfl : 's' = blank := by
      simp only [String.reduceToList, List.cons_append, List.nil_append, List.cons.injEq] at hout
      exact hout.2.2.2.2.2.1
    cases hblank
  have hword : Text.isWord 's' = true := by decide
  rw [hskills, List.cons_append, foldFrom_keep fun _ => hnone, hword,
    fold_letters (Text.forall_of_all (by decide))]
  rfl

/-- Where there is no s nothing is folded. -/
theorem fold_clear (kept : List Char) (clear : 's' ∉ kept) (cs : List Char) :
    foldFrom inWord 0 (kept ++ cs) = kept ++ foldFrom (afterWord inWord kept) 0 cs := by
  induction kept generalizing inWord with
  | nil => rfl
  | cons c kept ih =>
    rw [List.mem_cons, not_or] at clear
    rw [List.cons_append, foldFrom_keep fun _ => skillGemSize?_none (Ne.symm clear.1), ih clear.2]
    rfl

/-! ### The fold and the blanks -/

theorem fold_last (h : (foldFrom inWord 0 cs).getLast? = some c) :
    cs.getLast? = some c ∨ c = 's' := by
  induction inWord, cs using fold_induction with
  | nil inWord => cases h
  | keep inWord d cs none ih =>
    rw [foldFrom_keep none, List.getLast?_cons] at h
    rw [List.getLast?_cons]
    cases hlast : (foldFrom (Text.isWord d) 0 cs).getLast? with
    | none =>
      rw [fold_eq_nil (List.getLast?_eq_none_iff.mp hlast)]
      rw [hlast] at h
      exact .inl h
    | some e =>
      rw [hlast] at h
      refine (ih (hlast.trans h)).imp_left fun hcs => ?_
      rw [hcs]
      rfl
  | fold gem rest is ends ih =>
    rw [foldFrom_gem is ends, List.getLast?_append] at h
    cases hlast : (foldFrom true 0 rest).getLast? with
    | none =>
      rw [hlast] at h
      exact .inr (Option.some.inj h).symm
    | some d =>
      rw [hlast] at h
      refine (ih (hlast.trans h)).imp_left fun hrest => ?_
      rw [List.getLast?_append, hrest]
      rfl

/-- A text may be stripped before it is folded. -/
theorem fold_strip (cs : List Char) :
    foldFrom false 0 (Text.strip cs) = Text.strip (foldFrom false 0 cs) := by
  obtain ⟨before, after, hcs, hbefore, hafter⟩ := Text.strip_split cs
  have hfold : foldFrom false 0 cs = before ++ foldFrom false 0 (Text.strip cs) ++ after := by
    conv_lhs => rw [hcs, fold_blanks_after hafter, fold_blanks_before hbefore]
  rw [hfold]
  refine (Text.strip_between hbefore hafter (fun c hc => ?_) fun c hc => ?_).symm
  · rw [fold_head?] at hc
    exact Text.strip_head? hc
  · rcases fold_last hc with hlast | rfl
    · exact Text.strip_getLast? hlast
    · decide

theorem endsBefore_squeeze :
    EndsBefore (Text.squeeze Text.isSpace ' ' false cs) ↔ EndsBefore cs := by
  cases cs with
  | nil => exact Iff.rfl
  | cons c cs =>
    rw [Text.squeeze]
    cases hc : Text.isSpace c with
    | true => exact iff_of_true (by rfl) (Text.isWord_of_isSpace hc)
    | false => exact Iff.rfl

/-- The words of a skill gem are made of these letters. -/
theorem skillGem_letters {plural : List Char} (plurals : plural = [] ∨ plural = ['s']) :
    (∀ d ∈ "skill".toList, d ∈ "skillgem".toList) ∧
      ∀ d ∈ "gem".toList ++ plural, d ∈ "skillgem".toList := by
  refine ⟨Text.forall_of_all (by decide), ?_⟩
  rcases plurals with rfl | rfl
  · exact Text.forall_of_all (by decide)
  · exact Text.forall_of_all (by decide)

theorem isWord_letter : ∀ d ∈ "skillgem".toList, Text.isWord d = true :=
  Text.forall_of_all (by decide)

theorem isWord_plural {plural : List Char} (plurals : plural = [] ∨ plural = ['s']) :
    ∀ d ∈ plural, Text.isWord d = true := fun d hd =>
  isWord_letter d ((skillGem_letters plurals).2 d (List.mem_append_right _ hd))

theorem isSpace_skillGem_letters {plural : List Char} (plurals : plural = [] ∨ plural = ['s']) :
    (∀ d ∈ "skill".toList, Text.isSpace d = false) ∧
      ∀ d ∈ "gem".toList ++ plural, Text.isSpace d = false := by
  have hletter : ∀ d ∈ "skillgem".toList, Text.isSpace d = false :=
    Text.forall_of_all (by decide)
  obtain ⟨hskill, hgem⟩ := skillGem_letters plurals
  exact ⟨fun d hd => hletter d (hskill d hd), fun d hd => hletter d (hgem d hd)⟩

/-- A skill gem that is there when its blanks are one space was there before. -/
theorem skillGem_of_squeeze {size : ℕ}
    (h : skillGemSize? (Text.squeeze Text.isSpace ' ' false cs) = some size) :
    ∃ size, skillGemSize? cs = some size := by
  have hspace : Text.isSpace ' ' = true := by decide
  obtain ⟨gem, rest, hsplit, -, is, ends⟩ := skillGemSize?_some h
  obtain ⟨blanks, plural, hsome, hblank, hplural⟩ := is
  obtain ⟨hskill, hgem⟩ := isSpace_skillGem_letters hplural
  rw [List.append_assoc, List.append_assoc] at hsplit
  obtain ⟨behind, rfl, hbehind⟩ := Text.squeeze_split hspace hskill hsplit
  obtain ⟨blank, more, rfl⟩ := List.exists_cons_of_ne_nil hsome
  obtain ⟨hfirst, hmore⟩ := List.forall_mem_cons.mp hblank
  obtain ⟨run, next, rfl, hrun, hspaces, hdark, hnext⟩ := Text.squeeze_split_run hfirst hbehind
  have hnone : more = [] := by
    cases more with
    | nil => rfl
    | cons d more =>
      obtain ⟨hd, -⟩ := List.forall_mem_cons.mp hmore
      obtain ⟨again, _, rfl, hagain, hblanks, -, -⟩ := Text.squeeze_split_run hd hnext
      obtain ⟨e, again, rfl⟩ := List.exists_cons_of_ne_nil hagain
      have he := hblanks e (List.mem_cons_self ..)
      rw [hdark e rfl] at he
      cases he
  rw [hnone] at hnext
  obtain ⟨last, rfl, rfl⟩ := Text.squeeze_split hspace hgem hnext
  have hcs : "skill".toList ++ (run ++ ("gem".toList ++ plural ++ last)) =
      "skill".toList ++ (run ++ ("gem".toList ++ plural)) ++ last := by
    simp only [List.append_assoc]
  rw [hcs]
  exact ⟨_, skillGemSize?_append (.mk run plural hrun hspaces hplural) (endsBefore_squeeze.mp ends)⟩

/-- A text may be squeezed before it is folded. -/
theorem fold_squeeze {inRun : Bool} (start : inRun = true → inWord = false) :
    foldFrom inWord 0 (Text.squeeze Text.isSpace ' ' inRun cs) =
      Text.squeeze Text.isSpace ' ' inRun (foldFrom inWord 0 cs) := by
  induction inWord, cs using fold_induction generalizing inRun with
  | nil inWord => rfl
  | keep inWord c cs none ih =>
    rw [foldFrom_keep none, Text.squeeze, Text.squeeze]
    cases hc : Text.isSpace c with
    | true =>
      have hword : Text.isWord c = false := Text.isWord_of_isSpace hc
      have hrest := @ih true fun _ => hword
      rw [hword] at hrest ⊢
      cases inRun with
      | true =>
        rw [if_pos rfl, if_pos rfl, start rfl]
        exact hrest
      | false =>
        have hspace : Text.isWord ' ' = false := by decide
        rw [if_pos rfl, if_neg Bool.false_ne_true, if_pos rfl, if_neg Bool.false_ne_true,
          foldFrom_keep fun _ => skillGemSize?_none (by decide), hspace, hrest]
    | false =>
      have hkeep : inWord = false →
          skillGemSize? (c :: Text.squeeze Text.isSpace ' ' false cs) = .none := by
        refine skillGemSize?_of_not ?_
        rintro ⟨hstart, size, hsize⟩
        have hsqueeze : Text.squeeze Text.isSpace ' ' false (c :: cs) =
            c :: Text.squeeze Text.isSpace ' ' false cs := by
          rw [Text.squeeze, hc]
          rfl
        rw [← hsqueeze] at hsize
        obtain ⟨size, hgem⟩ := skillGem_of_squeeze hsize
        rw [none hstart] at hgem
        cases hgem
      rw [if_neg Bool.false_ne_true, if_neg Bool.false_ne_true, foldFrom_keep hkeep,
        @ih false (absurd · Bool.false_ne_true)]
  | fold gem rest is ends ih =>
    obtain ⟨blanks, plural, hsome, hblank, hplural⟩ := id is
    obtain ⟨hskill, hgem⟩ := isSpace_skillGem_letters hplural
    have hends : EndsBefore (Text.squeeze Text.isSpace ' ' false rest) :=
      endsBefore_squeeze.mpr ends
    have hspace : ∀ c ∈ [' '], Text.isSpace c = true := Text.forall_of_all (by decide)
    have hsqueezed : Text.squeeze Text.isSpace ' ' inRun
        ("skill".toList ++ (blanks ++ ("gem".toList ++ plural)) ++ rest) =
        "skill".toList ++ ([' '] ++ ("gem".toList ++ plural)) ++
          Text.squeeze Text.isSpace ' ' false rest := by
      rw [List.append_assoc, List.append_assoc, Text.squeeze_word (by decide) hskill,
        Text.squeeze_run hsome hblank, Text.squeeze_word (by simp) hgem]
      simp only [List.append_assoc]
      rfl
    rw [hsqueezed, foldFrom_gem (.mk [' '] plural (by decide) hspace hplural) hends,
      @ih false (absurd · Bool.false_ne_true), foldFrom_gem is ends,
      Text.squeeze_word (by decide) (Text.forall_of_all (by decide))]

/-- A text in single blanks with none at its ends, and folded. -/
def tidy (cs : List Char) : List Char := foldSkillGems (Text.strip (squeezed cs))

theorem tidy_eq (cs : List Char) : tidy cs = Text.strip (squeezed (foldSkillGems cs)) := by
  unfold tidy foldSkillGems squeezed
  rw [fold_strip, @fold_squeeze _ _ false nofun]

/-! ### Blanking between two folds -/

/-- Some characters become blanks, and nothing else becomes part of a word or of a skill gem. -/
structure Blanking (blank : Char → Char) : Prop where
  letter : ∀ d ∈ "skillgem".toList, ∀ c, blank c = d ↔ c = d
  space : ∀ c, Text.isSpace c = true → Text.isSpace (blank c) = true
  word : ∀ c, Text.isWord c = false → Text.isWord (blank c) = false

namespace Blanking

variable {blank : Char → Char}

theorem endsBefore (h : Blanking blank) (ends : EndsBefore rest) : EndsBefore (rest.map blank) := by
  cases rest with
  | nil => rfl
  | cons c rest => exact h.word c ends

theorem endsBefore_fold :
    EndsBefore ((foldFrom inWord 0 cs).map blank) ↔ EndsBefore (cs.map blank) := by
  unfold EndsBefore
  rw [List.head?_map, fold_head?, ← List.head?_map]

theorem map_letters (h : Blanking blank) (letters : ∀ d ∈ v, d ∈ "skillgem".toList) :
    cs.map blank = v ↔ cs = v :=
  Text.map_eq_iff fun d hd => h.letter d (letters d hd)

theorem skillGem (h : Blanking blank) (is : IsSkillGem gem) : IsSkillGem (gem.map blank) := by
  obtain ⟨blanks, plural, hsome, hblank, hplural⟩ := is
  obtain ⟨hskill, hgem⟩ := skillGem_letters hplural
  rw [List.map_append, List.map_append, (h.map_letters hskill).mpr rfl,
    (h.map_letters hgem).mpr rfl]
  refine .mk _ plural (by simpa using hsome) (fun d hd => ?_) hplural
  obtain ⟨e, he, rfl⟩ := List.mem_map.mp hd
  exact h.space e (hblank e he)

/-- What becomes a skill gem has its letters already. -/
theorem unmask (h : Blanking blank) (is : IsSkillGem gem) (hsplit : cs.map blank = gem ++ rest) :
    ∃ core plural more, cs = 's' :: (core ++ (plural ++ more)) ∧ 's' ∉ core ∧
      (∀ inWord, afterWord inWord core = true) ∧ (plural = [] ∨ plural = ['s']) ∧
      ('s' :: (core ++ plural)).map blank = gem ∧ more.map blank = rest := by
  obtain ⟨blanks, plural, -, hblank, hplural⟩ := is
  obtain ⟨hskill, hgem⟩ := skillGem_letters hplural
  obtain ⟨whole, more, rfl, hwhole, hmore⟩ := List.map_eq_append_iff.mp hsplit
  obtain ⟨skill, behind, rfl, hs, hbehind⟩ := List.map_eq_append_iff.mp hwhole
  obtain ⟨gap, last, rfl, hgap, hlast⟩ := List.map_eq_append_iff.mp hbehind
  obtain rfl := (h.map_letters hskill).mp hs
  obtain rfl := (h.map_letters hgem).mp hlast
  refine ⟨"kill".toList ++ (gap ++ "gem".toList), plural, more, by simp, ?_, ?_, hplural, ?_,
    hmore⟩
  · have hletter : blank 's' = 's' := (h.letter 's' (by decide) 's').mpr rfl
    simp only [List.mem_append, not_or]
    refine ⟨by decide, fun hmem => ?_, by decide⟩
    have hspace := hblank (blank 's') (hgap ▸ List.mem_map_of_mem hmem)
    rw [hletter] at hspace
    cases hspace
  · intro inWord
    rw [← List.append_assoc, afterWord_append]
    rfl
  · rw [← hwhole]
    simp

/-- What becomes a skill gem is left as it is by a fold. -/
theorem fold_unmask (h : Blanking blank) (is : IsSkillGem gem)
    (hsplit : (c :: cs).map blank = gem ++ rest) :
    ∃ more, more.length < (c :: cs).length ∧ more.map blank = rest ∧
      (c :: foldFrom (Text.isWord c) 0 cs).map blank = gem ++ (foldFrom true 0 more).map blank := by
  obtain ⟨core, plural, more, hcs, hclear, hafter, hplural, hgem, hrest⟩ := h.unmask is hsplit
  obtain ⟨rfl, rfl⟩ := List.cons.inj hcs
  have hshorter : more.length < ('s' :: (core ++ (plural ++ more))).length := by
    simp
    omega
  refine ⟨more, hshorter, hrest, ?_⟩
  rw [fold_clear core hclear, hafter, fold_letters (isWord_plural hplural), ← hgem]
  simp

/-- What becomes a skill gem behind a fold becomes one without it. -/
theorem unmask_fold (h : Blanking blank) {size : ℕ}
    (hsize : skillGemSize? ((c :: foldFrom (Text.isWord c) 0 cs).map blank) = some size) :
    ∃ size, skillGemSize? ((c :: cs).map blank) = some size := by
  obtain ⟨gem, rest, hsplit, -, is, ends⟩ := skillGemSize?_some hsize
  obtain ⟨core, plural, more, hfold, hclear, hafter, hplural, rfl, rfl⟩ := h.unmask is hsplit
  obtain ⟨rfl, hfold⟩ := List.cons.inj hfold
  obtain ⟨behind, rfl, hbehind⟩ := fold_unfold_append core hclear hfold
  rw [hafter] at hbehind
  obtain ⟨last, rfl, rfl⟩ := fold_unfold_letters (isWord_plural hplural) hbehind
  have hmasked := skillGemSize?_append is (endsBefore_fold.mp ends)
  exact ⟨_, by simpa using hmasked⟩

/-- A fold before characters are blanked is made up for by the one after it. -/
theorem refold (h : Blanking blank) (le : after = true → inWord = true) :
    foldFrom after 0 ((foldFrom inWord 0 cs).map blank) = foldFrom after 0 (cs.map blank) := by
  induction hlength : cs.length using Nat.strongRecOn generalizing cs inWord after with
  | _ length ih =>
    subst hlength
    cases cs with
    | nil => rfl
    | cons c cs =>
      by_cases hgem : inWord = false ∧ ∃ size, skillGemSize? (c :: cs) = some size
      · -- a skill gem is one after the blanks as well
        obtain ⟨rfl, size, hsize⟩ := hgem
        obtain rfl : after = false := Bool.eq_false_iff.mpr fun hafter => nomatch le hafter
        obtain ⟨gem, rest, hsplit, -, is, ends⟩ := skillGemSize?_some hsize
        have hskills : "skills".toList.map blank = "skills".toList :=
          (h.map_letters (Text.forall_of_all (by decide))).mpr rfl
        have hshorter : rest.length < (c :: cs).length := by
          obtain ⟨_, _, rfl, -⟩ := is.uncons
          rw [hsplit]
          simp
          omega
        rw [hsplit, foldFrom_gem is ends, List.map_append, hskills, fold_skills, List.map_append,
          foldFrom_gem (h.skillGem is) (h.endsBefore ends),
          ih rest.length hshorter (fun _ => rfl) rfl]
      · rw [foldFrom_keep (skillGemSize?_of_not hgem)]
        by_cases hmask : after = false ∧ ∃ size, skillGemSize? ((c :: cs).map blank) = some size
        · -- blanks have made a skill gem, of which the first fold has left everything
          obtain ⟨rfl, size, hsize⟩ := hmask
          obtain ⟨gem, rest, hsplit, -, is, ends⟩ := skillGemSize?_some hsize
          obtain ⟨more, hshorter, rfl, hfold⟩ := h.fold_unmask is hsplit
          rw [hfold, hsplit, foldFrom_gem is (endsBefore_fold.mpr ends), foldFrom_gem is ends,
            ih more.length hshorter (fun _ => rfl) rfl]
        · have hfolded : ¬(after = false ∧ ∃ size,
              skillGemSize? ((c :: foldFrom (Text.isWord c) 0 cs).map blank) = some size) :=
            fun ⟨hafter, _, hsize⟩ => hmask ⟨hafter, h.unmask_fold hsize⟩
          have hword : Text.isWord (blank c) = true → Text.isWord c = true := by
            intro hc
            by_contra hnot
            rw [h.word c (Bool.eq_false_iff.mpr hnot)] at hc
            cases hc
          rw [List.map_cons] at hmask hfolded
          rw [List.map_cons, List.map_cons, foldFrom_keep (skillGemSize?_of_not hfolded),
            foldFrom_keep (skillGemSize?_of_not hmask), ih cs.length (Nat.lt_succ_self _) hword rfl]

theorem refold_whole (h : Blanking blank) (cs : List Char) :
    foldSkillGems ((foldSkillGems cs).map blank) = foldSkillGems (cs.map blank) :=
  h.refold nofun

/-- A fold before characters are blanked makes no difference. -/
theorem tidy_fold (h : Blanking blank) (cs : List Char) :
    tidy ((foldSkillGems cs).map blank) = tidy (cs.map blank) := by
  rw [tidy_eq, h.refold_whole, ← tidy_eq]

/-- Nor do spaces for runs of characters that become blanks. -/
theorem tidy_squeeze (h : Blanking blank) {q : Char → Bool}
    (hrun : ∀ c, q c = true → Text.isSpace (blank c) = true) (cs : List Char) :
    tidy ((Text.squeeze q ' ' false cs).map blank) = tidy (cs.map blank) := by
  have hspace : Text.isSpace (blank ' ') = true := h.space ' ' (by decide)
  have hsqueeze : squeezed ((Text.squeeze q ' ' false cs).map blank) = squeezed (cs.map blank) :=
    Text.squeeze_map_squeeze hspace hrun nofun
  rw [tidy, tidy, hsqueeze]

/-- Blanks, single and not at the ends, and a fold before characters are blanked are made up for by
those after it. -/
theorem tidy_map_tidy (h : Blanking blank) (cs : List Char) :
    tidy ((tidy cs).map blank) = tidy (cs.map blank) := by
  have hstrip : ∀ cs : List Char, Text.strip (squeezed ((Text.strip cs).map blank)) =
      Text.strip (squeezed (cs.map blank)) := by
    intro cs
    obtain ⟨before, after, hcs, hbefore, hafter⟩ := Text.strip_split cs
    have hblanks : ∀ v : List Char, (∀ c ∈ v, Text.isSpace c = true) →
        ∀ c ∈ v.map blank, Text.isSpace c = true := by
      intro v hv c hc
      obtain ⟨d, hd, rfl⟩ := List.mem_map.mp hc
      exact h.space d (hv d hd)
    conv_rhs => rw [hcs, List.append_assoc, List.map_append, List.map_append]
    exact (Text.strip_squeeze_between (hblanks before hbefore) (hblanks after hafter) _).symm
  calc tidy ((tidy cs).map blank)
      = tidy ((Text.strip (squeezed cs)).map blank) := h.tidy_fold _
    _ = tidy ((squeezed cs).map blank) := by rw [tidy, tidy, hstrip]
    _ = tidy (cs.map blank) := h.tidy_squeeze h.space cs

/-- The separators and the first fold make no difference. -/
theorem tidied_eq (h : Blanking blank)
    (separators : ∀ c, isSeparator c = true → Text.isSpace (blank c) = true) (cs : List Char) :
    tidied blank cs = tidy (cs.map blank) := by
  calc tidied blank cs
      = tidy ((foldSkillGems (Text.squeeze isSeparator ' ' false cs)).map blank) := rfl
    _ = tidy ((Text.squeeze isSeparator ' ' false cs).map blank) := h.tidy_fold _
    _ = tidy (cs.map blank) := h.tidy_squeeze separators cs

end Blanking

theorem letter_canonical : ∀ d ∈ "skillgem".toList, isCanonicalChar d = true ∧ d ≠ ' ' :=
  Text.forall_of_all (by decide)

theorem blanking_blanked : Blanking blanked where
  letter d hd c := by
    obtain ⟨hcanonical, hdark⟩ := letter_canonical d hd
    exact blanked_eq_iff hcanonical hdark
  space c h := by
    unfold blanked
    split
    · exact h
    · decide
  word c h := by
    unfold blanked
    split
    · exact h
    · decide

theorem blanking_blankedApart : Blanking blankedApart where
  letter d hd c := blankedApart_eq_iff (.inr (letter_canonical d hd))
  space c h := by
    unfold blankedApart
    split
    · exact h
    · exact blanking_blanked.space c h
  word c h := by
    unfold blankedApart
    split
    · exact h
    · exact blanking_blanked.word c h

theorem blanking_remark : Blanking (remark '_' ' ') where
  letter d hd c := by
    have hletters : ∀ d ∈ "skillgem".toList, d ≠ '_' ∧ d ≠ ' ' := Text.forall_of_all (by decide)
    exact Text.remark_eq_iff (hletters d hd).1 (hletters d hd).2
  space c h := by
    unfold remark
    split
    · decide
    · exact h
  word c h := by
    unfold remark
    split
    · decide
    · exact h

theorem isSpace_blanked_separator {blank : Char → Char} (plain : ∀ c, c ≠ '_' → blank c = blanked c)
    (h : isSeparator c = true) : Text.isSpace (blank c) = true := by
  simp only [isSeparator, Bool.or_eq_true, beq_iff_eq] at h
  rcases h with (rfl | rfl) | rfl
  all_goals
    rw [plain _ (by decide)]
    decide

/-- Canonical text, with one fold at the end. -/
theorem canonicalChars_eq_tidy (cs : List Char) :
    canonicalChars cs = tidy ((cs.flatMap bare).map blanked) := by
  rw [canonicalChars_eq_tidied,
    blanking_blanked.tidied_eq fun _ => isSpace_blanked_separator fun _ _ => rfl]

/-- Blanks around a text make no difference to its canonical form. -/
theorem canonicalChars_strip (cs : List Char) : canonicalChars (Text.strip cs) = canonicalChars cs := by
  have hbare : ∀ c, Text.isSpace c = true → bare c = [c] ∧ blanked c = ' ' :=
    Text.forall_space (by decide +kernel)
  have hblanks : ∀ v : List Char, (∀ c ∈ v, Text.isSpace c = true) →
      ∀ c ∈ (v.flatMap bare).map blanked, Text.isSpace c = true := by
    intro v hv c hc
    rw [bare_eq_self fun c hc => (hbare c (hv c hc)).1] at hc
    obtain ⟨d, hd, rfl⟩ := List.mem_map.mp hc
    rw [(hbare d (hv d hd)).2]
    decide
  obtain ⟨before, after, hcs, hbefore, hafter⟩ := Text.strip_split cs
  have hsplit : (cs.flatMap bare).map blanked = (before.flatMap bare).map blanked ++
      (((Text.strip cs).flatMap bare).map blanked ++ (after.flatMap bare).map blanked) := by
    conv_lhs => rw [hcs]
    simp only [List.flatMap_append, List.map_append, List.append_assoc]
  rw [canonicalChars_eq_tidy, canonicalChars_eq_tidy, hsplit, tidy, tidy]
  unfold squeezed
  rw [Text.strip_squeeze_between (hblanks before hbefore) (hblanks after hafter)]

/-- The canonical form of a text is that of its template with blanks for the placeholders. -/
theorem canonicalChars_eq_skeleton (cs : List Char) :
    canonicalChars cs = tidy ((skeleton cs).map (remark '_' ' ')) := by
  have hmarks : blanked ∘ remark '_' '#' = remark '_' ' ' ∘ blankedApart := by
    funext c
    by_cases hc : c = '_'
    · rw [hc]
      decide
    · have hne : blanked c ≠ '_' := blanked_ne (by decide)
      simp only [Function.comp_apply, remark, if_neg hc, blankedApart, if_neg hne]
  have hskeleton : skeleton cs = tidy ((marked cs).map blankedApart) :=
    blanking_blankedApart.tidied_eq
      (fun _ => isSpace_blanked_separator fun _ hne => if_neg hne) _
  rw [canonicalChars_eq_tidy, ← bare_remark, List.map_map, hmarks, hskeleton,
    blanking_remark.tidy_map_tidy, List.map_map]

/-! ### Words that are not part of a skill gem -/

/-- Where a word ends another one is on this side or on that. -/
theorem infix_append_ends (nonempty : v ≠ []) (letters : ∀ c ∈ v, Text.isWord c = true)
    (ends : EndsBefore bs) : v <:+: as ++ bs ↔ v <:+: as ∨ v <:+: bs := by
  cases bs with
  | nil =>
    rw [List.append_nil, List.infix_nil]
    exact (or_iff_left nonempty).symm
  | cons b bs =>
    have hb : b ∉ v := by
      intro hmem
      have hdark : Text.isWord b = false := ends
      rw [letters b hmem] at hdark
      cases hdark
    have hbehind : v <:+: b :: bs ↔ v <:+: bs := by
      obtain ⟨first, v, rfl⟩ := List.exists_cons_of_ne_nil nonempty
      rw [List.mem_cons, not_or] at hb
      rw [List.infix_cons_iff, List.cons_prefix_cons, or_iff_right]
      exact fun hprefix => hb.1 hprefix.1.symm
    rw [Text.infix_around hb, hbehind]

/-- A word that is not part of a skill gem is found in a fold where it is found in the text. -/
theorem infix_fold_iff (nonempty : v ≠ []) (letters : ∀ c ∈ v, Text.isWord c = true)
    (skills : ¬v <:+: "skills".toList) (gems : ¬v <:+: "gems".toList) :
    v <:+: foldFrom inWord 0 cs ↔ v <:+: cs := by
  obtain ⟨first, more, rfl⟩ := List.exists_cons_of_ne_nil nonempty
  induction inWord, cs using fold_induction with
  | nil inWord => exact Iff.rfl
  | keep inWord c cs none ih =>
    rw [foldFrom_keep none, List.infix_cons_iff, List.infix_cons_iff]
    refine or_congr ?_ ih
    rw [List.cons_prefix_cons, List.cons_prefix_cons]
    obtain ⟨hfirst, hmore⟩ := List.forall_mem_cons.mp letters
    refine and_congr_right ?_
    rintro rfl
    rw [hfirst]
    constructor
    · rintro ⟨rest, hrest⟩
      obtain ⟨behind, rfl, -⟩ := fold_unfold_letters hmore hrest.symm
      exact List.prefix_append ..
    · rintro ⟨rest, rfl⟩
      rw [fold_letters hmore]
      exact List.prefix_append ..
  | fold gem rest is ends ih =>
    have hends : EndsBefore (foldFrom true 0 rest) := by
      unfold EndsBefore
      rwa [fold_head?]
    have hgem : ¬first :: more <:+: gem := by
      intro hwithin
      obtain ⟨blanks, plural, hsome, hblank, hplural⟩ := is
      have hdark : EndsBefore (blanks ++ ("gem".toList ++ plural)) := by
        obtain ⟨b, blanks, rfl⟩ := List.exists_cons_of_ne_nil hsome
        exact Text.isWord_of_isSpace (hblank b (List.mem_cons_self ..))
      rcases (infix_append_ends nonempty letters hdark).mp hwithin with h | h
      · exact skills (h.trans ⟨[], ['s'], rfl⟩)
      · have hfirst : first ∉ blanks := by
          intro hmem
          have hword := letters first (List.mem_cons_self ..)
          rw [Text.isWord_of_isSpace (hblank first hmem)] at hword
          cases hword
        rw [Text.infix_append_iff hfirst] at h
        refine gems (h.trans ?_)
        rcases hplural with rfl | rfl
        · exact ⟨[], ['s'], rfl⟩
        · exact List.infix_refl _
    rw [foldFrom_gem is ends, infix_append_ends nonempty letters hends, or_iff_right skills,
      infix_append_ends nonempty letters ends, or_iff_right hgem]
    exact ih

end Reroll.Canonical
