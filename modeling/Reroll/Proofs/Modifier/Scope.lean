import Reroll.Proofs.Canonical.Refold
import Reroll.Proofs.Modifier.Figure
import Reroll.Proofs.Modifier.Plain
import Reroll.Proofs.Text.Between

/-!
# Scoped lines

A target may be about all spells and a line about those of one kind, which it names behind "all".
Neither the target nor an instance of it is found in such a line: what they have in common begins at
the one "all" there is, and the name stands in between (`Scoping.not_infix`). So the fallbacks
decide, and the exclusion rejects the line (`scoped_rejected`).
-/

namespace Reroll

open Text (fill fillBy remark)

/-! ### The line -/

/-- Behind "all" the text has a "spell". -/
def Spans (cs : List Char) : Prop :=
  ∃ between, "all ".toList ++ (between ++ "spell".toList) <:+: cs

theorem Spans.mk {head tail : List Char} (context : "spell".toList <:+: tail) :
    Spans (head ++ ("all ".toList ++ tail)) := by
  obtain ⟨between, after, rfl⟩ := context
  exact ⟨between, head, after, by simp only [List.append_assoc]⟩

/-- What stands before "all": nothing, or something up to a space. -/
def Opens (head : List Char) : Prop := head = [] ∨ ∃ init, head = init ++ [' ']

/-- A line that names a scope: "all" stands before the name and nowhere else. -/
structure Scoping (head word tail : List Char) : Prop where
  opens : Opens head
  before : ¬"all".toList <:+: head
  behind : ¬"all".toList <:+: word ++ ' ' :: tail
  context : ¬"spell".toList <:+: word

/-- Where "all" stands but once it is the same. -/
theorem all_aligned {head pre tail behind : List Char} (opens : Opens head)
    (before : ¬"all".toList <:+: head) (after : ¬"all".toList <:+: behind)
    (h : pre ++ ("all ".toList ++ tail) = head ++ ("all ".toList ++ behind)) : tail = behind := by
  have hall : "all ".toList = ['a', 'l', 'l', ' '] := rfl
  have hword : "all".toList = ['a', 'l', 'l'] := rfl
  rw [hall] at h
  rw [hword] at before after
  rcases List.append_eq_append_iff.mp h with ⟨more, rfl, hmore⟩ | ⟨more, rfl, hmore⟩
  · -- the other "all" would begin in front of this one
    have hlast : ∀ c ∈ more.getLast?, c = ' ' := by
      intro c hc
      rcases opens with hnil | ⟨init, hinit⟩
      · rw [(List.append_eq_nil_iff.mp hnil).2] at hc
        cases hc
      · have hsome : (pre ++ more).getLast? = some c := by rw [List.getLast?_append, hc]; rfl
        rw [hinit, List.getLast?_concat] at hsome
        exact (Option.some.inj hsome).symm
    match more with
    | [] => exact List.append_cancel_left hmore
    | [a] => simp_all
    | [a, b] => simp_all
    | [a, b, c] => simp_all
    | a :: b :: c :: d :: more =>
      simp only [List.cons_append, List.cons.injEq] at hmore
      obtain ⟨rfl, rfl, rfl, -⟩ := hmore
      exact absurd ⟨pre, d :: more, by simp⟩ before
  · -- the other "all" would begin behind this one
    match more with
    | [] => exact (List.append_cancel_left hmore).symm
    | [a] => simp at hmore
    | [a, b] => simp at hmore
    | [a, b, c] => simp at hmore
    | a :: b :: c :: d :: more =>
      simp only [List.cons_append, List.cons.injEq] at hmore
      obtain ⟨-, -, -, -, rfl⟩ := hmore
      exact absurd ⟨more, ' ' :: tail, by simp⟩ after

/-- What has no name between "all" and "spell" is not in the line. -/
theorem Scoping.not_infix {head word tail cs : List Char} (h : Scoping head word tail)
    (spans : Spans cs) (absent : ¬word <:+: cs) :
    ¬cs <:+: head ++ ("all ".toList ++ (word ++ ' ' :: tail)) := by
  rintro hwithin
  obtain ⟨between, hbetween⟩ := spans
  obtain ⟨pre, post, hsplit⟩ := hbetween.trans hwithin
  have hsame : pre ++ ("all ".toList ++ (between ++ "spell".toList ++ post)) =
      head ++ ("all ".toList ++ (word ++ ' ' :: tail)) := by
    rw [← hsplit]
    simp only [List.append_assoc]
  have haligned := all_aligned h.opens h.before h.behind hsame
  rcases List.append_eq_append_iff.mp haligned with ⟨more, hword, -⟩ | ⟨more, hmore, -⟩
  · refine h.context ⟨between, more, ?_⟩
    exact hword.symm
  · have hname : word <:+: between ++ "spell".toList := hmore ▸ (List.prefix_append ..).isInfix
    exact absent ((hname.trans (List.suffix_append "all ".toList _).isInfix).trans hbetween)

/-! ### Words that tell scopes apart -/

/-- A word of letters that is part neither of a skill gem nor of the reserved word. -/
structure IsTelling (v : List Char) : Prop where
  nonempty : v ≠ []
  letters : ∀ c ∈ v, Text.isWord c = true ∧ Text.isDigit c = false ∧ c ∉ "z_#".toList
  skills : ¬v <:+: "skills".toList
  gems : ¬v <:+: "gems".toList
  standIn : ¬v <:+: 'q' :: (Canonical.reserved ++ ['q'])

-- The letters are run through, so that no instance that runs through all characters is chosen.
instance (v : List Char) : Decidable (IsTelling v) :=
  decidable_of_iff
    (v ≠ [] ∧ (v.all fun c => Text.isWord c && !Text.isDigit c && !"z_#".toList.contains c) ∧
      ¬v <:+: "skills".toList ∧ ¬v <:+: "gems".toList ∧
      ¬v <:+: 'q' :: (Canonical.reserved ++ ['q']))
    (by
      have hletters :
          (v.all fun c => Text.isWord c && !Text.isDigit c && !"z_#".toList.contains c) ↔
            ∀ c ∈ v, Text.isWord c = true ∧ Text.isDigit c = false ∧ c ∉ "z_#".toList := by
        simp [List.all_eq_true, and_assoc]
      rw [hletters]
      exact ⟨fun ⟨a, b, c, d, e⟩ => ⟨a, b, c, d, e⟩, fun ⟨a, b, c, d, e⟩ => ⟨a, b, c, d, e⟩⟩)

theorem isTelling_all : IsTelling "all".toList := by decide +kernel

theorem isTelling_spell : IsTelling "spell".toList := by decide +kernel

theorem isTelling_excluded : ∀ word ∈ ({} : Exclusion).words, IsTelling word.toList ∧
    ¬"all".toList <:+: word.toList ∧ ¬"spell".toList <:+: word.toList := by
  decide +kernel

namespace IsTelling

variable {v cs : List Char}

theorem not_mem (h : IsTelling v) {c : Char} (hc : c ∈ "z_#".toList) : c ∉ v :=
  fun hmem => (h.letters c hmem).2.2 hc

theorem dark (h : IsTelling v) : ∀ c ∈ v, Text.isSpace c = false := by
  intro c hc
  refine Bool.eq_false_iff.mpr fun hspace => ?_
  have hword := (h.letters c hc).1
  rw [Text.isWord_of_isSpace hspace] at hword
  cases hword

/-- The word is found in an instance where it is found in the template. -/
theorem infix_fillBy (h : IsTelling v) {words : ℕ → List Char} (some : ∀ i, words i ≠ [])
    (digits : ∀ i, ∀ c ∈ words i, Text.isDigit c = true) :
    v <:+: fillBy '#' words cs ↔ v <:+: cs := by
  refine Text.infix_fillBy h.nonempty some (fun i c hc hmem => ?_) (h.not_mem (by decide))
  have hdigit := (h.letters c hmem).2.1
  rw [digits i c hc] at hdigit
  cases hdigit

/-- The word is found where another word stands for a mark, unless it is in that. -/
theorem infix_fill (h : IsTelling v) (mark : Char) (hmark : mark ∈ "z_#".toList) :
    v <:+: fill mark Canonical.standIn cs ↔ v <:+: cs :=
  Text.infix_fill_between (h.not_mem (by decide)) h.standIn (h.not_mem hmark)

theorem infix_map (h : IsTelling v) : v <:+: cs.map (remark '_' ' ') ↔ v <:+: cs := by
  refine Text.infix_map fun d hd c => Text.remark_eq_iff ?_ ?_
  · rintro rfl
    exact h.not_mem (by decide) hd
  · rintro rfl
    cases h.dark ' ' hd

theorem infix_fold (h : IsTelling v) {inWord : Bool} :
    v <:+: Canonical.foldFrom inWord 0 cs ↔ v <:+: cs :=
  Canonical.infix_fold_iff h.nonempty (fun c hc => (h.letters c hc).1) h.skills h.gems

theorem infix_squeeze (h : IsTelling v) {inRun : Bool} :
    v <:+: Text.squeeze Text.isSpace ' ' inRun cs ↔ v <:+: cs :=
  Text.infix_squeeze h.nonempty h.dark fun hmem => Bool.noConfusion (h.dark ' ' hmem)

end IsTelling

namespace Canonical

variable {cs head tail v : List Char}

/-- With the reserved word for the placeholders a template is what it was made from. -/
theorem fill_template (cs : List Char) :
    fill '#' standIn (canonicalTemplateChars placeholder.toList cs) =
      fill '_' standIn (skeleton cs) := by
  have hnot : ∀ cs, '#' ∉ canonicalChars cs := fun _ => not_mem_canonicalChars (by decide)
  rw [canonicalTemplateChars_eq, ← canonicalChars_fill]
  split
  · exact Text.fill_replace (by decide) (hnot _)
  · next h => rw [Text.fill_eq_self (hnot cs), Text.fill_eq_self h]

/-- A word that tells scopes apart is in a template if it is in the canonical form of the text. -/
theorem infix_template (h : IsTelling v) (hwithin : v <:+: canonicalChars cs) :
    v <:+: canonicalTemplateChars placeholder.toList cs := by
  rw [canonicalChars_eq_skeleton, tidy, foldSkillGems, h.infix_fold,
    Text.infix_strip h.nonempty h.dark, squeezed, h.infix_squeeze, h.infix_map] at hwithin
  rwa [← h.infix_fill '#' (by decide), fill_template, h.infix_fill '_' (by decide)]

/-! ### From "all" to "spell" -/

theorem fold_all (opens : Opens head) : foldFrom false 0 (head ++ ("all ".toList ++ tail)) =
    foldFrom false 0 head ++ ("all ".toList ++ foldFrom false 0 tail) := by
  have hapart : Apart head ("all ".toList ++ tail) := by
    intro t u rest is _ _ hsplit
    cases u with
    | nil => rfl
    | cons c u =>
      obtain rfl : 'a' = c := (List.cons.inj hsplit).1
      have hletter : 'a' ∉ t ++ 'a' :: u := not_mem_skillGem is (by decide) (by decide)
      exact absurd (by simp) hletter
  have hafter : afterWord false head = false := by
    rcases opens with rfl | ⟨init, rfl⟩
    · rfl
    · rw [afterWord_append]
      rfl
  rw [fold_append hapart (.inl hafter), hafter, fold_clear _ (by decide)]
  rfl

theorem opens_fold (opens : Opens head) : Opens (foldFrom false 0 head) := by
  rcases opens with rfl | ⟨init, rfl⟩
  · exact .inl rfl
  · exact .inr ⟨_, fold_blanks_after (Text.forall_of_all (by decide)) init⟩

theorem mem_words_all (opens : Opens head) (tail : List Char) :
    "all".toList ∈ Text.words (head ++ ("all ".toList ++ tail)) := by
  have hspace : Text.isSpace ' ' = true := by decide
  have hword : Text.words "all".toList = ["all".toList] := by decide
  have hbehind : "all".toList ∈ Text.words ("all".toList ++ ' ' :: tail) := by
    rw [Text.words_append _ _ hspace, hword]
    exact List.mem_cons_self ..
  rcases opens with rfl | ⟨init, rfl⟩
  · exact hbehind
  · rw [List.append_assoc, List.singleton_append, Text.words_append _ _ hspace]
    exact List.mem_append_right _ hbehind

theorem spans_squeezed (context : "spell".toList <:+: tail) :
    Spans (squeezed (head ++ ("all ".toList ++ tail))) := by
  have hdark : ∀ c ∈ "all".toList, Text.isSpace c = false := Text.forall_of_all (by decide)
  have hspace : ∀ c ∈ [' '], Text.isSpace c = true := Text.forall_of_all (by decide)
  have hall : "all ".toList ++ tail = "all".toList ++ ([' '] ++ tail) := rfl
  unfold squeezed
  rw [Text.squeeze_append, hall, Text.squeeze_word (by decide) hdark,
    Text.squeeze_run (by decide) hspace]
  exact .mk (isTelling_spell.infix_squeeze.mpr context)

theorem spans_strip (h : Spans cs) : Spans (Text.strip cs) := by
  obtain ⟨between, hbetween⟩ := h
  refine ⟨between, Text.infix_strip_of_ends ?_ ?_ nofun hbetween⟩
  · rintro c ⟨⟩
    decide
  · intro c hc
    rw [← List.append_assoc, List.getLast?_append] at hc
    obtain rfl : 'l' = c := Option.some.inj hc
    decide

/-- A template is made from a text with the same parts around "all". -/
theorem skeleton_split (opens : Opens head)
    (template : canonicalTemplateChars placeholder.toList cs = head ++ ("all ".toList ++ tail)) :
    ∃ before behind, skeleton cs = before ++ ("all ".toList ++ behind) ∧ Opens before ∧
      fill '_' standIn behind = fill '#' standIn tail := by
  have hall : fill '#' standIn "all ".toList = "all ".toList := Text.fill_eq_self (by decide)
  have hfill := fill_template cs
  rw [template, Text.fill_append, Text.fill_append, hall] at hfill
  have hz : 'z' ∉ "all ".toList := by decide
  have hapart : ¬"all ".toList <:+: 'q' :: (reserved ++ ['q']) := by decide
  obtain ⟨before, behind, hsplit, hbefore, hbehind⟩ := Text.fill_between hz hapart hfill.symm
  refine ⟨before, behind, hsplit, ?_, hbehind⟩
  rcases opens with rfl | ⟨init, rfl⟩
  · left
    cases before with
    | nil => rfl
    | cons c before =>
      by_cases hc : c = '_'
      · rw [hc, Text.fill_mark, standIn_eq] at hbefore
        cases hbefore
      · rw [Text.fill_other hc] at hbefore
        cases hbefore
  · right
    have hlast : (fill '_' standIn before).getLast? = some ' ' := by
      rw [show fill '_' standIn before = _ from hbefore, Text.fill_append]
      exact List.getLast?_concat
    rw [Text.getLast?_fill (by decide) (by decide) (by decide)] at hlast
    exact List.getLast?_eq_some_iff.mp hlast

/-- The canonical form of a text has "all" and "spell" as its template has them. -/
theorem spans_canonicalChars (opens : Opens head) (context : "spell".toList <:+: tail)
    (template : canonicalTemplateChars placeholder.toList cs = head ++ ("all ".toList ++ tail)) :
    Spans (canonicalChars cs) ∧ "all".toList ∈ Text.words (canonicalChars cs) := by
  obtain ⟨before, behind, hskeleton, hbefore, hbehind⟩ := skeleton_split opens template
  have hcontext : "spell".toList <:+: behind := by
    rwa [← isTelling_spell.infix_fill '_' (by decide), hbehind,
      isTelling_spell.infix_fill '#' (by decide)]
  have hopens : Opens (before.map (remark '_' ' ')) := by
    rcases hbefore with rfl | ⟨init, rfl⟩
    · exact .inl rfl
    · exact .inr ⟨init.map (remark '_' ' '), List.map_append⟩
  have hmap : (skeleton cs).map (remark '_' ' ') =
      before.map (remark '_' ' ') ++ ("all ".toList ++ behind.map (remark '_' ' ')) := by
    rw [hskeleton, List.map_append, List.map_append]
    rfl
  rw [canonicalChars_eq_skeleton, tidy_eq, foldSkillGems, hmap, fold_all hopens]
  refine ⟨spans_strip (spans_squeezed ?_), ?_⟩
  · exact isTelling_spell.infix_fold.mpr (isTelling_spell.infix_map.mpr hcontext)
  · rw [Text.words_strip, squeezed, Text.words_squeeze]
    exact mem_words_all (opens_fold hopens) _

end Canonical

namespace Template

variable {cs text : List Char}

/-- Where a template is found there is an instance of it. -/
theorem sizesAt?_split {sizes : List ℕ} (h : sizesAt? (Text.splitOn ['#'] cs) text = some sizes) :
    ∃ words rest, text = fillBy '#' words cs ++ rest ∧ (∀ i, words i ≠ []) ∧
      ∀ i, ∀ c ∈ words i, Text.isDigit c = true := by
  induction cs using Text.mark_induction '#' generalizing text sizes with
  | plain cs hmark =>
    rw [Text.splitOn_plain hmark] at h
    obtain ⟨rest, rfl⟩ := sizesAt?_prefix h
    have hzero : ∀ c ∈ ['0'], Text.isDigit c = true := Text.forall_of_all (by decide)
    refine ⟨fun _ => ['0'], rest, ?_, fun _ => List.cons_ne_nil _ _, fun _ => hzero⟩
    rw [Text.fillBy_eq_self hmark]
  | parts as bs has ih =>
    rw [Text.splitOn_mark has] at h
    obtain ⟨number, rest, others, rfl, hne, hdigit, -, hrest, -⟩ :=
      sizesAt?_some (Text.splitOn_ne_nil bs) h
    obtain ⟨words, last, rfl, hsome, hdigits⟩ := ih hrest
    refine ⟨fun i => Nat.casesOn i number words, last, ?_, ?_, ?_⟩
    · rw [Text.fillBy_before has, Text.fillBy_mark]
      simp only [List.append_assoc]
      rfl
    · rintro (_ | i)
      · exact hne
      · exact hsome i
    · rintro (_ | i)
      · exact hdigit
      · exact hdigits i

theorem search_split {hit : Hit}
    (h : (Template.mk (Text.splitOn ['#'] cs)).search text = some hit) :
    ∃ words, fillBy '#' words cs <:+: text ∧ (∀ i, words i ≠ []) ∧
      ∀ i, ∀ c ∈ words i, Text.isDigit c = true := by
  obtain ⟨before, behind, sizes, rfl, hsizes, -⟩ := searchFrom_some h
  obtain ⟨words, rest, rfl, hwords⟩ := sizesAt?_split hsizes
  exact ⟨words, (List.prefix_append ..).isInfix.trans (List.suffix_append ..).isInfix, hwords⟩

end Template

/-- The numbers of a line leave its scope as it is. -/
theorem Scoping.of_fillBy {head word tail : List Char} {words : ℕ → List Char}
    (some : ∀ i, words i ≠ []) (digits : ∀ i, ∀ c ∈ words i, Text.isDigit c = true)
    (h : Scoping head word tail) (telling : IsTelling word) :
    ∃ first last, fillBy '#' words (head ++ ("all ".toList ++ (word ++ ' ' :: tail))) =
        first ++ ("all ".toList ++ (word ++ ' ' :: last)) ∧
      Scoping first word last ∧ ("spell".toList <:+: tail → "spell".toList <:+: last) := by
  have hspace : '#' ∉ [' '] := by decide
  obtain ⟨later, hlater⟩ : ∃ later : ℕ → List Char, later = fun i => words (i + head.count '#') :=
    ⟨_, rfl⟩
  have hsome : ∀ i, later i ≠ [] := fun i => hlater ▸ some _
  have hdigits : ∀ i, ∀ c ∈ later i, Text.isDigit c = true := fun i => hlater ▸ digits _
  refine ⟨fillBy '#' words head, fillBy '#' later tail, ?_, ?_, ?_⟩
  · rw [Text.fillBy_append, ← hlater, Text.fillBy_before (by decide),
      Text.fillBy_before (telling.not_mem (by decide)), Text.fillBy_other (by decide)]
  · refine ⟨?_, ?_, ?_, h.context⟩
    · rcases h.opens with rfl | ⟨init, rfl⟩
      · exact .inl rfl
      · exact .inr ⟨_, Text.fillBy_after hspace⟩
    · exact mt (isTelling_all.infix_fillBy some digits).mp h.before
    · have hbehind := h.behind
      rw [Text.infix_around (by decide)] at hbehind ⊢
      rwa [isTelling_all.infix_fillBy hsome hdigits]
  · exact (isTelling_spell.infix_fillBy hsome hdigits).mpr

/-- Behind "all" an instance has "spell" as the template has it. -/
theorem Spans.of_fillBy {head tail : List Char} {words : ℕ → List Char} (some : ∀ i, words i ≠ [])
    (digits : ∀ i, ∀ c ∈ words i, Text.isDigit c = true) (context : "spell".toList <:+: tail) :
    Spans (fillBy '#' words (head ++ ("all ".toList ++ tail))) := by
  rw [Text.fillBy_append, Text.fillBy_before (by decide)]
  refine .mk ((isTelling_spell.infix_fillBy ?_ ?_).mpr context)
  · exact fun i => some _
  · exact fun i => digits _

namespace Spec

/-- The exclusion rejects a line that has one of its words, if the target lacks it. -/
theorem rejects_excluded {word : String} {target text : List Char}
    (excluded : word ∈ ({} : Exclusion).words) (concerned : "all".toList ∈ Text.words target)
    (context : "spell".toList <:+: text) (present : word.toList <:+: text)
    (absent : ¬word.toList <:+: target) :
    ∃ found, ({} : Exclusion).rejects target text = .ok (some found) := by
  have hconcerns : ({} : Exclusion).concerns target = true :=
    List.contains_iff_mem.mpr concerned
  have hcontext : ({} : Exclusion).inContext text = .ok true :=
    congrArg Except.ok (Text.occursIn_iff.mpr context)
  have hmissing : Text.occursIn word.toList target = false :=
    Bool.eq_false_iff.mpr (mt Text.occursIn_iff.mp absent)
  have hfound : (({} : Exclusion).excludedWord? target text).isSome = true := by
    refine List.find?_isSome.mpr ⟨word, excluded, ?_⟩
    rw [Text.occursIn_iff.mpr present, hmissing]
    rfl
  obtain ⟨found, hfound⟩ := Option.isSome_iff_exists.mp hfound
  refine ⟨found, ?_⟩
  rw [Exclusion.rejects, if_pos hconcerns, hcontext]
  exact congrArg Except.ok hfound

theorem matchesPlain_rejected {s : Spec} {e : Exclusion} {target text : List Char} {found : String}
    (htarget : Canonical.canonicalChars s.pattern.toList = target) (apart : ¬target <:+: text)
    (rejected : e.rejects target text = .ok (some found)) :
    s.matchesPlain e text = .ok false := by
  have hmissing : Text.occursIn target text = false :=
    Bool.eq_false_iff.mpr (mt Text.occursIn_iff.mp apart)
  unfold matchesPlain
  rw [htarget]
  dsimp only
  rw [hmissing, rejected]
  split
  · rfl
  · rfl

theorem matchesRanged_rejected {s : Spec} {e : Exclusion} {target text : List Char} {found : String}
    (htarget : Canonical.canonicalTemplateChars Canonical.placeholder.toList s.pattern.toList =
      target)
    (missed : (Template.mk (Text.splitOn ['#'] target)).search text = none)
    (rejected : e.rejects target text = .ok (some found)) :
    s.matchesRanged e text = .ok false := by
  have hmissed : ((Template.ofText? Canonical.placeholder.toList target).bind
      fun t => t.search text) = none := by
    by_cases hmark : '#' ∈ target
    · rw [Template.ofText?_mark hmark]
      exact missed
    · have hnone : Template.ofText? Canonical.placeholder.toList target = none :=
        if_neg (mt Canonical.occursIn_single.mp hmark)
      rw [hnone]
      rfl
  unfold matchesRanged
  rw [htarget]
  dsimp only
  rw [hmissed, rejected]
  split
  · rfl
  · rfl

/-- A line that names a scope is not accepted for a target about all spells, whatever numbers are in
it and whatever the bounds of the target. -/
theorem scoped_rejected (s : Spec) (head tail : List Char) (word : String) (numerals : ℕ → Numeral)
    (template : Canonical.canonicalTemplateChars Canonical.placeholder.toList s.pattern.toList =
      head ++ ("all ".toList ++ tail))
    (opens : Opens head) (before : ¬"all".toList <:+: head) (behind : ¬"all".toList <:+: tail)
    (context : "spell".toList <:+: tail) (excluded : word ∈ ({} : Exclusion).words)
    (absent : ¬word.toList <:+: head ++ ("all ".toList ++ tail)) :
    s.accepts {} (String.ofList (fillBy '#' (fun i => (numerals i).digits)
      (head ++ ("all ".toList ++ (word.toList ++ ' ' :: tail))))) = .ok false := by
  obtain ⟨htelling, hnotAll, hnotSpell⟩ := isTelling_excluded word excluded
  have hdigits : ∀ i, ∀ c ∈ (numerals i).digits, Text.isDigit c = true := fun i =>
    (numerals i).isDigit
  have hsome : ∀ i, (numerals i).digits ≠ [] := fun i => (numerals i).nonempty
  have hscoping : Scoping head word.toList tail := by
    refine ⟨opens, before, ?_, hnotSpell⟩
    rw [Text.infix_around (by decide)]
    exact not_or.mpr ⟨hnotAll, behind⟩
  obtain ⟨first, last, hline, scoping, hcontext⟩ := hscoping.of_fillBy hsome hdigits htelling
  rw [hline, accepts, String.toList_ofList]
  have hapart : ∀ cs, Spans cs → ¬word.toList <:+: cs →
      ¬cs <:+: first ++ ("all ".toList ++ (word.toList ++ ' ' :: last)) := fun cs =>
    scoping.not_infix
  have hpresent : word.toList <:+: first ++ ("all ".toList ++ (word.toList ++ ' ' :: last)) :=
    ⟨first ++ "all ".toList, ' ' :: last, by simp only [List.append_assoc]⟩
  have hspell : "spell".toList <:+: first ++ ("all ".toList ++ (word.toList ++ ' ' :: last)) := by
    refine (hcontext context).trans ⟨first ++ ("all ".toList ++ (word.toList ++ [' '])), [], ?_⟩
    simp
  generalize first ++ ("all ".toList ++ (word.toList ++ ' ' :: last)) = text
    at hapart hpresent hspell
  split
  · -- the template is found where an instance of it is
    obtain ⟨found, hrejects⟩ := rejects_excluded excluded (Canonical.mem_words_all opens tail)
      hspell hpresent absent
    refine matchesRanged_rejected template ?_ hrejects
    refine Option.eq_none_iff_forall_ne_some.mpr fun hit hsearch => ?_
    obtain ⟨words, hwithin, hwords, hnumbers⟩ := Template.search_split hsearch
    refine hapart _ ?_ ?_ hwithin
    · exact .of_fillBy hwords hnumbers context
    · rwa [htelling.infix_fillBy hwords hnumbers]
  · obtain ⟨hspans, hconcerned⟩ := Canonical.spans_canonicalChars opens context template
    have hmissing : ¬word.toList <:+: Canonical.canonicalChars s.pattern.toList := fun h =>
      absent (template ▸ Canonical.infix_template htelling h)
    obtain ⟨found, hrejects⟩ := rejects_excluded excluded hconcerned hspell hpresent hmissing
    rw [matchesPlain_rejected rfl (hapart _ hspans hmissing) hrejects]
    rfl

/-- The level of fire spells is not that of all spells, for a target with bounds and for one without
them. -/
theorem scoped_rejected_fire :
    let ranged : Spec := {
      pattern := "+# to Level of all Spell Skill Gems", low := some (.int 5), high := some (.int 7)
      ranged := true }
    let head := "+# to level of ".toList
    let tail := "spell skills".toList
    (Canonical.canonicalTemplateChars Canonical.placeholder.toList ranged.pattern.toList =
        head ++ ("all ".toList ++ tail) ∧
      Opens head ∧ ¬"all".toList <:+: head ∧ ¬"all".toList <:+: tail ∧ "spell".toList <:+: tail ∧
      "fire" ∈ ({} : Exclusion).words ∧ ¬"fire".toList <:+: head ++ ("all ".toList ++ tail)) ∧
    ranged.accepts {} "+6 to level of all fire spell skills" = .ok false ∧
    (plain ranged.pattern).accepts {} "+6 to level of all fire spell skills" = .ok false := by
  intro ranged head tail
  let numeral : Numeral := ⟨"6".toList, by decide, by simp⟩
  have template : Canonical.canonicalTemplateChars Canonical.placeholder.toList
      ranged.pattern.toList = head ++ ("all ".toList ++ tail) := by
    decide +kernel
  have opens : Opens head := .inr ⟨"+# to level of".toList, by decide⟩
  have before : ¬"all".toList <:+: head := by decide
  have behind : ¬"all".toList <:+: tail := by decide
  have context : "spell".toList <:+: tail := by decide
  have excluded : "fire" ∈ ({} : Exclusion).words := by decide
  have absent : ¬"fire".toList <:+: head ++ ("all ".toList ++ tail) := by decide
  have hline : String.ofList (fillBy '#' (fun _ => numeral.digits)
      (head ++ ("all ".toList ++ ("fire".toList ++ ' ' :: tail)))) =
      "+6 to level of all fire spell skills" := by
    decide +kernel
  refine ⟨⟨template, opens, before, behind, context, excluded, absent⟩, ?_, ?_⟩
  · rw [← hline]
    exact scoped_rejected ranged head tail "fire" (fun _ => numeral) template opens before behind
      context excluded absent
  · rw [← hline]
    exact scoped_rejected (plain ranged.pattern) head tail "fire" (fun _ => numeral) template opens
      before behind context excluded absent

end Spec

end Reroll
