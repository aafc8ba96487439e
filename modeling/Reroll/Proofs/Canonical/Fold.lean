import Mathlib.Data.Bool.Basic
import Mathlib.Data.List.TakeWhile
import Reroll.Canonical.Text

/-!
# Folding skill gems

The fold goes through a text once and writes each "skill gem" that stands there as whole words as
"skills". It leaves none behind (`not_occurs_fold`), and a text without any stays as it is
(`fold_eq_self`).
-/

namespace Reroll.Canonical

/-- "skill", blanks and "gem" or "gems". -/
inductive IsSkillGem : List Char → Prop
  | mk (blanks plural : List Char) (some : blanks ≠ [])
    (blank : ∀ c ∈ blanks, Text.isSpace c = true) (plurals : plural = [] ∨ plural = ['s']) :
    IsSkillGem ("skill".toList ++ (blanks ++ ("gem".toList ++ plural)))

/-- No word goes on at the start of the text. -/
def EndsBefore (rest : List Char) : Prop := rest.head?.any Text.isWord = false

/-- The last character belongs to a word; before the first one the flag tells. -/
def afterWord (inWord : Bool) (before : List Char) : Bool :=
  before.foldl (fun _ c => Text.isWord c) inWord

/-- Somewhere in the text a "skill gem" stands as whole words. -/
inductive Occurs : Bool → List Char → Prop
  | here {gem rest : List Char} (is : IsSkillGem gem) (ends : EndsBefore rest) :
    Occurs false (gem ++ rest)
  | later {inWord : Bool} {c : Char} {cs : List Char} (h : Occurs (Text.isWord c) cs) :
    Occurs inWord (c :: cs)

variable {inWord : Bool} {c : Char} {cs gem rest plural : List Char} {size : Nat}

/-! ### Where a skill gem stands -/

theorem gemSize?_append (plurals : plural = [] ∨ plural = ['s']) (ends : EndsBefore rest) :
    gemSize? ("gem".toList ++ (plural ++ rest)) = some (3 + plural.length) := by
  unfold EndsBefore at ends
  rcases plurals with rfl | rfl
  · cases rest with
    | nil => rfl
    | cons c rest =>
      have hs : c ≠ 's' := by
        rintro rfl
        cases ends
      simp_all [gemSize?]
  · simp_all [gemSize?]

theorem gemSize?_some (h : gemSize? cs = some size) :
    ∃ plural rest, cs = "gem".toList ++ (plural ++ rest) ∧ (plural = [] ∨ plural = ['s']) ∧
      size = 3 + plural.length ∧ EndsBefore rest := by
  unfold gemSize? at h
  split at h
  · next hprefix =>
    obtain ⟨rest, rfl⟩ := List.isPrefixOf_iff_prefix.mp hprefix
    obtain ⟨hends, hsize⟩ := Option.ite_none_left_eq_some.mp h
    by_cases hs : ∃ after, rest = 's' :: after
    · obtain ⟨after, rfl⟩ := hs
      cases hsize
      exact ⟨['s'], after, rfl, .inr rfl, rfl, Bool.eq_false_of_not_eq_true hends⟩
    · have hhead : ((("gem".toList ++ rest).drop 3).head? == some 's') = false := by
        cases rest with
        | nil => rfl
        | cons c after =>
          have hc : c ≠ 's' := fun hc => hs ⟨after, by rw [hc]⟩
          simpa using hc
      rw [hhead] at hends hsize
      cases hsize
      exact ⟨[], rest, rfl, .inl rfl, rfl, Bool.eq_false_of_not_eq_true hends⟩
  · cases h

theorem skillGemSize?_append (is : IsSkillGem gem) (ends : EndsBefore rest) :
    skillGemSize? (gem ++ rest) = some gem.length := by
  obtain ⟨blanks, plural, hsome, hblank, hplural⟩ := is
  have hfirst : (blanks ++ ("gem".toList ++ (plural ++ rest))).takeWhile Text.isSpace = blanks := by
    rw [List.takeWhile_append_of_pos hblank]
    simp [Text.isSpace]
  have hassoc : "skill".toList ++ (blanks ++ ("gem".toList ++ plural)) ++ rest =
      "skill".toList ++ (blanks ++ ("gem".toList ++ (plural ++ rest))) := by
    simp only [List.append_assoc]
  have hlength : blanks.length ≠ 0 := fun h => hsome (List.eq_nil_of_length_eq_zero h)
  have hdrop : ("skill".toList ++ (blanks ++ ("gem".toList ++ (plural ++ rest)))).drop 5 =
      blanks ++ ("gem".toList ++ (plural ++ rest)) := rfl
  rw [hassoc, skillGemSize?, if_pos (List.isPrefixOf_iff_prefix.mpr (List.prefix_append _ _)),
    hdrop]
  dsimp only
  rw [hfirst, if_neg hlength, List.drop_left, gemSize?_append hplural ends]
  simp
  omega

theorem skillGemSize?_some (h : skillGemSize? cs = some size) :
    ∃ gem rest, cs = gem ++ rest ∧ gem.length = size ∧ IsSkillGem gem ∧ EndsBefore rest := by
  unfold skillGemSize? at h
  split at h
  · next hprefix =>
    obtain ⟨rest, rfl⟩ := List.isPrefixOf_iff_prefix.mp hprefix
    have hdrop : ("skill".toList ++ rest).drop 5 = rest := rfl
    rw [hdrop] at h
    obtain ⟨hsome, hgem⟩ := Option.ite_none_left_eq_some.mp h
    obtain ⟨k, hk, rfl⟩ := Option.map_eq_some_iff.mp hgem
    obtain ⟨plural, after, hcs, hplural, rfl, hends⟩ := gemSize?_some hk
    obtain ⟨blanks, hblanks⟩ : ∃ blanks, rest.takeWhile Text.isSpace = blanks := ⟨_, rfl⟩
    have hblank : ∀ c ∈ blanks, Text.isSpace c = true := fun c hc =>
      List.mem_takeWhile_imp (hblanks ▸ hc)
    have hrest : rest = blanks ++ rest.drop blanks.length := by
      have hprefix : blanks <+: rest := hblanks ▸ List.takeWhile_prefix _
      exact (List.prefix_iff_eq_append.mp hprefix).symm
    rw [hblanks] at hcs hsome ⊢
    rw [hcs] at hrest
    subst hrest
    refine ⟨_, after, ?_, ?_, .mk blanks plural ?_ hblank hplural, hends⟩
    · simp only [List.append_assoc]
    · simp
      omega
    · exact fun hnil => hsome (by rw [hnil]; rfl)
  · cases h

theorem IsSkillGem.afterWord (is : IsSkillGem gem) (inWord : Bool) :
    Canonical.afterWord inWord gem = true := by
  obtain ⟨blanks, plural, -, -, rfl | rfl⟩ := is <;>
    simp [Canonical.afterWord, Text.isWord, Text.isAsciiWord]

theorem IsSkillGem.uncons (is : IsSkillGem gem) :
    ∃ blank after, gem = 's' :: ("kill".toList ++ (blank :: after)) ∧
      Text.isSpace blank = true := by
  obtain ⟨blanks, plural, hsome, hblank, hplural⟩ := is
  obtain ⟨blank, more, rfl⟩ := List.exists_cons_of_ne_nil hsome
  exact ⟨blank, _, rfl, hblank blank (List.mem_cons_self ..)⟩

theorem skillGemSize?_head (h : skillGemSize? (c :: cs) = some size) : c = 's' := by
  obtain ⟨gem, rest, hsplit, -, is, -⟩ := skillGemSize?_some h
  obtain ⟨blank, after, rfl, -⟩ := is.uncons
  exact (List.cons.inj hsplit).1

/-- No skill gem is there where no s is. -/
theorem skillGemSize?_none (h : c ≠ 's') : skillGemSize? (c :: cs) = none :=
  Option.eq_none_iff_forall_ne_some.mpr fun _ hsize => h (skillGemSize?_head hsize)

theorem occurs_cons : Occurs inWord (c :: cs) ↔
    (inWord = false ∧ ∃ size, skillGemSize? (c :: cs) = some size) ∨ Occurs (Text.isWord c) cs := by
  constructor
  · intro h
    generalize htext : c :: cs = text at h ⊢
    cases h with
    | here is ends => exact .inl ⟨rfl, _, skillGemSize?_append is ends⟩
    | later h =>
      cases htext
      exact .inr h
  · rintro (⟨rfl, size, hsize⟩ | h)
    · obtain ⟨gem, rest, hcs, -, is, ends⟩ := skillGemSize?_some hsize
      rw [hcs]
      exact .here is ends
    · exact .later h

theorem not_occurs_nil : ¬Occurs inWord [] := by
  intro h
  generalize htext : ([] : List Char) = text at h
  cases h with
  | here is ends =>
    obtain ⟨blank, after, rfl, -⟩ := is.uncons
    cases htext
  | later h => cases htext

/-! ### The fold -/

theorem foldFrom_skip (skipped : List Char) :
    foldFrom inWord skipped.length (skipped ++ rest) =
      foldFrom (afterWord inWord skipped) 0 rest := by
  induction skipped generalizing inWord with
  | nil => rfl
  | cons c skipped ih =>
    rw [List.length_cons, List.cons_append, foldFrom]
    exact ih

/-- A skill gem is folded whole. -/
theorem foldFrom_gem (is : IsSkillGem gem) (ends : EndsBefore rest) :
    foldFrom false 0 (gem ++ rest) = "skills".toList ++ foldFrom true 0 rest := by
  have hsize := skillGemSize?_append is ends
  have hafter := is.afterWord false
  obtain ⟨blank, after, rfl, -⟩ := is.uncons
  rw [List.cons_append] at hsize ⊢
  rw [foldFrom, if_neg Bool.false_ne_true, hsize]
  dsimp only
  rw [List.length_cons, Nat.add_sub_cancel, foldFrom_skip]
  exact congrArg _ (congrArg (foldFrom · 0 rest) hafter)

/-- Where no skill gem starts a character stays. -/
theorem foldFrom_keep (none : inWord = false → skillGemSize? (c :: cs) = none) :
    foldFrom inWord 0 (c :: cs) = c :: foldFrom (Text.isWord c) 0 cs := by
  rw [foldFrom]
  cases inWord with
  | true => rfl
  | false => rw [if_neg Bool.false_ne_true, none rfl]

/-- A text is empty, or a character stays, or a skill gem is folded. -/
theorem fold_induction {motive : Bool → List Char → Prop} (nil : ∀ inWord, motive inWord [])
    (keep : ∀ inWord c cs, (inWord = false → skillGemSize? (c :: cs) = none) →
      motive (Text.isWord c) cs → motive inWord (c :: cs))
    (fold : ∀ gem rest, IsSkillGem gem → EndsBefore rest → motive true rest →
      motive false (gem ++ rest)) :
    ∀ inWord cs, motive inWord cs := by
  intro inWord cs
  induction hlength : cs.length using Nat.strongRecOn generalizing inWord cs with
  | _ length ih =>
    subst hlength
    cases cs with
    | nil => exact nil inWord
    | cons c cs =>
      have hkeep := fun none => keep inWord c cs none (ih cs.length (Nat.lt_succ_self _) _ cs rfl)
      cases inWord with
      | true => exact hkeep nofun
      | false =>
        cases hsize : skillGemSize? (c :: cs) with
        | none => exact hkeep fun _ => hsize
        | some size =>
          obtain ⟨gem, rest, hcs, -, is, ends⟩ := skillGemSize?_some hsize
          rw [hcs] at ih ⊢
          refine fold gem rest is ends (ih rest.length ?_ true rest rfl)
          obtain ⟨blank, after, rfl, -⟩ := is.uncons
          simp
          omega

/-- A text without skill gems stays as it is. -/
theorem fold_eq_self (none : ¬Occurs inWord cs) : foldFrom inWord 0 cs = cs := by
  induction cs generalizing inWord with
  | nil => rfl
  | cons c cs ih =>
    rw [occurs_cons, not_or] at none
    rw [foldFrom_keep, ih none.2]
    intro hstart
    cases hsize : skillGemSize? (c :: cs) with
    | none => rfl
    | some size => exact absurd ⟨hstart, size, hsize⟩ none.1

/-! ### What the fold leaves -/

/-- The fold begins like its text. -/
theorem fold_head? (inWord : Bool) (cs : List Char) :
    (foldFrom inWord 0 cs).head? = cs.head? := by
  induction inWord, cs using fold_induction with
  | nil inWord => rfl
  | keep inWord c cs none ih => rw [foldFrom_keep none, List.head?_cons, List.head?_cons]
  | fold gem rest is ends ih =>
    rw [foldFrom_gem is ends]
    obtain ⟨blank, after, rfl, -⟩ := is.uncons
    rfl

/-- Only where a word starts with an s can the fold have written something else. -/
theorem fold_unfold {out : List Char} (start : inWord = true ∨ c ≠ 's')
    (h : foldFrom inWord 0 cs = c :: out) :
    ∃ more, cs = c :: more ∧ foldFrom (Text.isWord c) 0 more = out := by
  cases cs with
  | nil => cases h
  | cons d more =>
    obtain rfl : d = c := by
      have hhead := fold_head? inWord (d :: more)
      rw [h] at hhead
      exact (Option.some.inj hhead).symm
    refine ⟨more, rfl, ?_⟩
    rw [foldFrom_keep] at h
    · exact List.cons.inj h |>.2
    · rintro rfl
      exact skillGemSize?_none (start.resolve_left Bool.false_ne_true)

/-- The text begins like its fold as far as there is no s. -/
theorem fold_unfold_append (kept : List Char) {out : List Char} (clear : 's' ∉ kept)
    (h : foldFrom inWord 0 cs = kept ++ out) :
    ∃ more, cs = kept ++ more ∧ foldFrom (afterWord inWord kept) 0 more = out := by
  induction kept generalizing inWord cs with
  | nil => exact ⟨cs, rfl, h⟩
  | cons c kept ih =>
    rw [List.mem_cons, not_or] at clear
    obtain ⟨next, rfl, hnext⟩ := fold_unfold (.inr (Ne.symm clear.1)) h
    obtain ⟨more, rfl, hmore⟩ := ih clear.2 hnext
    exact ⟨more, rfl, hmore⟩

/-- A skill gem that starts the fold where a character was kept starts the text as well. -/
theorem skillGem_of_fold (is : IsSkillGem gem) (ends : EndsBefore rest)
    (h : 's' :: foldFrom true 0 cs = gem ++ rest) :
    ∃ size, skillGemSize? ('s' :: cs) = some size := by
  obtain ⟨blanks, plural, hsome, hblank, hplural⟩ := id is
  have hclear : 's' ∉ "kill".toList ++ (blanks ++ "gem".toList) := by
    intro hs
    rcases List.mem_append.mp hs with hs | hs
    · revert hs
      decide
    · rcases List.mem_append.mp hs with hs | hs
      · exact absurd (hblank 's' hs) (by decide)
      · revert hs
        decide
  have hsplit : foldFrom true 0 cs =
      ("kill".toList ++ (blanks ++ "gem".toList)) ++ (plural ++ rest) := by
    simpa using h
  obtain ⟨more, rfl, hmore⟩ := fold_unfold_append _ hclear hsplit
  have hafter : afterWord true ("kill".toList ++ (blanks ++ "gem".toList)) = true := by
    simp [afterWord, Text.isWord, Text.isAsciiWord]
  rw [hafter] at hmore
  obtain ⟨after, rfl, hafter⟩ : ∃ after, more = plural ++ after ∧ foldFrom true 0 after = rest := by
    rcases hplural with rfl | rfl
    · exact ⟨more, rfl, hmore⟩
    · exact fold_unfold (.inl rfl) hmore
  have hends : EndsBefore after := by
    rw [EndsBefore, ← fold_head? true, hafter]
    exact ends
  have htext : 's' :: ("kill".toList ++ (blanks ++ "gem".toList) ++ (plural ++ after)) =
      "skill".toList ++ (blanks ++ ("gem".toList ++ plural)) ++ after := by
    simp
  exact ⟨_, htext ▸ skillGemSize?_append is hends⟩

theorem occurs_of_word (word : List Char) (letters : ∀ c ∈ word, Text.isWord c = true)
    (h : Occurs true (word ++ cs)) : Occurs true cs := by
  induction word with
  | nil => exact h
  | cons c word ih =>
    have hc : Text.isWord c = true := letters c (List.mem_cons_self ..)
    rcases occurs_cons.mp h with ⟨hstart, -⟩ | h
    · cases hstart
    · rw [hc] at h
      exact ih (fun d hd => letters d (List.mem_cons_of_mem _ hd)) h

/-- No skill gem is left by the fold. -/
theorem not_occurs_fold : ¬Occurs inWord (foldFrom inWord 0 cs) := by
  induction inWord, cs using fold_induction with
  | nil inWord => exact not_occurs_nil
  | keep inWord c cs none ih =>
    rw [foldFrom_keep none, occurs_cons]
    rintro (⟨rfl, size, hsize⟩ | h)
    · obtain rfl := skillGemSize?_head hsize
      obtain ⟨gem, rest, hout, -, is, ends⟩ := skillGemSize?_some hsize
      obtain ⟨size, hsize⟩ := skillGem_of_fold is ends hout
      rw [none rfl] at hsize
      cases hsize
    · exact ih h
  | fold gem rest is ends ih =>
    have hskills : "skills".toList = 's' :: "kills".toList := rfl
    rw [foldFrom_gem is ends, hskills, List.cons_append, occurs_cons]
    rintro (⟨-, size, hsize⟩ | h)
    · obtain ⟨gem, out, hout, -, is, -⟩ := skillGemSize?_some hsize
      obtain ⟨blank, after, rfl, hblank⟩ := is.uncons
      have hs : 's' = blank := by
        simp only [String.reduceToList, List.cons_append, List.nil_append, List.cons.injEq] at hout
        exact hout.2.2.2.2.2.1
      subst hs
      cases hblank
    · exact ih (occurs_of_word "kills".toList (List.all_eq_true.mp (by decide)) h)

/-- Every character of a fold is one of the text or a letter of "skills". -/
theorem mem_fold (h : c ∈ foldFrom inWord 0 cs) : c ∈ cs ∨ c ∈ "skills".toList := by
  induction inWord, cs using fold_induction with
  | nil inWord => exact .inl h
  | keep inWord d cs none ih =>
    rw [foldFrom_keep none] at h
    rcases List.mem_cons.mp h with rfl | h
    · exact .inl (List.mem_cons_self ..)
    · exact (ih h).imp_left (List.mem_cons_of_mem _)
  | fold gem rest is ends ih =>
    rw [foldFrom_gem is ends] at h
    rcases List.mem_append.mp h with h | h
    · exact .inr h
    · exact (ih h).imp_left (List.mem_append_right _)

end Reroll.Canonical
