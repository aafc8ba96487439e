import Reroll.Proofs.Canonical.Refold

/-!
# One fold

Canonical text comes of fewer passes than are made: with the characters blanked, the words set one
space apart and a single fold at the end the text is the same (`singleFold`). Neither the pass over
separators nor the first fold can be told from the result, so a symbol is as good as a space
(`canonical_single_fold`).
-/

namespace Reroll.Canonical

variable {c : Char}

/-- Small letters and plain signs, without brackets. -/
def unbracketed (cs : List Char) : List Char :=
  ((Text.lower cs).map plainSign).filter fun c => !isBracket c

/-- Canonical text by one fold: what is not canonical becomes a space, the words are set one space
apart, and then skill gems are folded. -/
def singleFold (cs : List Char) : List Char :=
  foldSkillGems ([' '].intercalate (Text.words ((unbracketed cs).map blanked)))

/-- All passes, but for the one over separators and the first fold, which are made or not. -/
def canonicalWith (separates folds : Bool) (cs : List Char) : List Char :=
  let bare := unbracketed cs
  let separated := if separates then Text.squeeze isSeparator ' ' false bare else bare
  let folded := if folds then foldSkillGems separated else separated
  foldSkillGems (Text.strip (squeezed (folded.map blanked)))

theorem canonicalWith_all (cs : List Char) : canonicalWith true true cs = canonicalChars cs := rfl

/-- Nothing of the character is canonical, nor is it a bracket. -/
def isSymbol (c : Char) : Bool :=
  ((Text.lower [c]).map plainSign).all fun d => !isCanonicalChar d && !isBracket d

theorem singleFold_eq_tidy (cs : List Char) :
    singleFold cs = tidy ((unbracketed cs).map blanked) := by
  rw [singleFold, Text.intercalate_words_eq]
  rfl

theorem canonicalWith_eq_tidy (separates folds : Bool) (cs : List Char) :
    canonicalWith separates folds cs = tidy ((unbracketed cs).map blanked) := by
  have hseparated : tidy ((if separates then Text.squeeze isSeparator ' ' false (unbracketed cs)
      else unbracketed cs).map blanked) = tidy ((unbracketed cs).map blanked) := by
    cases separates with
    | false => rfl
    | true =>
      apply blanking_blanked.tidy_squeeze
      exact fun c => isSpace_blanked_separator fun _ _ => rfl
  rw [← hseparated]
  cases folds with
  | false => rfl
  | true => exact blanking_blanked.tidy_fold _

/-- Every letter but the dotted capital i has one small letter. -/
theorem lower_single (h : c ≠ '\u0130') : ∃ d, Text.lower [c] = [d] := by
  simp only [Text.lower, Text.lowerAfter, List.append_nil, if_neg h]
  split
  · exact ⟨_, rfl⟩
  · exact ⟨_, rfl⟩

/-- A symbol leaves a space behind. -/
theorem blanked_bare_symbol (symbol : isSymbol c = true) : (bare c).map blanked = [' '] := by
  have hletter : c ≠ '\u0130' := by
    rintro rfl
    revert symbol
    decide +kernel
  obtain ⟨d, hd⟩ := lower_single hletter
  obtain ⟨hcanonical, hbracket⟩ : isCanonicalChar (plainSign d) = false ∧
      isBracket (plainSign d) = false := by
    simpa [isSymbol, hd] using symbol
  have hcanonical' : isCanonicalChar (plainSign (lettered d)) = false := by
    rw [lettered_kept (fun d => isCanonicalChar (plainSign d)) (by decide) (by decide), hcanonical]
  have hbracket' : isBracket (plainSign (lettered d)) = false := by
    rw [lettered_kept (fun d => isBracket (plainSign d)) (by decide) (by decide), hbracket]
  rw [bare, hd]
  simp [hbracket', blanked, hcanonical']

theorem canonicalChars_symbol (symbol : isSymbol c = true) (before after : List Char) :
    canonicalChars (before ++ c :: after) = canonicalChars (before ++ ' ' :: after) := by
  have hspace : (bare ' ').map blanked = [' '] := by decide +kernel
  rw [canonicalChars_eq_tidy, canonicalChars_eq_tidy]
  simp only [List.flatMap_append, List.flatMap_cons, List.map_append, blanked_bare_symbol symbol,
    hspace]

/-- The canonical form of a text is made with a single fold. The separators and the first fold make
no difference to it, and no symbol that is not a bracket differs from a space. -/
theorem canonical_single_fold (s : String) :
    canonical s = String.ofList (singleFold s.toList) ∧
      (∀ separates folds, canonical s = String.ofList (canonicalWith separates folds s.toList)) ∧
      ∀ before c after, isSymbol c = true → s.toList = before ++ c :: after →
        canonical s = canonical (String.ofList (before ++ ' ' :: after)) := by
  have hwith : ∀ separates folds,
      canonicalWith separates folds s.toList = canonicalChars s.toList := by
    intro separates folds
    rw [← canonicalWith_all, canonicalWith_eq_tidy, canonicalWith_eq_tidy]
  refine ⟨?_, fun separates folds => ?_, fun before c after symbol hsplit => ?_⟩
  · rw [canonical, singleFold_eq_tidy, ← canonicalWith_eq_tidy true true, canonicalWith_all]
  · rw [canonical, hwith]
  · rw [canonical, canonical, String.toList_ofList, hsplit, canonicalChars_symbol symbol]

/-- An underscore goes on with the word before it, so the first fold leaves these skill gems. -/
theorem canonical_underscored_gems :
    (isSymbol '_' = true ∧ "Skill Gems_".toList = "Skill Gems".toList ++ '_' :: []) ∧
      canonical "Skill Gems_" = canonical "Skill Gems " := by
  have hsymbol : isSymbol '_' = true := by decide +kernel
  exact ⟨⟨hsymbol, rfl⟩,
    (canonical_single_fold "Skill Gems_").2.2 "Skill Gems".toList '_' [] hsymbol rfl⟩

end Reroll.Canonical
