import Reroll.Canonical.Template
import Reroll.Proofs.Canonical.Normal
import Reroll.Proofs.Text.Fill

/-!
# Canonical templates

A word such as the reserved one, or a number, goes through all passes that make a text canonical
like a letter that they leave alone (`Stands`), so a template is made canonical around its
placeholders, whatever is written for them (`canonicalChars_fillBy`). The reserved word is taken for
a placeholder where "placeholder" is in the text itself; in other texts only what stood in for a
placeholder becomes one again.
-/

namespace Reroll.Canonical

open Text (fill fillBy remark)

/-- What tells the reserved word from other text. -/
def reserved : List Char := "placeholder".toList

variable {c mark new : Char} {cs gem rest : List Char} {inWord : Bool} {skip : Nat}
variable {words : ℕ → List Char}

theorem standIn_eq : standIn = 'z' :: 'q' :: (reserved ++ ['q', 'z']) := rfl

/-! ### Back from the reserved word -/

theorem replaceFrom_skip (old by' skipped rest : List Char) :
    Text.replaceFrom old by' skipped.length (skipped ++ rest) =
      Text.replaceFrom old by' 0 rest := by
  induction skipped with
  | nil => rfl
  | cons c skipped ih =>
    rw [List.length_cons, List.cons_append, Text.replaceFrom]
    exact ih

/-- Where "placeholder" is not in the text itself, the reserved word was not either. -/
theorem replace_fill (free : ¬reserved <:+: cs) :
    Text.replace standIn [new] (fill mark standIn cs) = cs.map (remark mark new) := by
  unfold Text.replace
  induction cs with
  | nil => rfl
  | cons c cs ih =>
    rw [List.infix_cons_iff, not_or] at free
    by_cases hc : c = mark
    · subst hc
      have hprefix : standIn.isPrefixOf (standIn ++ fill c standIn cs) = true :=
        List.isPrefixOf_iff_prefix.mpr (List.prefix_append ..)
      have hskip := replaceFrom_skip standIn [new] standIn.tail (fill c standIn cs)
      rw [Text.fill_mark, List.map_cons, remark, if_pos rfl, ← ih free.2, ← hskip]
      rw [standIn_eq, List.cons_append] at hprefix ⊢
      rw [Text.replaceFrom, if_pos hprefix]
      rfl
    · have hprefix : ¬standIn.isPrefixOf (c :: fill mark standIn cs) = true := by
        rw [List.isPrefixOf_iff_prefix, standIn_eq, List.cons_prefix_cons]
        rintro ⟨-, hrest⟩
        have hreserved : 'q' :: reserved <+: fill mark standIn cs :=
          (List.prefix_append ('q' :: reserved) ['q', 'z']).trans hrest
        have hplain : 'q' :: reserved <+: cs := Text.prefix_fill (by decide) hreserved
        exact free.2 ((List.suffix_cons 'q' reserved).isInfix.trans hplain.isInfix)
      rw [Text.fill_other hc, Text.replaceFrom, if_neg hprefix, List.map_cons, remark, if_neg hc,
        ih free.2]

/-! ### The fold over templates -/

theorem mem_skillGem (is : IsSkillGem gem) (h : c ∈ gem) :
    c ∈ "skillgem".toList ∨ Text.isSpace c = true := by
  obtain ⟨blanks, plural, -, hblank, hplural⟩ := is
  have hletters : ∀ c ∈ "skill".toList ++ ("gem".toList ++ ['s']), c ∈ "skillgem".toList :=
    Text.forall_of_all (by decide)
  have hplurals : ∀ c ∈ plural, c ∈ ['s'] := by
    rcases hplural with rfl | rfl
    · nofun
    · exact fun c hc => hc
  simp only [List.mem_append] at h hletters
  rcases h with h | h | h | h
  · exact .inl (hletters c (.inl h))
  · exact .inr (hblank c h)
  · exact .inl (hletters c (.inr (.inl h)))
  · exact .inl (hletters c (.inr (.inr (hplurals c h))))

theorem not_mem_skillGem (is : IsSkillGem gem) (letter : c ∉ "skillgem".toList)
    (dark : Text.isSpace c = false) : c ∉ gem := by
  intro hc
  rcases mem_skillGem is hc with h | h
  · exact letter h
  · rw [dark] at h
    cases h

/-- A word goes through the fold unless a skill gem can start in it. -/
theorem foldFrom_word (word : List Char) (plain : 's' ∉ word)
    (last : ∀ d, word.getLast? = some d → Text.isWord d = true) (nonempty : word ≠ []) :
    foldFrom inWord 0 (word ++ cs) = word ++ foldFrom true 0 cs := by
  induction word generalizing inWord with
  | nil => exact absurd rfl nonempty
  | cons c word ih =>
    rw [List.mem_cons, not_or] at plain
    have hkeep : inWord = false → skillGemSize? (c :: (word ++ cs)) = none := fun _ =>
      skillGemSize?_none (Ne.symm plain.1)
    rw [List.cons_append, foldFrom_keep hkeep]
    by_cases hword : word = []
    · have hc : Text.isWord c = true := last c (by rw [hword]; rfl)
      rw [hword, hc]
      rfl
    · have hlast : ∀ d, word.getLast? = some d → Text.isWord d = true := fun d hd =>
        last d (by rw [List.getLast?_cons, hd]; rfl)
      rw [ih plain.2 hlast hword, List.cons_append]

/-- A word that stands for itself in canonical text: it has no blanks, starts and ends as words do,
and takes no part in a skill gem. -/
structure Stands (word : List Char) : Prop where
  canonical : ∀ c ∈ word, isCanonicalChar c = true ∧ c ≠ ' '
  first : ∃ z more, word = z :: more ∧ Text.isWord z = true ∧ z ∉ "skillgem".toList
  last : ∀ d, word.getLast? = some d → Text.isWord d = true
  plain : 's' ∉ word

theorem stands_standIn : Stands standIn where
  canonical := Text.forall_of_all (by decide)
  first := ⟨'z', _, rfl, by decide, by decide⟩
  last := by
    rintro d ⟨⟩
    decide
  plain := by decide

namespace Stands

variable {word : List Char}

theorem nonempty (h : Stands word) : word ≠ [] := by
  obtain ⟨z, more, rfl, -⟩ := h.first
  exact List.cons_ne_nil z more

theorem dark (h : Stands word) : ∀ c ∈ word, Text.isSpace c = false := by
  intro c hc
  obtain ⟨hcanonical, hblank⟩ := h.canonical c hc
  exact Bool.eq_false_iff.mpr fun hspace => hblank ((isSpace_of_canonical hcanonical).mp hspace)

theorem unseparated (h : Stands word) : ∀ c ∈ word, isSeparator c = false := fun c hc =>
  (canonicalChar_stays (h.canonical c hc).1).2.2.2.1

theorem blanked_eq (h : Stands word) : word.map blanked = word := by
  have hkept : ∀ c ∈ word, blanked c = c := fun c hc => if_pos (h.canonical c hc).1
  exact (List.map_congr_left hkept).trans (List.map_id word)

theorem not_mem_gem (h : Stands word) (is : IsSkillGem gem) : ∀ z ∈ word.head?, z ∉ gem := by
  obtain ⟨z, more, hword, -, hletter⟩ := h.first
  intro d hd
  rw [hword] at hd
  obtain rfl : z = d := Option.some.inj hd
  apply not_mem_skillGem is hletter
  exact h.dark z (by rw [hword]; exact List.mem_cons_self ..)

end Stands

section Words

variable (stands : ∀ i, Stands (words i))

include stands

theorem endsBefore_fillBy : EndsBefore (fillBy '_' words rest) ↔ EndsBefore rest := by
  cases rest with
  | nil => exact Iff.rfl
  | cons c rest =>
    by_cases hc : c = '_'
    · obtain ⟨z, more, hword, hz, -⟩ := (stands 0).first
      have hmark : Text.isWord '_' = true := by decide
      rw [hc, Text.fillBy_mark, hword]
      exact iff_of_false (fun h => Bool.false_ne_true (h.symm.trans hz))
        fun h => Bool.false_ne_true (h.symm.trans hmark)
    · rw [Text.fillBy_other hc]
      exact Iff.rfl

theorem fold_fillBy : foldFrom inWord 0 (fillBy '_' words cs) =
    fillBy '_' words (foldFrom inWord 0 cs) := by
  induction inWord, cs using fold_induction generalizing words with
  | nil inWord => rfl
  | keep inWord c cs none ih =>
    rw [foldFrom_keep none]
    by_cases hc : c = '_'
    · have hword : Text.isWord '_' = true := by decide
      have hrest := ih fun i => stands (i + 1)
      rw [hc, hword] at hrest
      rw [hc, Text.fillBy_mark, Text.fillBy_mark, hword,
        foldFrom_word _ (stands 0).plain (stands 0).last (stands 0).nonempty, hrest]
    · rw [Text.fillBy_other hc, Text.fillBy_other hc, ← ih stands, foldFrom_keep]
      intro hstart
      refine Option.eq_none_iff_forall_ne_some.mpr fun size hsize => ?_
      obtain ⟨gem, rest, hsplit, -, is, ends⟩ := skillGemSize?_some hsize
      rw [← Text.fillBy_other hc] at hsplit
      obtain ⟨more, hmore, rfl⟩ := Text.fillBy_split (fun i => (stands i).nonempty) gem
        (fun i => (stands i).not_mem_gem is) hsplit
      have hgem := skillGemSize?_append is ((endsBefore_fillBy stands).mp ends)
      rw [← hmore, none hstart] at hgem
      cases hgem
  | fold gem rest is ends ih =>
    have hgem : '_' ∉ gem := not_mem_skillGem is (by decide) (by decide)
    have hskills : '_' ∉ "skills".toList := by decide
    rw [Text.fillBy_before hgem, foldFrom_gem is ((endsBefore_fillBy stands).mpr ends), ih stands,
      foldFrom_gem is ends, Text.fillBy_before hskills]

end Words

/-! ### Letters that are blanked -/

/-- The underscore and the small sigmas count as letters for the fold and become blanks after it, so
one of them will do. -/
def lettered (c : Char) : Char := if c = 'ς' ∨ c = '_' then 'σ' else c

theorem lettered_cases (c : Char) : (c = 'ς' ∨ c = '_') ∧ lettered c = 'σ' ∨ lettered c = c := by
  by_cases h : c = 'ς' ∨ c = '_'
  · exact .inl ⟨h, if_pos h⟩
  · exact .inr (if_neg h)

/-- What tells letters apart is lost, what tells them from other characters is kept. -/
theorem lettered_kept {α : Type} (f : Char → α) (final : f 'ς' = f 'σ') (bar : f '_' = f 'σ')
    (c : Char) : f (lettered c) = f c := by
  rcases lettered_cases c with ⟨rfl | rfl, h⟩ | h
  · rw [h, final]
  · rw [h, bar]
  · rw [h]

theorem lettered_eq_iff {d : Char} (h : lettered d = d) (letter : d ≠ 'σ') :
    lettered c = d ↔ c = d := by
  constructor
  · rintro rfl
    rcases lettered_cases c with ⟨-, hc⟩ | hc
    · exact absurd hc letter
    · exact hc.symm
  · rintro rfl
    exact h

theorem isWord_lettered (c : Char) : Text.isWord (lettered c) = Text.isWord c :=
  lettered_kept Text.isWord (by decide +kernel) (by decide +kernel) c

theorem endsBefore_lettered : EndsBefore (rest.map lettered) ↔ EndsBefore rest := by
  cases rest with
  | nil => exact Iff.rfl
  | cons c rest =>
    change Text.isWord (lettered c) = false ↔ Text.isWord c = false
    rw [isWord_lettered]

theorem lettered_skillGem (is : IsSkillGem gem) : cs.map lettered = gem ↔ cs = gem := by
  have hbar : '_' ∉ gem := not_mem_skillGem is (by decide) (by decide)
  have hfinal : 'ς' ∉ gem := not_mem_skillGem is (by decide) (by decide)
  have hsigma : 'σ' ∉ gem := not_mem_skillGem is (by decide) (by decide)
  refine Text.map_eq_iff fun c hc d => lettered_eq_iff (if_neg ?_) ?_
  · rintro (rfl | rfl)
    · exact hfinal hc
    · exact hbar hc
  · rintro rfl
    exact hsigma hc

theorem skillGemSize?_lettered : skillGemSize? (cs.map lettered) = skillGemSize? cs := by
  cases hsize : skillGemSize? cs with
  | some size =>
    obtain ⟨gem, rest, rfl, rfl, is, ends⟩ := skillGemSize?_some hsize
    rw [List.map_append, (lettered_skillGem is).mpr rfl,
      skillGemSize?_append is (endsBefore_lettered.mpr ends)]
  | none =>
    refine Option.eq_none_iff_forall_ne_some.mpr fun size hsize' => ?_
    obtain ⟨gem, rest, hsplit, -, is, ends⟩ := skillGemSize?_some hsize'
    obtain ⟨gem', rest', rfl, hgem', rfl⟩ := List.map_eq_append_iff.mp hsplit
    obtain rfl := (lettered_skillGem is).mp hgem'
    rw [skillGemSize?_append is (endsBefore_lettered.mp ends)] at hsize
    cases hsize

theorem fold_lettered :
    foldFrom inWord 0 (cs.map lettered) = (foldFrom inWord 0 cs).map lettered := by
  induction inWord, cs using fold_induction with
  | nil inWord => rfl
  | keep inWord c cs hnone ih =>
    have hnone' : inWord = false → skillGemSize? (lettered c :: cs.map lettered) = none := by
      intro hstart
      rw [← List.map_cons, skillGemSize?_lettered, hnone hstart]
    rw [List.map_cons, foldFrom_keep hnone', foldFrom_keep hnone, List.map_cons, isWord_lettered,
      ih]
  | fold gem rest is ends ih =>
    have hskills : "skills".toList.map lettered = "skills".toList := by decide
    rw [List.map_append, (lettered_skillGem is).mpr rfl,
      foldFrom_gem is (endsBefore_lettered.mpr ends), ih, foldFrom_gem is ends, List.map_append,
      hskills]

/-! ### The passes after those over single characters -/

/-- The passes that make a text canonical after those over single characters; another function may
blank what is not canonical. -/
def tidied (blank : Char → Char) (cs : List Char) : List Char :=
  foldSkillGems (Text.strip (squeezed ((foldSkillGems
    (Text.squeeze isSeparator ' ' false cs)).map blank)))

theorem squeeze_lettered {skipping : Bool} :
    Text.squeeze isSeparator ' ' skipping (cs.map lettered) =
      (Text.squeeze isSeparator ' ' skipping cs).map lettered := by
  have hseparator : ∀ c, isSeparator (lettered c) = isSeparator c :=
    lettered_kept isSeparator (by decide) (by decide)
  induction cs generalizing skipping with
  | nil => rfl
  | cons c cs ih =>
    rw [List.map_cons, Text.squeeze, Text.squeeze, hseparator, ih, ih]
    cases isSeparator c with
    | true => cases skipping <;> rfl
    | false => rfl

theorem tidied_lettered : tidied blanked (cs.map lettered) = tidied blanked cs := by
  have hblanked : blanked ∘ lettered = blanked :=
    funext (lettered_kept blanked (by decide) (by decide))
  unfold tidied foldSkillGems
  rw [squeeze_lettered, fold_lettered, List.map_map, hblanked]

/-- A character as the passes over single characters leave it, in any text. -/
def bare (c : Char) : List Char :=
  (((Text.lower [c]).map lettered).map plainSign).filter fun c => !isBracket c

/-- The two small sigmas are all that a letter beside one decides about. -/
theorem lower_lettered (before cs : List Char) : (Text.lowerAfter before cs).map lettered =
    cs.flatMap fun c => (Text.lower [c]).map lettered := by
  induction cs generalizing before with
  | nil => rfl
  | cons c cs ih =>
    have hsmall : ∀ b : Bool, lettered (if b then 'ς' else 'σ') = 'σ' := by decide
    rw [List.flatMap_cons, ← ih (c :: before)]
    by_cases hsigma : c = '\u03A3'
    · simp only [Text.lower, Text.lowerAfter, if_pos hsigma, List.map_append, List.map_cons,
        List.map_nil, hsmall, List.append_nil]
    · simp only [Text.lower, Text.lowerAfter, if_neg hsigma, List.map_append, List.append_nil]

theorem plainSign_lettered (c : Char) : lettered (plainSign c) = plainSign (lettered c) := by
  rcases lettered_cases c with ⟨rfl | rfl, -⟩ | h
  · decide
  · decide
  · rw [h]
    unfold plainSign
    split
    · decide
    · split
      · decide
      · exact h

/-- Canonical text by the passes over single characters and those after them. -/
theorem canonicalChars_eq_tidied (cs : List Char) :
    canonicalChars cs = tidied blanked (cs.flatMap bare) := by
  have hbracket : ((fun c => !isBracket c) ∘ lettered) = fun c => !isBracket c :=
    funext (lettered_kept (fun c => !isBracket c) (by decide) (by decide))
  have hsign : plainSign ∘ lettered = lettered ∘ plainSign :=
    funext fun c => (plainSign_lettered c).symm
  have hcanonical : canonicalChars cs =
      tidied blanked (((Text.lower cs).map plainSign).filter fun c => !isBracket c) := rfl
  have hbare : (((Text.lower cs).map plainSign).filter fun c => !isBracket c).map lettered =
      cs.flatMap bare := by
    nth_rewrite 1 [← hbracket]
    rw [← List.filter_map, List.map_map, ← hsign, ← List.map_map, Text.lower, lower_lettered,
      List.map_flatMap, List.filter_flatMap]
    rfl
  rw [hcanonical, ← tidied_lettered, hbare]

/-! ### The passes over templates -/

/-- Blanks what is not canonical save marks. -/
def blankedApart (c : Char) : Char := if c = '_' then c else blanked c

theorem blankedApart_eq_iff {d : Char} (kept : d = '_' ∨ isCanonicalChar d = true ∧ d ≠ ' ') :
    blankedApart c = d ↔ c = d := by
  unfold blankedApart
  split
  · exact Iff.rfl
  · next hc =>
    rcases kept with rfl | ⟨canonical, dark⟩
    · exact iff_of_false (blanked_ne (by decide)) hc
    · exact blanked_eq_iff canonical dark

theorem map_fillBy (stands : ∀ i, Stands (words i)) :
    (fillBy '_' words cs).map blanked = fillBy '_' words (cs.map blankedApart) := by
  induction cs generalizing words with
  | nil => rfl
  | cons c cs ih =>
    rw [List.map_cons, blankedApart]
    by_cases hc : c = '_'
    · rw [if_pos hc, hc, Text.fillBy_mark, Text.fillBy_mark, List.map_append,
        (stands 0).blanked_eq, ih fun i => stands (i + 1)]
    · have hne : blanked c ≠ '_' := blanked_ne (by decide)
      rw [if_neg hc, Text.fillBy_other hc, Text.fillBy_other hne, List.map_cons, ih stands]

theorem tidied_fillBy (stands : ∀ i, Stands (words i)) :
    tidied blanked (fillBy '_' words cs) = fillBy '_' words (tidied blankedApart cs) := by
  have hsome : ∀ i, words i ≠ [] := fun i => (stands i).nonempty
  have hdark : ∀ i, ∀ c ∈ words i, Text.isSpace c = false := fun i => (stands i).dark
  have hword : ∀ i, ∀ c ∈ words i, isSeparator c = false := fun i => (stands i).unseparated
  unfold tidied foldSkillGems squeezed
  rw [Text.squeeze_fillBy hsome hword (by decide) (by decide), fold_fillBy stands,
    map_fillBy stands, Text.squeeze_fillBy hsome hdark (by decide) (by decide),
    Text.strip_fillBy hsome hdark (by decide), fold_fillBy stands]

/-- The fold neither makes nor loses the word. -/
theorem infix_fold : reserved <:+: foldFrom inWord 0 cs ↔ reserved <:+: cs := by
  have hreserved : reserved = 'p' :: "laceholder".toList := rfl
  induction inWord, cs using fold_induction with
  | nil inWord => exact Iff.rfl
  | keep inWord c cs none ih =>
    rw [foldFrom_keep none, List.infix_cons_iff, List.infix_cons_iff]
    refine or_congr ?_ ih
    rw [hreserved, List.cons_prefix_cons, List.cons_prefix_cons]
    refine and_congr_right fun _ => ⟨?_, ?_⟩
    · rintro ⟨rest, hrest⟩
      obtain ⟨more, rfl, -⟩ := fold_unfold_append _ (by decide) hrest.symm
      exact List.prefix_append ..
    · rintro ⟨more, rfl⟩
      have hlast : ∀ d, "laceholder".toList.getLast? = some d → Text.isWord d = true := by
        rintro d ⟨⟩
        decide
      rw [foldFrom_word _ (by decide) hlast (by decide)]
      exact List.prefix_append ..
  | fold gem rest is ends ih =>
    have hgem : 'p' ∉ gem := not_mem_skillGem is (by decide) (by decide)
    rw [foldFrom_gem is ends, hreserved, Text.infix_append_iff (by decide),
      Text.infix_append_iff hgem]
    exact ih

theorem infix_tidied {blank : Char → Char} (h : ∀ d ∈ reserved, ∀ c, blank c = d ↔ c = d) :
    reserved <:+: tidied blank cs ↔ reserved <:+: cs := by
  have hdark : ∀ c ∈ reserved, Text.isSpace c = false := Text.forall_of_all (by decide)
  have hword : ∀ c ∈ reserved, isSeparator c = false := Text.forall_of_all (by decide)
  unfold tidied foldSkillGems squeezed
  rw [infix_fold, Text.infix_strip (by decide) hdark,
    Text.infix_squeeze (by decide) hdark (by decide), Text.infix_map h, infix_fold,
    Text.infix_squeeze (by decide) hword (by decide)]

theorem reserved_canonical : ∀ d ∈ reserved, isCanonicalChar d = true ∧ d ≠ ' ' :=
  Text.forall_of_all (by decide)

theorem blanked_reserved : ∀ d ∈ reserved, ∀ c, blanked c = d ↔ c = d := by
  intro d hd c
  obtain ⟨hcanonical, hdark⟩ := reserved_canonical d hd
  exact blanked_eq_iff hcanonical hdark

theorem blankedApart_reserved : ∀ d ∈ reserved, ∀ c, blankedApart c = d ↔ c = d := by
  intro d hd c
  exact blankedApart_eq_iff (.inr (reserved_canonical d hd))

theorem bar_not_mem_bare (c : Char) : '_' ∉ bare c := by
  intro h
  obtain ⟨d, hd, hsign⟩ := List.mem_map.mp (List.mem_of_mem_filter h)
  obtain ⟨e, -, rfl⟩ := List.mem_map.mp hd
  rw [← plainSign_lettered] at hsign
  unfold lettered at hsign
  split at hsign
  · cases hsign
  · next hne => exact hne (.inr hsign)

/-- The passes over single characters with a mark for each placeholder. -/
def marked (cs : List Char) : List Char := cs.flatMap fun c => if c = '#' then ['_'] else bare c

theorem bare_canonical (h : isCanonicalChar c = true) : bare c = [c] :=
  forall_canonical (P := fun c => bare c = [c]) (by decide +kernel) c h

theorem bare_eq_self (h : ∀ c ∈ cs, bare c = [c]) : cs.flatMap bare = cs := by
  rw [List.flatMap_congr h, List.flatMap_singleton']

theorem bare_fillBy (stands : ∀ i, Stands (words i)) :
    (fillBy '#' words cs).flatMap bare = fillBy '_' words (marked cs) := by
  unfold marked
  induction cs generalizing words with
  | nil => rfl
  | cons c cs ih =>
    rw [List.flatMap_cons]
    by_cases hc : c = '#'
    · have hword : (words 0).flatMap bare = words 0 :=
        bare_eq_self fun c hc => bare_canonical ((stands 0).canonical c hc).1
      rw [if_pos hc, hc, Text.fillBy_mark, List.flatMap_append, hword, ih fun i => stands (i + 1),
        List.singleton_append, Text.fillBy_mark]
    · rw [if_neg hc, Text.fillBy_other hc, List.flatMap_cons, ih stands,
        Text.fillBy_before (bar_not_mem_bare c)]

theorem bare_remark : (marked cs).map (remark '_' '#') = cs.flatMap bare := by
  rw [marked, List.map_flatMap]
  congr 1
  funext c
  by_cases hc : c = '#'
  · rw [if_pos hc, hc]
    decide +kernel
  · rw [if_neg hc, List.map_congr_left, List.map_id]
    intro d hd
    have hne : d ≠ '_' := fun h => bar_not_mem_bare c (h ▸ hd)
    exact if_neg hne

theorem infix_remark : reserved <:+: cs.map (remark '_' '#') ↔ reserved <:+: cs := by
  have hne : ∀ d ∈ reserved, d ≠ '_' ∧ d ≠ '#' := Text.forall_of_all (by decide)
  exact Text.infix_map fun d hd c => Text.remark_eq_iff (hne d hd).1 (hne d hd).2

/-- A template as all passes leave it, with a mark for each placeholder. -/
def skeleton (cs : List Char) : List Char := tidied blankedApart (marked cs)

/-- Words that stand for themselves are found in the places of the placeholders when the text is
made canonical. -/
theorem canonicalChars_fillBy (stands : ∀ i, Stands (words i)) (cs : List Char) :
    canonicalChars (fillBy '#' words cs) = fillBy '_' words (skeleton cs) := by
  rw [canonicalChars_eq_tidied, bare_fillBy stands, tidied_fillBy stands, skeleton]

/-- In the same way for the reserved word alone. -/
theorem canonicalChars_fill (cs : List Char) :
    canonicalChars (fill '#' standIn cs) = fill '_' standIn (skeleton cs) := by
  rw [Text.fill_eq_fillBy, Text.fill_eq_fillBy, canonicalChars_fillBy fun _ => stands_standIn]

/-- "placeholder" is in a template where it is in the canonical form of the text. -/
theorem infix_skeleton : reserved <:+: skeleton cs ↔ reserved <:+: canonicalChars cs := by
  rw [skeleton, infix_tidied blankedApart_reserved, canonicalChars_eq_tidied, ← bare_remark,
    infix_tidied blanked_reserved, infix_remark]

/-! ### Canonical templates -/

/-- A canonical template: with the reserved word for each placeholder it is in normal form, and the
word is nowhere else. -/
structure IsTemplate (cs : List Char) : Prop where
  normal : IsNormal (fill '#' standIn cs)
  free : ¬reserved <:+: cs

theorem occursIn_single : Text.occursIn [c] cs = true ↔ c ∈ cs := by
  induction cs with
  | nil => exact iff_of_false nofun List.not_mem_nil
  | cons d cs ih =>
    rw [Text.occursIn, Bool.or_eq_true, ih, List.mem_cons, List.isPrefixOf_iff_prefix,
      List.cons_prefix_cons]
    simp

theorem canonicalTemplateChars_eq (cs : List Char) :
    canonicalTemplateChars placeholder.toList cs =
      if '#' ∈ cs then Text.replace standIn ['#'] (canonicalChars (fill '#' standIn cs))
      else canonicalChars cs := by
  have hmark : placeholder.toList = ['#'] := rfl
  unfold canonicalTemplateChars
  rw [hmark, Text.replace_single]
  by_cases h : '#' ∈ cs
  · rw [if_pos h, if_neg]
    simpa using occursIn_single.mpr h
  · rw [if_neg h, if_pos]
    have hnot : ¬Text.occursIn ['#'] cs = true := fun hc => h (occursIn_single.mp hc)
    simpa using hnot

theorem not_mem_canonicalChars (h : isCanonicalChar c = false) : c ∉ canonicalChars cs := by
  intro hc
  rw [(canonicalChars_normal cs).chars c hc] at h
  cases h

theorem mark_not_mem_skeleton (cs : List Char) : '#' ∉ skeleton cs := by
  intro h
  have hmem : '#' ∈ fill '_' standIn (skeleton cs) := Text.mem_fill_of_mem h (by decide)
  rw [← canonicalChars_fill] at hmem
  exact not_mem_canonicalChars (by decide) hmem

theorem mem_skeleton (h : c ∈ skeleton cs) : c = '_' ∨ isCanonicalChar c = true := by
  by_cases hmark : c = '_'
  · exact .inl hmark
  · have hmem : c ∈ fill '_' standIn (skeleton cs) := Text.mem_fill_of_mem h hmark
    rw [← canonicalChars_fill] at hmem
    exact .inr ((canonicalChars_normal _).chars c hmem)

/-- With a placeholder in it a text has the template that all passes leave, with its marks. -/
theorem template_eq (mark : '#' ∈ cs) (tame : ¬reserved <:+: canonicalChars cs) :
    canonicalTemplateChars placeholder.toList cs = (skeleton cs).map (remark '_' '#') := by
  have hfree : ¬reserved <:+: skeleton cs := fun h => tame (infix_skeleton.mp h)
  rw [canonicalTemplateChars_eq, if_pos mark, canonicalChars_fill, replace_fill hfree]

/-- Templates without the reserved word have a canonical form. -/
theorem isTemplate (tame : ¬reserved <:+: canonicalChars cs) :
    IsTemplate (canonicalTemplateChars placeholder.toList cs) := by
  by_cases mark : '#' ∈ cs
  · have hfree : ¬reserved <:+: skeleton cs := fun h => tame (infix_skeleton.mp h)
    have hnormal := canonicalChars_normal (fill '#' standIn cs)
    rw [canonicalChars_fill] at hnormal
    rw [template_eq mark tame]
    refine ⟨?_, fun h => hfree (infix_remark.mp h)⟩
    rwa [Text.fill_remark (mark_not_mem_skeleton cs)]
  · rw [canonicalTemplateChars_eq, if_neg mark]
    refine ⟨?_, tame⟩
    rw [Text.fill_eq_self (not_mem_canonicalChars (by decide))]
    exact canonicalChars_normal cs

/-! ### Quoted templates -/

theorem occurs_letter (h : Occurs inWord cs) : 's' ∈ cs := by
  induction h with
  | here is ends =>
    obtain ⟨blank, after, rfl, -⟩ := is.uncons
    exact List.mem_append_left _ (List.mem_cons_self ..)
  | later h ih => exact List.mem_cons_of_mem _ ih

/-- Quotes and commas, which stand around the items of a list. -/
def IsQuoting (cs : List Char) : Prop := ∀ c ∈ cs, c = '"' ∨ c = ','

theorem IsQuoting.not_mem (h : IsQuoting cs) (quote : c ≠ '"') (comma : c ≠ ',') : c ∉ cs :=
  fun hc => (h c hc).elim quote comma

theorem occurs_of_quoting_append {before : List Char} (h : IsQuoting before)
    (occurs : Occurs false (before ++ cs)) : Occurs false cs := by
  induction before with
  | nil => exact occurs
  | cons c before ih =>
    obtain ⟨hc, hrest⟩ := List.forall_mem_cons.mp h
    have hdark : Text.isWord c = false := by
      rcases hc with rfl | rfl <;> decide
    rcases occurs_cons.mp occurs with ⟨-, size, hsize⟩ | hlater
    · obtain rfl := skillGemSize?_head hsize
      rcases hc with hc | hc <;> cases hc
    · rw [hdark] at hlater
      exact ih hrest hlater

theorem occurs_of_append_quoting {after : List Char} (h : IsQuoting after)
    (occurs : Occurs inWord (cs ++ after)) : Occurs inWord cs := by
  induction cs generalizing inWord with
  | nil => exact absurd (occurs_letter occurs) (h.not_mem (by decide) (by decide))
  | cons c cs ih =>
    rcases occurs_cons.mp occurs with ⟨rfl, size, hsize⟩ | hlater
    · obtain ⟨gem, rest, hsplit, -, is, ends⟩ := skillGemSize?_some hsize
      have hsplit : (c :: cs) ++ after = gem ++ rest := hsplit
      rcases List.append_eq_append_iff.mp hsplit with ⟨t, rfl, hafter⟩ | ⟨t, hcs, rfl⟩
      · -- a skill gem does not reach into the quotes
        cases t with
        | nil =>
          have hend : EndsBefore [] := rfl
          have hhere := Occurs.here is hend
          rwa [List.append_nil, List.append_nil] at hhere
        | cons d t =>
          have hd : d ∈ (c :: cs) ++ d :: t := by simp
          have hquote : d = '"' ∨ d = ',' := h d (by rw [hafter]; simp)
          have hnot : d ∉ (c :: cs) ++ d :: t := by
            rcases hquote with rfl | rfl
            · exact not_mem_skillGem is (by decide) (by decide)
            · exact not_mem_skillGem is (by decide) (by decide)
          exact absurd hd hnot
      · rw [hcs]
        refine .here is ?_
        cases t with
        | nil => rfl
        | cons d t => exact ends
    · exact .later (ih hlater)

/-- Quotes and commas around canonical text go when it is made canonical. -/
theorem IsNormal.canonicalChars_quoted (normal : IsNormal cs) {before after : List Char}
    (hbefore : IsQuoting before) (hafter : IsQuoting after) :
    canonicalChars (before ++ cs ++ after) = cs := by
  have hchars : ∀ c ∈ before ++ cs ++ after, isCanonicalChar c = true ∨ c = '"' ∨ c = ',' := by
    intro c hc
    rcases List.mem_append.mp hc with hc | hc
    · rcases List.mem_append.mp hc with hc | hc
      · exact .inr (hbefore c hc)
      · exact .inl (normal.chars c hc)
    · exact .inr (hafter c hc)
  have hseparated : Text.squeeze isSeparator ' ' false (before ++ cs ++ after) =
      before ++ cs ++ after := by
    refine Text.squeeze_eq_self_of_forall fun c hc => ?_
    rcases hchars c hc with hc | rfl | rfl
    · exact (canonicalChar_stays hc).2.2.2.1
    · rfl
    · rfl
  have hfolded : foldSkillGems (before ++ cs ++ after) = before ++ cs ++ after := by
    refine fold_eq_self fun h => ?_
    rw [List.append_assoc] at h
    exact normal.not_occurs (occurs_of_append_quoting hafter (occurs_of_quoting_append hbefore h))
  have hblanks : ∀ q, IsQuoting q → ∀ c ∈ q.map blanked, c = ' ' := by
    intro q hq c hc
    obtain ⟨d, hd, rfl⟩ := List.mem_map.mp hc
    rcases hq d hd with rfl | rfl <;> rfl
  have hblanked : (before ++ cs ++ after).map blanked =
      before.map blanked ++ cs ++ after.map blanked := by
    have hkept : cs.map blanked = cs :=
      (List.map_congr_left fun c hc => if_pos (normal.chars c hc)).trans (List.map_id cs)
    rw [List.map_append, List.map_append, hkept]
  have hspace : ∀ c ∈ cs, some c ≠ some ' ' → Text.isSpace c = false := fun c hc hne =>
    Bool.eq_false_of_not_eq_true fun h =>
      hne (congrArg some ((isSpace_of_canonical (normal.chars c hc)).mp h))
  have hstripped : Text.strip (squeezed (before.map blanked ++ cs ++ after.map blanked)) = cs := by
    have hkept : ∀ inRun, Text.squeeze Text.isSpace ' ' inRun cs = cs := fun inRun =>
      Text.squeeze_eq_self (fun c hc => (isSpace_of_canonical (normal.chars c hc)).mp)
        normal.single fun _ => normal.first
    have hrun : ∀ q inRun, IsQuoting q →
        ∀ c ∈ Text.squeeze Text.isSpace ' ' inRun (q.map blanked), Text.isSpace c = true := by
      intro q inRun hq c hc
      obtain rfl : c = ' ' := (Text.mem_squeeze hc).elim id (hblanks q hq c)
      rfl
    unfold squeezed
    rw [Text.squeeze_append, Text.squeeze_append, hkept]
    refine Text.strip_between (hrun before _ hbefore) (hrun after _ hafter) ?_ ?_
    · exact fun c hc => hspace c (List.mem_of_head? hc) (hc ▸ normal.first)
    · exact fun c hc => hspace c (List.mem_of_getLast? hc) (hc ▸ normal.last)
  have hbare : ∀ c ∈ before ++ cs ++ after, bare c = [c] := by
    intro c hc
    rcases hchars c hc with hc | rfl | rfl
    · exact bare_canonical hc
    · decide +kernel
    · decide +kernel
  rw [canonicalChars_eq_tidied, bare_eq_self hbare]
  unfold tidied
  rw [hseparated, hfolded, hblanked, hstripped]
  exact fold_eq_self normal.not_occurs

/-- A canonical template is found between quotes and commas. -/
theorem IsTemplate.canonical_quoted (template : IsTemplate cs) {before after : List Char}
    (hbefore : IsQuoting before) (hafter : IsQuoting after) :
    canonicalTemplateChars placeholder.toList (before ++ cs ++ after) = cs := by
  have hnot : ∀ q, IsQuoting q → '#' ∉ q := fun q hq => hq.not_mem (by decide) (by decide)
  have hfill : fill '#' standIn (before ++ cs ++ after) =
      before ++ fill '#' standIn cs ++ after := by
    rw [Text.fill_append, Text.fill_append, Text.fill_eq_self (hnot before hbefore),
      Text.fill_eq_self (hnot after hafter)]
  have hcanonical := template.normal.canonicalChars_quoted hbefore hafter
  rw [canonicalTemplateChars_eq]
  split
  · have hsame : cs.map (remark '#' '#') = cs := by
      refine (List.map_congr_left fun c _ => ?_).trans (List.map_id cs)
      unfold remark
      split
      · next h => exact h.symm
      · rfl
    rw [hfill, hcanonical, replace_fill template.free, hsame]
  · next h =>
    have hcs : '#' ∉ cs := fun hc => h (List.mem_append_left _ (List.mem_append_right _ hc))
    rwa [Text.fill_eq_self hcs] at hcanonical

end Reroll.Canonical
