import Reroll.Proofs.Canonical.Fold
import Reroll.Proofs.Text.Blank

/-!
# Normal forms

The canonical form of a text is in normal form, and a text in normal form is its own canonical form.
So the normal forms are exactly the canonical texts, and making a text canonical again changes
nothing (`canonical_normalizes`).
-/

namespace Reroll.Canonical

/-- Canonical text, told without the passes that make it. -/
structure IsNormal (cs : List Char) : Prop where
  chars : ∀ c ∈ cs, isCanonicalChar c = true
  first : cs.head? ≠ some ' '
  last : cs.getLast? ≠ some ' '
  single : ¬[' ', ' '] <:+: cs
  /-- A "skill gem" or "skill gems" is always part of a longer word. -/
  folded : ∀ before gem rest, gem = "skill gem".toList ∨ gem = "skill gems".toList →
    cs = before ++ gem ++ rest →
      before.getLast?.any Text.isWord = true ∨ rest.head?.any Text.isWord = true

variable {c : Char} {cs : List Char} {inWord : Bool}

/-! ### Canonical characters -/

theorem toNat_of_canonical (h : isCanonicalChar c = true) : c.toNat < 128 := by
  have hle : ∀ d : Char, d.toNat < 128 → c ≤ d → c.toNat < 128 := fun d hd hcd =>
    Nat.lt_of_le_of_lt (UInt32.le_iff_toNat_le.mp hcd) hd
  simp only [isCanonicalChar, isAlnum, Bool.or_eq_true, Bool.and_eq_true, decide_eq_true_eq,
    beq_iff_eq] at h
  rcases h with (((((⟨-, h⟩ | ⟨-, h⟩) | rfl) | rfl) | rfl) | rfl) | rfl
  · exact hle 'z' (by decide) h
  · exact hle '9' (by decide) h
  all_goals decide

/-- What holds of the ASCII characters is told by going through them. -/
theorem forall_ascii {P : Char → Prop} (ascii : ∀ n < 128, P (Char.ofNat n)) :
    ∀ c : Char, c.toNat < 128 → P c := by
  intro c h
  have hc := ascii c.toNat h
  rwa [Char.ofNat_toNat] at hc

theorem forall_canonical {P : Char → Prop}
    (ascii : ∀ n < 128, isCanonicalChar (Char.ofNat n) = true → P (Char.ofNat n)) :
    ∀ c, isCanonicalChar c = true → P c := fun c h =>
  forall_ascii (P := fun c => isCanonicalChar c = true → P c) ascii c (toNat_of_canonical h) h

/-- Each pass over single characters leaves the canonical ones as they are. -/
theorem canonicalChar_stays (h : isCanonicalChar c = true) :
    Text.lowerChar c = c ∧ plainSign c = c ∧ isBracket c = false ∧ isSeparator c = false ∧
      (Text.isSpace c = true ↔ c = ' ') := by
  revert c
  apply forall_canonical
  decide +kernel

theorem isSpace_of_canonical (h : isCanonicalChar c = true) : Text.isSpace c = true ↔ c = ' ' :=
  (canonicalChar_stays h).2.2.2.2

theorem lower_eq_self (chars : ∀ c ∈ cs, isCanonicalChar c = true) : Text.lower cs = cs := by
  unfold Text.lower
  generalize ([] : List Char) = before
  induction cs generalizing before with
  | nil => rfl
  | cons c cs ih =>
    have hc := chars c (List.mem_cons_self ..)
    have hsigma : c ≠ '\u03A3' := by
      rintro rfl
      cases hc
    have hdotted : c ≠ '\u0130' := by
      rintro rfl
      cases hc
    unfold Text.lowerAfter
    rw [if_neg hsigma, if_neg hdotted, (canonicalChar_stays hc).1,
      ih (fun d hd => chars d (List.mem_cons_of_mem _ hd))]
    rfl

theorem blanked_canonical (c : Char) : isCanonicalChar (blanked c) = true := by
  unfold blanked
  split
  · assumption
  · rfl

theorem blanked_ne {d : Char} (h : isCanonicalChar d = false) : blanked c ≠ d := by
  rintro rfl
  rw [blanked_canonical] at h
  cases h

theorem blanked_eq_iff {d : Char} (canonical : isCanonicalChar d = true) (dark : d ≠ ' ') :
    blanked c = d ↔ c = d := by
  unfold blanked
  constructor
  · intro h
    split at h
    · exact h
    · exact absurd h.symm dark
  · rintro rfl
    exact if_pos canonical

/-! ### Canonical text is normal -/

theorem fold_eq_nil (h : foldFrom inWord 0 cs = []) : cs = [] := by
  have hhead := fold_head? inWord cs
  rw [h] at hhead
  exact List.head?_eq_none_iff.mp hhead.symm

/-- A space at the end of a fold ends the text as well. -/
theorem fold_getLast? (h : (foldFrom inWord 0 cs).getLast? = some ' ') :
    cs.getLast? = some ' ' := by
  induction inWord, cs using fold_induction with
  | nil inWord => cases h
  | keep inWord c cs none ih =>
    rw [foldFrom_keep none, List.getLast?_cons] at h
    rw [List.getLast?_cons]
    cases hlast : (foldFrom (Text.isWord c) 0 cs).getLast? with
    | none =>
      rw [fold_eq_nil (List.getLast?_eq_none_iff.mp hlast)]
      rw [hlast] at h
      exact h
    | some d =>
      rw [hlast] at h
      rw [ih (hlast.trans h)]
      rfl
  | fold gem rest is ends ih =>
    rw [foldFrom_gem is ends, List.getLast?_append] at h
    rw [List.getLast?_append]
    cases hlast : (foldFrom true 0 rest).getLast? with
    | none =>
      rw [hlast] at h
      cases h
    | some d =>
      rw [hlast] at h
      rw [ih (hlast.trans h)]
      rfl

/-- Two spaces in a row of a fold stand in the text as well. -/
theorem fold_single (single : ¬[' ', ' '] <:+: cs) : ¬[' ', ' '] <:+: foldFrom inWord 0 cs := by
  induction inWord, cs using fold_induction with
  | nil inWord => exact single
  | keep inWord c cs none ih =>
    rw [Text.doubled_cons, not_or] at single
    rw [foldFrom_keep none, Text.doubled_cons, not_or, fold_head?]
    exact ⟨single.1, ih single.2⟩
  | fold gem rest is ends ih =>
    have hrest := ih fun h => single (h.trans (List.suffix_append gem rest).isInfix)
    rw [foldFrom_gem is ends]
    simpa [Text.doubled_cons] using hrest

theorem afterWord_eq (before : List Char) :
    afterWord false before = before.getLast?.any Text.isWord := by
  rcases List.eq_nil_or_concat before with rfl | ⟨before, c, rfl⟩
  · rfl
  · simp [afterWord]

theorem occurs_append (before : List Char) (h : Occurs (afterWord inWord before) cs) :
    Occurs inWord (before ++ cs) := by
  induction before generalizing inWord with
  | nil => exact h
  | cons c before ih => exact .later (ih h)

theorem exists_of_occurs (h : Occurs inWord cs) : ∃ before gem rest, cs = before ++ gem ++ rest ∧
    IsSkillGem gem ∧ afterWord inWord before = false ∧ EndsBefore rest := by
  induction h with
  | here is ends => exact ⟨[], _, _, rfl, is, rfl, ends⟩
  | later h ih =>
    obtain ⟨before, gem, rest, rfl, is, hbefore, ends⟩ := ih
    exact ⟨_ :: before, gem, rest, rfl, is, hbefore, ends⟩

theorem isSkillGem_of_words {gem : List Char}
    (h : gem = "skill gem".toList ∨ gem = "skill gems".toList) : IsSkillGem gem := by
  rcases h with rfl | rfl
  · exact .mk [' '] [] nofun (List.all_eq_true.mp (by decide)) (.inl rfl)
  · exact .mk [' '] ['s'] nofun (List.all_eq_true.mp (by decide)) (.inr rfl)

/-- Where no skill gem stands as whole words it is always part of a longer one. -/
theorem folded_of_not_occurs (none : ¬Occurs false cs) (before gem rest : List Char)
    (hgem : gem = "skill gem".toList ∨ gem = "skill gems".toList)
    (hsplit : cs = before ++ gem ++ rest) :
    before.getLast?.any Text.isWord = true ∨ rest.head?.any Text.isWord = true := by
  by_contra hbounds
  rw [not_or, Bool.not_eq_true, Bool.not_eq_true, ← afterWord_eq] at hbounds
  have hoccurs : Occurs false (before ++ (gem ++ rest)) := by
    refine occurs_append before ?_
    rw [hbounds.1]
    exact .here (isSkillGem_of_words hgem) hbounds.2
  rw [← List.append_assoc, ← hsplit] at hoccurs
  exact none hoccurs

/-- Canonical text is in normal form. -/
theorem canonicalChars_normal (cs : List Char) : IsNormal (canonicalChars cs) := by
  unfold canonicalChars
  dsimp only
  generalize foldSkillGems (Text.squeeze isSeparator ' ' false _) = folded
  have hsqueezed : ∀ c ∈ squeezed (folded.map blanked), isCanonicalChar c = true := by
    intro c hc
    rcases Text.mem_squeeze hc with rfl | hc
    · rfl
    · obtain ⟨d, -, rfl⟩ := List.mem_map.mp hc
      exact blanked_canonical d
  have hstripped := Text.strip_infix (squeezed (folded.map blanked))
  refine ⟨fun c hc => ?_, fun h => ?_, fun h => ?_, ?_, fun before gem rest hgem hsplit => ?_⟩
  · rcases mem_fold hc with hc | hc
    · exact hsqueezed c (hstripped.subset hc)
    · have hletters : ∀ c ∈ "skills".toList, isCanonicalChar c = true :=
        List.all_eq_true.mp (by decide)
      exact hletters c hc
  · rw [foldSkillGems, fold_head?] at h
    cases Text.strip_head? h
  · cases Text.strip_getLast? (fold_getLast? h)
  · exact fold_single fun h => Text.squeeze_single rfl (h.trans hstripped)
  · exact folded_of_not_occurs not_occurs_fold before gem rest hgem hsplit

/-! ### Normal text is canonical -/

namespace IsNormal

/-- With single spaces the blanks of a skill gem are one space. -/
theorem not_occurs (normal : IsNormal cs) : ¬Occurs false cs := by
  intro h
  obtain ⟨before, gem, rest, hsplit, is, hbefore, ends⟩ := exists_of_occurs h
  have hgem : gem = "skill gem".toList ∨ gem = "skill gems".toList := by
    obtain ⟨blanks, plural, hsome, hblank, hplural⟩ := is
    have hwithin : blanks <:+: cs :=
      ⟨before ++ "skill".toList, "gem".toList ++ plural ++ rest, by simp [hsplit]⟩
    have hspace : ∀ c ∈ blanks, c = ' ' := fun c hc =>
      (isSpace_of_canonical (normal.chars c (hwithin.subset hc))).mp (hblank c hc)
    obtain rfl : blanks = [' '] := by
      match blanks with
      | [] => exact absurd rfl hsome
      | [c] => rw [hspace c (by simp)]
      | c :: d :: more =>
        rw [hspace c (by simp), hspace d (by simp)] at hwithin
        exact absurd ((List.prefix_append [' ', ' '] more).isInfix.trans hwithin) normal.single
    rcases hplural with rfl | rfl
    · exact .inl rfl
    · exact .inr rfl
  rcases normal.folded before gem rest hgem hsplit with h | h
  · rw [← afterWord_eq, hbefore] at h
    cases h
  · rw [EndsBefore, h] at ends
    cases ends

/-- Text in normal form is its own canonical form. -/
theorem canonicalChars_eq (normal : IsNormal cs) : canonicalChars cs = cs := by
  have hstays : ∀ c ∈ cs, _ := fun c hc => canonicalChar_stays (normal.chars c hc)
  have hsigns : cs.map plainSign = cs :=
    (List.map_congr_left fun c hc => (hstays c hc).2.1).trans (List.map_id cs)
  have hbare : cs.filter (fun c => !isBracket c) = cs :=
    List.filter_eq_self.mpr fun c hc => by rw [(hstays c hc).2.2.1]; rfl
  have hseparated : Text.squeeze isSeparator ' ' false cs = cs :=
    Text.squeeze_eq_self_of_forall fun c hc => (hstays c hc).2.2.2.1
  have hfolded : foldSkillGems cs = cs := fold_eq_self normal.not_occurs
  have hblanked : cs.map blanked = cs :=
    (List.map_congr_left fun c hc => if_pos (normal.chars c hc)).trans (List.map_id cs)
  have hsqueezed : squeezed cs = cs :=
    Text.squeeze_eq_self (fun c hc => (hstays c hc).2.2.2.2.mp) normal.single nofun
  have hspace : ∀ c ∈ cs, some c ≠ some ' ' → Text.isSpace c = false := fun c hc hne =>
    Bool.eq_false_of_not_eq_true fun h => hne (congrArg some ((hstays c hc).2.2.2.2.mp h))
  have hstripped : Text.strip cs = cs := by
    refine Text.strip_eq_self (fun c hc => ?_) fun c hc => ?_
    · exact hspace c (List.mem_of_head? hc) (hc ▸ normal.first)
    · exact hspace c (List.mem_of_getLast? hc) (hc ▸ normal.last)
  unfold canonicalChars
  simp only [lower_eq_self normal.chars, hsigns, hbare, hseparated, hfolded, hblanked, hsqueezed,
    hstripped]

end IsNormal

/-- The canonical form of a text is in normal form, the texts in normal form are those that are
their own canonical form, and they are all the canonical forms there are. -/
theorem canonical_normalizes (s : String) :
    IsNormal (canonical s).toList ∧ (IsNormal s.toList ↔ canonical s = s) ∧
      (IsNormal s.toList ↔ ∃ t, canonical t = s) ∧ canonical (canonical s) = canonical s := by
  have hnormal : ∀ t, IsNormal (canonical t).toList := by
    intro t
    rw [canonical, String.toList_ofList]
    exact canonicalChars_normal t.toList
  have hstays : ∀ t, IsNormal t.toList → canonical t = t := by
    intro t ht
    rw [canonical, ht.canonicalChars_eq, String.ofList_toList]
  refine ⟨hnormal s, ⟨hstays s, fun h => h ▸ hnormal s⟩, ⟨fun h => ⟨s, hstays s h⟩, ?_⟩, ?_⟩
  · rintro ⟨t, rfl⟩
    exact hnormal t
  · exact hstays _ (hnormal s)

example : canonical "Level of all «Skill» Gems" = "level of all skills" := by
  decide +kernel

end Reroll.Canonical
