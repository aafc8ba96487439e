import Reroll.Proofs.Catalog.Instance
import Reroll.Proofs.Line.Gather

/-!
# The filter for known modifiers

A catalog only takes lines away (`gather_filter`): whether a line is known depends on its canonical
text, and lines are merged with those of the same canonical text. An instance of a modifier in the
catalog is known, since it has the same family, so its line stays (`instance_known`).
-/

namespace Reroll

open Text (fillBy)

namespace Line

variable {t : Thresholds} {known : Option Catalog} {done out : List Line}

/-- The filter for known modifiers, by itself. -/
def passes (known : Option Catalog) (l : Line) : Bool := isKnown known l.canonical

/-- The filter comes last and does not raise. -/
theorem isEligible_eq (canonical : String) : isEligible t known canonical =
    (isEligible t none canonical).map fun eligible => eligible && isKnown known canonical := by
  unfold isEligible
  dsimp only
  cases isShort t canonical.toList with
  | error e => rfl
  | ok short =>
    cases short with
    | true => rfl
    | false =>
      cases isSparse t canonical.toList with
      | error e => rfl
      | ok sparse =>
        cases sparse with
        | true => rfl
        | false =>
          show Except.ok (hasSignal canonical.toList && isKnown known canonical) =
            Except.ok (hasSignal canonical.toList && true && isKnown known canonical)
          rw [Bool.and_true]

/-- A reading whose canonical text is known is treated as without a catalog. -/
theorem ofReading?_known {r : Reading} {raw : String} (htext : r.text = .text raw)
    (h : isKnown known (Canonical.canonical raw) = true) :
    ofReading? t known r = ofReading? t none r := by
  have hcanonical : String.ofList (Canonical.canonicalChars (Text.strip raw.toList)) =
      Canonical.canonical raw := by
    rw [Canonical.canonicalChars_strip, Canonical.canonical]
  have heligible : isEligible t known (Canonical.canonical raw) =
      isEligible t none (Canonical.canonical raw) := by
    rw [isEligible_eq, h]
    cases isEligible t none (Canonical.canonical raw) with
    | error e => rfl
    | ok eligible => exact congrArg Except.ok (Bool.and_true eligible)
  unfold ofReading?
  rw [htext, textFor_text]
  dsimp only
  rw [hcanonical, heligible]

/-- What becomes a line without a catalog becomes the same line or none. -/
theorem ofReading?_filter {r : Reading} {l? : Option Line} (h : ofReading? t none r = .ok l?) :
    ofReading? t known r = .ok (l?.filter (passes known)) := by
  unfold ofReading? at h ⊢
  cases htext : r.text.textFor "strip" with
  | error e =>
    rw [htext] at h
    cases h
  | ok text =>
    rw [htext] at h
    dsimp only at h ⊢
    cases hshort : isShort t (Text.strip text.toList) with
    | error e =>
      rw [hshort] at h
      cases h
    | ok short =>
      rw [hshort] at h
      cases short with
      | true =>
        obtain rfl : none = l? := Except.ok.inj h
        rfl
      | false =>
        dsimp only at h ⊢
        split at h
        · next hstart =>
          obtain rfl : none = l? := Except.ok.inj h
          rw [if_pos hstart]
          rfl
        · next hstart =>
          rw [if_neg hstart, isEligible_eq]
          generalize String.ofList (Canonical.canonicalChars (Text.strip text.toList)) =
            canonical at h ⊢
          cases heligible : isEligible t none canonical with
          | error e =>
            rw [heligible] at h
            cases h
          | ok eligible =>
            rw [heligible] at h
            cases eligible with
            | false =>
              obtain rfl : none = l? := Except.ok.inj h
              rfl
            | true =>
              dsimp only at h
              split at h
              · cases h
              · next confidence hconfidence =>
                obtain rfl := Except.ok.inj h
                cases hknown : isKnown known canonical with
                | true => simp [Except.map, Option.filter_some, passes, hknown]
                | false => simp [Except.map, Option.filter_some, passes, hknown]

/-- Lines that do not pass are merged with none that do. -/
theorem merge_filter (l : Line) (lines : List Line) :
    (merge l lines).filter (passes known) =
      if passes known l then merge l (lines.filter (passes known))
      else lines.filter (passes known) := by
  induction lines with
  | nil =>
    cases hl : passes known l with
    | true => simp [merge, hl]
    | false => simp [merge, hl]
  | cons k rest ih =>
    by_cases hcanonical : k.canonical = l.canonical
    · have hsame : passes known k = passes known l := by rw [passes, passes, hcanonical]
      rw [merge, if_pos hcanonical]
      cases hl : passes known l with
      | true =>
        rw [hl] at hsame
        rw [List.filter_cons_of_pos hsame, if_pos rfl, merge, if_pos hcanonical]
        split
        · rw [List.filter_cons_of_pos hl]
        · rw [List.filter_cons_of_pos hsame]
      | false =>
        rw [hl] at hsame
        have hk : ¬passes known k = true := by rw [hsame]; exact Bool.false_ne_true
        have hl : ¬passes known l = true := by rw [hl]; exact Bool.false_ne_true
        rw [List.filter_cons_of_neg hk, if_neg Bool.false_ne_true]
        split
        · rw [List.filter_cons_of_neg hl]
        · rw [List.filter_cons_of_neg hk]
    · rw [merge, if_neg hcanonical]
      by_cases hk : passes known k = true
      · rw [List.filter_cons_of_pos hk, List.filter_cons_of_pos hk, ih, merge, if_neg hcanonical]
        split
        · rfl
        · rfl
      · rw [List.filter_cons_of_neg hk, List.filter_cons_of_neg hk, ih]

theorem mergeAll_filter (readings : List Reading) (h : mergeAll t none done readings = .ok out) :
    mergeAll t known (done.filter (passes known)) readings = .ok (out.filter (passes known)) := by
  induction readings generalizing done with
  | nil =>
    obtain rfl : done = out := Except.ok.inj h
    rfl
  | cons r rest ih =>
    unfold mergeAll at h ⊢
    cases hr : ofReading? t none r with
    | error e =>
      rw [hr] at h
      cases h
    | ok l? =>
      rw [hr] at h
      rw [ofReading?_filter hr]
      cases l? with
      | none => exact ih h
      | some l =>
        have hnext := ih h
        rw [merge_filter] at hnext
        cases hl : passes known l with
        | true =>
          rw [Option.filter_some_pos hl]
          rwa [hl, if_pos rfl] at hnext
        | false =>
          rw [hl, if_neg Bool.false_ne_true] at hnext
          simpa [Option.filter, hl] using hnext

/-- A catalog takes away the lines that are not known and leaves the others as they are. -/
theorem gather_filter (known : Option Catalog) {sets : List (List Reading)} {all : List Line}
    (h : gather sets none t = .ok all) :
    ∃ lines, gather sets known t = .ok lines ∧ lines.Perm (all.filter (passes known)) := by
  unfold gather at h ⊢
  cases hmerged : mergeAll t none [] sets.flatten with
  | error e =>
    rw [hmerged] at h
    cases h
  | ok merged =>
    rw [hmerged] at h
    obtain rfl : rank merged = all := Except.ok.inj h
    have hfiltered : mergeAll t known [] sets.flatten = .ok (merged.filter (passes known)) :=
      mergeAll_filter sets.flatten hmerged
    refine ⟨rank (merged.filter (passes known)), ?_, ?_⟩
    · rw [hfiltered]
      rfl
    · have hranked := (rank_perm merged).filter (passes known)
      exact (rank_perm _).trans hranked.symm

end Line

namespace Catalog

open Canonical

variable {c : Catalog} {t line : String} {texts : List String}

theorem knows_congr (h : family line = family t) : c.knows line = c.knows t := by
  unfold knows
  rw [h]

/-- A catalog knows the texts that it was made from. -/
theorem knows_ofTexts (h : t ∈ texts) (nonempty : family t ≠ "") :
    (ofTexts texts).knows t = true := by
  have hsome : (family t).isEmpty = false := by simpa using nonempty
  have hmem : family t ∈ familiesOf texts :=
    List.mem_filter.mpr ⟨List.mem_map_of_mem h, by rw [hsome]; rfl⟩
  have hcontains : (ofTexts texts).families.contains (family t) = true := by
    rw [List.contains_iff_mem, families_ofTexts]
    exact mem_sorted.mpr hmem
  unfold knows
  dsimp only
  rw [hsome, hcontains]
  rfl

/-- All numbers of a modifier have one family, so a catalog that knows the modifier knows them in
every form, and no reading or line of them is taken away. -/
theorem instance_known (t : String) (amounts : ℕ → Amount) (nonempty : family t ≠ "")
    (tame : ¬reserved <:+: canonicalChars t.toList)
    (alone : Alone (canonicalTemplateChars placeholder.toList t.toList)) :
    let line := String.ofList (fillBy '#' (fun i => (amounts i).written) t.toList)
    family line = family t ∧
    (∀ texts, t ∈ texts → (ofTexts texts).knows t = true) ∧
    ∀ c : Catalog, c.knows t = true →
      c.knows (canonical line) = true ∧
      (∀ (th : Line.Thresholds) (r : Reading), r.text = .text line →
        Line.ofReading? th (some c) r = Line.ofReading? th none r) ∧
      ∀ (th : Line.Thresholds) (sets : List (List Reading)) (all : List Line),
        Line.gather sets none th = .ok all →
        ∃ lines, Line.gather sets (some c) th = .ok lines ∧
          ∀ l ∈ all, l.canonical = canonical line → l ∈ lines := by
  intro line
  have hline : line.toList = fillBy '#' (fun i => (amounts i).written) t.toList :=
    String.toList_ofList
  have hfamily : family line = family t := by
    rw [family, family, hline, familyChars_instance amounts tame alone]
  have hcanonical : family (canonical line) = family line := by
    have hmark : '#' ∉ line.toList := hline ▸ mark_not_mem_instance amounts t.toList
    rw [family, family, canonical, String.toList_ofList, familyChars_canonical hmark]
  refine ⟨hfamily, fun texts h => knows_ofTexts h nonempty, ?_⟩
  intro c hc
  have hknows : c.knows (canonical line) = true := by
    rw [knows_congr (hcanonical.trans hfamily), hc]
  have hknown : Line.isKnown (some c) (canonical line) = true := by
    unfold Line.isKnown
    dsimp only
    rw [hknows, Bool.or_true]
  refine ⟨hknows, fun th r htext => Line.ofReading?_known htext hknown, ?_⟩
  intro th sets all hall
  obtain ⟨lines, hlines, hperm⟩ := Line.gather_filter (some c) hall
  refine ⟨lines, hlines, ?_⟩
  intro l hl hsame
  have hpasses : Line.passes (some c) l = true := by rw [Line.passes, hsame, hknown]
  exact hperm.symm.subset (List.mem_filter.mpr ⟨hl, hpasses⟩)

/-- Damage from one number to another, the second of them with a fraction. -/
theorem instance_known_damage :
    let t := "Adds # to # Fire Damage"
    let line := "Adds 5 to 10.5 Fire Damage"
    (family t ≠ "" ∧ ¬reserved <:+: canonicalChars t.toList ∧
      Alone (canonicalTemplateChars placeholder.toList t.toList)) ∧
    family line = family t ∧ (ofTexts [t]).knows (canonical line) = true := by
  intro t line
  let amounts : ℕ → Amount := fun i =>
    if i = 0 then ⟨⟨"5".toList, by decide, by simp⟩, none⟩
    else ⟨⟨"10".toList, by decide, by simp⟩, some ⟨"5".toList, by decide, by simp⟩⟩
  have nonempty : family t ≠ "" := by decide +kernel
  have tame : ¬reserved <:+: canonicalChars t.toList := by decide +kernel
  have alone : Alone (canonicalTemplateChars placeholder.toList t.toList) := by decide +kernel
  have hline : String.ofList (fillBy '#' (fun i => (amounts i).written) t.toList) = line := by
    decide +kernel
  obtain ⟨hfamily, hlisted, hknown⟩ := instance_known t amounts nonempty tame alone
  rw [hline] at hfamily hknown
  have ht : (ofTexts [t]).knows t = true := hlisted [t] (List.mem_singleton_self t)
  exact ⟨⟨nonempty, tame, alone⟩, hfamily, (hknown (ofTexts [t]) ht).1⟩

end Catalog

end Reroll
