import Mathlib.Data.List.MinMax
import Reroll.Proofs.Line.Order
import Reroll.Proofs.Text.Blank

/-!
# Gathering again

What is gathered has, for each canonical text, the first of the best lines drawn with it, and is in
strict order; no other list is like that (`Gathered.eq`). A line that was gathered passes the same
filters again (`ofReading?_reading`), and the best of the best lines of two parts is the best line
of the whole (`Gathered.best_append`). So lines may be gathered in parts, and those of the parts
gathered again (`gather_composes`).
-/

namespace Reroll

/-! ### Confidences -/

theorem Decimal.readReal_ne_int {cs : List Char} {n : Number} (h : readReal cs = some n) (i : ℤ) :
    n ≠ .int i := by
  obtain ⟨⟨negative, size⟩, -, rfl⟩ := Option.map_eq_some_iff.mp h
  unfold Number.signed
  split
  · split <;> nofun
  · nofun

/-- A confidence that was read is read as itself. -/
theorem Value.toReal_num {v : Value} {n : Number} (h : v.toReal = .ok n) :
    (Value.num n).toReal = .ok n := by
  have hnot : ∀ i, n ≠ .int i := by
    intro i
    unfold toReal at h
    split at h
    · next j =>
      cases hj : (Number.int j).toFloat with
      | error e =>
        rw [hj] at h
        cases h
      | ok x =>
        rw [hj] at h
        cases h
        nofun
    · next m hm =>
      cases h
      exact hm i
    · cases h
      nofun
    · split at h
      · next m hm =>
        cases h
        exact Decimal.readReal_ne_int hm i
      · cases h
    · split at h
      · next m hm =>
        cases h
        exact Decimal.readReal_ne_int hm i
      · cases h
    · cases h
  cases n with
  | int i => exact absurd rfl (hnot i)
  | float x => rfl
  | minusNaN => rfl

namespace Line

variable {t : Thresholds} {known : Option Catalog} {r : Reading} {a b l : Line}
variable {lines lines' drawn drawn' xs ys : List Line} {text : String}

/-! ### A line read again -/

/-- A line as if it had been recognized. -/
def reading (l : Line) : Reading where
  text := .text l.text
  confidence := .num l.confidence

/-- A line passes the filters that it has passed. -/
theorem ofReading?_reading (h : ofReading? t known r = .ok (some l)) :
    ofReading? t known l.reading = .ok (some l) := by
  unfold ofReading? at h
  cases htext : r.text.textFor "strip" with
  | error e =>
    rw [htext] at h
    cases h
  | ok text =>
    rw [htext] at h
    dsimp only at h
    have hstripped : Text.strip (Text.strip text.toList) = Text.strip text.toList :=
      Text.strip_eq_self (fun _ => Text.strip_head?) fun _ => Text.strip_getLast?
    generalize Text.strip text.toList = raw at h hstripped
    split at h
    · cases h
    · cases h
    · next hshort =>
      split at h
      · cases h
      · next hstart =>
        split at h
        · cases h
        · cases h
        · next heligible =>
          split at h
          · cases h
          · next confidence hconfidence =>
            cases h
            unfold ofReading? reading
            rw [textFor_text]
            dsimp only
            rw [String.toList_ofList, hstripped, hshort]
            dsimp only
            rw [if_neg hstart, heligible]
            dsimp only
            rw [Value.toReal_num hconfidence]

theorem reading_measured (hr : IsMeasured r) (h : ofReading? t known r = .ok (some l)) :
    IsMeasured l.reading := by
  obtain ⟨-, -, -, -, hconfidence⟩ := ofReading?_some h
  exact ⟨⟨l.text, textFor_text ..⟩, l.confidence, l.value, Value.toReal_num hconfidence,
    hr.finite h⟩

/-- Lines that were drawn are drawn again from themselves. -/
theorem ofReadings_reading (h : ∀ l ∈ lines, ∃ r, ofReading? t known r = .ok (some l)) :
    ofReadings t known (lines.map reading) = lines := by
  induction lines with
  | nil => rfl
  | cons l lines ih =>
    obtain ⟨⟨r, hr⟩, hrest⟩ := List.forall_mem_cons.mp h
    have hl := ofReading?_reading hr
    have hnext : ofReadings t known (l.reading :: lines.map reading) =
        l :: ofReadings t known (lines.map reading) :=
      List.filterMap_cons_some (by rw [hl]; rfl)
    rw [List.map_cons, hnext, ih hrest]

/-! ### The first of the best -/

section FirstBest

variable {α β : Type} [LinearOrder β] (f : α → β)

/-- The first of the best in a list, where less is better. -/
def firstBest (as : List α) : Option α := as.argmin f

/-- What comes last is the best if it is better than what was the best before. -/
theorem firstBest_concat (as : List α) (a : α) : firstBest f (as ++ [a]) =
    some ((firstBest f as).elim a fun b => if f a < f b then a else b) := by
  unfold firstBest
  rw [List.argmin_concat]
  cases as.argmin f with
  | none => rfl
  | some b => exact (apply_ite some ..).symm

theorem firstBest_toList (a? : Option α) : firstBest f a?.toList = a? := by
  cases a? with
  | none => rfl
  | some a => exact List.argmin_singleton

/-- What comes before may be left to its best. -/
theorem firstBest_before (as bs : List α) :
    firstBest f ((firstBest f as).toList ++ bs) = firstBest f (as ++ bs) := by
  induction bs using List.reverseRecOn with
  | nil => rw [List.append_nil, List.append_nil, firstBest_toList]
  | append_singleton bs b ih =>
    rw [← List.append_assoc, ← List.append_assoc, firstBest_concat, firstBest_concat, ih]

/-- What comes after may be left to its best. -/
theorem firstBest_behind (as bs : List α) :
    firstBest f (as ++ (firstBest f bs).toList) = firstBest f (as ++ bs) := by
  induction as with
  | nil => exact firstBest_toList f _
  | cons a as ih =>
    unfold firstBest at ih ⊢
    rw [List.cons_append, List.cons_append, List.argmin_cons, List.argmin_cons, ih]

end FirstBest

/-! ### The best line of each canonical text -/

/-- The lines with the given canonical text. -/
def withCanonical (text : String) (lines : List Line) : List Line :=
  lines.filter fun l => l.canonical = text

/-- The first of the best lines with the given canonical text. -/
def best (text : String) (lines : List Line) : Option Line :=
  firstBest (fun l => l.content.choice) (withCanonical text lines)

theorem mem_of_best (h : best text lines = some l) : l ∈ lines ∧ l.canonical = text := by
  have hmem : l ∈ withCanonical text lines := List.argmin_mem h
  simpa [withCanonical] using hmem

theorem mem_withCanonical : l ∈ withCanonical text lines ↔ l ∈ lines ∧ l.canonical = text := by
  simp [withCanonical]

theorem withCanonical_append : withCanonical text (xs ++ ys) =
    withCanonical text xs ++ withCanonical text ys := List.filter_append ..

/-- A line is merged with the one of its canonical text, if there is one. -/
theorem merge_withCanonical {k? : Option Line} (h : withCanonical l.canonical lines = k?.toList) :
    withCanonical l.canonical (merge l lines) =
      [k?.elim l fun k => if l.replaces k then l else k] := by
  unfold withCanonical at h ⊢
  induction lines with
  | nil =>
    obtain rfl : k? = none := by simpa using h.symm
    simp [merge]
  | cons k rest ih =>
    rw [merge]
    by_cases hk : k.canonical = l.canonical
    · rw [List.filter_cons_of_pos (by simpa using hk)] at h
      obtain ⟨rfl, hrest⟩ : k? = some k ∧ rest.filter (fun k => k.canonical = l.canonical) = [] := by
        cases k? with
        | none => cases h
        | some d =>
          obtain ⟨rfl, hrest⟩ := List.cons.inj h
          exact ⟨rfl, hrest⟩
      rw [if_pos hk]
      split
      · next hwins => simp [hrest, hwins]
      · next hstays => simp [hrest, hk, hstays]
    · rw [List.filter_cons_of_neg (by simpa using hk)] at h
      rw [if_neg hk, List.filter_cons_of_neg (by simpa using hk), ih h]

theorem merge_withCanonical_other (h : l.canonical ≠ text) :
    withCanonical text (merge l lines) = withCanonical text lines := by
  unfold withCanonical
  induction lines with
  | nil => simp [merge, h]
  | cons k rest ih =>
    rw [merge]
    by_cases hk : k.canonical = l.canonical
    · have hother : k.canonical ≠ text := fun heq => h (hk.symm.trans heq)
      rw [if_pos hk]
      split
      · simp [h, hother]
      · rfl
    · rw [if_neg hk, List.filter_cons, List.filter_cons, ih]

/-- Merging keeps the first of the best lines. -/
theorem mergeIn_withCanonical (finite : ∀ l ∈ drawn, l.IsFinite) (text : String) :
    withCanonical text (mergeIn [] drawn) = (best text drawn).toList := by
  induction drawn using List.reverseRecOn with
  | nil => rfl
  | append_singleton drawn l ih =>
    have ih := ih fun k hk => finite k (List.mem_append_left _ hk)
    have hmerge : mergeIn [] (drawn ++ [l]) = merge l (mergeIn [] drawn) := List.foldl_append ..
    rw [hmerge, best, withCanonical_append]
    by_cases hl : l.canonical = text
    · subst hl
      have hone : withCanonical l.canonical [l] = [l] := by simp [withCanonical]
      rw [merge_withCanonical ih, hone, firstBest_concat, ← best]
      cases hk : best l.canonical drawn with
      | none => rfl
      | some k =>
        have hkdrawn : k ∈ drawn := (mem_of_best hk).1
        simp [replaces_eq (finite l (by simp)) (finite k (List.mem_append_left _ hkdrawn))]
    · have hnone : withCanonical text [l] = [] := by simp [withCanonical, hl]
      rw [merge_withCanonical_other hl, ih, hnone, List.append_nil, best]

/-! ### What is gathered -/

/-- A list has the first of the best lines with each canonical text, in strict order. -/
structure Gathered (drawn lines : List Line) : Prop where
  bests : ∀ text, withCanonical text lines = (best text drawn).toList
  ordered : lines.Pairwise fun a b => a.content.key < b.content.key

namespace Gathered

theorem mem_iff (h : Gathered drawn lines) : l ∈ lines ↔ best l.canonical drawn = some l := by
  have hmem : l ∈ lines ↔ l ∈ withCanonical l.canonical lines := by simp [mem_withCanonical]
  rw [hmem, h.bests, Option.mem_toList]

theorem drawn_of_mem (h : Gathered drawn lines) (hl : l ∈ lines) : l ∈ drawn :=
  (mem_of_best (h.mem_iff.mp hl)).1

theorem eq (h : Gathered drawn lines) (h' : Gathered drawn' lines')
    (same : ∀ text, best text drawn = best text drawn') : lines = lines' := by
  apply eq_of_ordered h.ordered h'.ordered
  intro l
  rw [h.mem_iff, h'.mem_iff, same]

/-- The best line of two parts is the best of the best lines of each. -/
theorem best_append (ha : Gathered xs lines) (hb : Gathered ys lines') (text : String) :
    best text (lines ++ lines') = best text (xs ++ ys) := by
  unfold best
  rw [withCanonical_append, withCanonical_append, ha.bests, hb.bests]
  unfold best
  rw [firstBest_before, firstBest_behind]

theorem best_self (h : Gathered drawn lines) (text : String) : best text lines = best text drawn := by
  have hnone : Gathered [] [] := ⟨fun _ => rfl, List.Pairwise.nil⟩
  have happend := h.best_append hnone text
  rwa [List.append_nil, List.append_nil] at happend

end Gathered

theorem rank_withCanonical {k? : Option Line} (h : withCanonical text lines = k?.toList) :
    withCanonical text (rank lines) = k?.toList := by
  have hperm : (withCanonical text (rank lines)).Perm (withCanonical text lines) :=
    (rank_perm lines).filter _
  rw [h] at hperm
  cases k? with
  | none => exact hperm.eq_nil
  | some k => exact List.perm_singleton.mp hperm

theorem gather_gathered (known : Option Catalog) (numeric : t.Numeric) (sets : List (List Reading))
    (measured : ∀ r ∈ sets.flatten, IsMeasured r) :
    ∃ lines, gather sets known t = .ok lines ∧
      Gathered (ofReadings t known sets.flatten) lines := by
  have hfinite : ∀ l ∈ ofReadings t known sets.flatten, l.IsFinite := by
    intro l hl
    obtain ⟨r, hr, hl⟩ := mem_ofReadings.mp hl
    exact (measured r hr).finite hl
  have hgather : gather sets known t =
      .ok (rank (mergeIn [] (ofReadings t known sets.flatten))) := by
    rw [gather, mergeAll_eq known numeric [] _ fun r hr => (measured r hr).readable]
    rfl
  obtain ⟨lines, hlines, hranked⟩ := gather_ranked known numeric sets measured
  obtain rfl := Except.ok.inj (hgather.symm.trans hlines)
  refine ⟨_, hgather, fun text => ?_, hranked.ordered⟩
  exact rank_withCanonical (mergeIn_withCanonical hfinite text)

/-- Lines that were drawn from readings are gathered in the same way as these. -/
theorem gather_reading (numeric : t.Numeric) (sets : List (List Line))
    (from' : ∀ l ∈ sets.flatten, ∃ r, IsMeasured r ∧ ofReading? t known r = .ok (some l)) :
    ∃ lines, gather (sets.map (List.map reading)) known t = .ok lines ∧
      Gathered sets.flatten lines := by
  have hflatten : (sets.map (List.map reading)).flatten = sets.flatten.map reading :=
    List.map_flatten.symm
  have hmeasured : ∀ r ∈ (sets.map (List.map reading)).flatten, IsMeasured r := by
    rw [hflatten]
    intro r hr
    obtain ⟨l, hl, rfl⟩ := List.mem_map.mp hr
    obtain ⟨r, hr, hl⟩ := from' l hl
    exact reading_measured hr hl
  have hdrawn : ofReadings t known (sets.map (List.map reading)).flatten = sets.flatten := by
    rw [hflatten]
    apply ofReadings_reading
    intro l hl
    obtain ⟨r, -, hl⟩ := from' l hl
    exact ⟨r, hl⟩
  obtain ⟨lines, hlines, hgathered⟩ := gather_gathered known numeric _ hmeasured
  rw [hdrawn] at hgathered
  exact ⟨lines, hlines, hgathered⟩

/-- Readings with finite confidences may be gathered in two parts: the lines of both, read again
with their texts and confidences, give the same lines as all the readings at once. And gathering
what was gathered changes nothing. -/
theorem gather_composes (known : Option Catalog) (t : Thresholds) (as bs : List (List Reading))
    (numeric : t.Numeric) (measured : ∀ r ∈ (as ++ bs).flatten, IsMeasured r) :
    ∃ a b lines, gather as known t = .ok a ∧ gather bs known t = .ok b ∧
      gather (as ++ bs) known t = .ok lines ∧
      gather [a.map reading, b.map reading] known t = .ok lines ∧
      gather [a.map reading] known t = .ok a := by
  rw [List.flatten_append] at measured
  obtain ⟨has, hbs⟩ := List.forall_mem_append.mp measured
  obtain ⟨a, hgatherA, ha⟩ := gather_gathered known numeric as has
  obtain ⟨b, hgatherB, hb⟩ := gather_gathered known numeric bs hbs
  obtain ⟨lines, hlines, hall⟩ := gather_gathered known numeric (as ++ bs)
    (by rwa [List.flatten_append])
  have hfrom : ∀ l ∈ a ++ b, ∃ r, IsMeasured r ∧ ofReading? t known r = .ok (some l) := by
    intro l hl
    rcases List.mem_append.mp hl with hl | hl
    · obtain ⟨r, hr, hl⟩ := mem_ofReadings.mp (ha.drawn_of_mem hl)
      exact ⟨r, has r hr, hl⟩
    · obtain ⟨r, hr, hl⟩ := mem_ofReadings.mp (hb.drawn_of_mem hl)
      exact ⟨r, hbs r hr, hl⟩
  obtain ⟨both, hboth, hparts⟩ := gather_reading numeric [a, b] (by simpa using hfrom)
  obtain ⟨again, hagain, hself⟩ := gather_reading numeric [a]
    (by simpa using (List.forall_mem_append.mp hfrom).1)
  have hsame : both = lines := by
    apply hparts.eq hall
    intro text
    rw [List.flatten_append, ofReadings, List.filterMap_append, ← ofReadings, ← ofReadings,
      ← ha.best_append hb]
    simp
  have hunchanged : again = a := by
    apply hself.eq ha
    intro text
    rw [List.flatten_singleton, ha.best_self]
  rw [hsame] at hboth
  rw [hunchanged] at hagain
  exact ⟨a, b, lines, hgatherA, hgatherB, hlines, hboth, hagain⟩

/-- The better reading of a line wins wherever the readings are parted. -/
theorem gather_composes_clear :
    (∀ r ∈ ([[blurred]] ++ [[clear], [blurred]]).flatten, IsMeasured r) ∧
    ∃ a b lines, gather [[blurred]] none {} = .ok a ∧
      gather [[clear], [blurred]] none {} = .ok b ∧
      gather ([[blurred]] ++ [[clear], [blurred]]) none {} = .ok lines ∧
      gather [a.map reading, b.map reading] none {} = .ok lines ∧
      gather [a.map reading] none {} = .ok a ∧
      a.map Line.text = ["+6 to level of all spell skills"] ∧
      lines.map Line.text = ["+6 to Level of all Spell Skills"] := by
  have hmeasured : ∀ r ∈ ([[blurred]] ++ [[clear], [blurred]]).flatten, IsMeasured r := by
    intro r hr
    rcases List.mem_cons.mp hr with rfl | hr
    · exact blurred_measured
    · rcases List.mem_pair.mp hr with rfl | rfl
      · exact clear_measured
      · exact blurred_measured
  obtain ⟨a, b, lines, ha, hb, hlines, hboth, hagain⟩ :=
    gather_composes none {} [[blurred]] [[clear], [blurred]] ⟨rfl, rfl⟩ hmeasured
  have htexts : (gather [[blurred]] none {}).toOption.map (List.map Line.text) =
      some ["+6 to level of all spell skills"] := by decide +kernel
  have hall : (gather ([[blurred]] ++ [[clear], [blurred]]) none {}).toOption.map
      (List.map Line.text) = some ["+6 to Level of all Spell Skills"] := by decide +kernel
  rw [ha] at htexts
  rw [hlines] at hall
  exact ⟨hmeasured, a, b, lines, ha, hb, hlines, hboth, hagain, Option.some.inj htexts,
    Option.some.inj hall⟩

end Line

end Reroll
