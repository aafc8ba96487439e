import Reroll.Line.Gather
import Reroll.Proofs.Ranking.Permutation

/-!
# What is gathered

The lines of a tooltip come from its readings, and the canonical text of every reading that passes
the filters is among theirs (`gather_ok`): merging keeps one line of each canonical text, and
ranking only rearranges them. If any two lines can be compared, the line kept is as good as any
other of its canonical text (`gather_kept`).
-/

namespace Reroll.Line

/-- The thresholds are numbers. -/
structure Thresholds.Numeric (t : Thresholds) : Prop where
  length : t.length.number?.isSome = true
  density : t.density.number?.isSome = true

/-- A reading has a text and a confidence that is a number. -/
def IsPlain (r : Reading) : Prop :=
  ∃ text confidence, r.text = .text text ∧ r.confidence.toReal = .ok confidence

/-- A reading has a text, or nothing in its place, and a confidence that is a number. -/
def IsReadable (r : Reading) : Prop :=
  (∃ text, r.text.textFor "strip" = .ok text) ∧ ∃ confidence, r.confidence.toReal = .ok confidence

variable {t : Thresholds} {known : Option Catalog}

theorem textFor_text (operation text : String) :
    (Value.text text).textFor operation = .ok text := by
  unfold Value.textFor
  by_cases h : text = ""
  · subst h
    rfl
  · simp [Value.truthy, h]

theorem IsPlain.readable {r : Reading} (h : IsPlain r) : IsReadable r := by
  obtain ⟨text, confidence, htext, hconfidence⟩ := h
  exact ⟨⟨text, by rw [htext, textFor_text]⟩, confidence, hconfidence⟩

theorem related_ok {n : Number} {r : Relation} {v : Value} (h : v.number?.isSome = true) :
    ∃ b, (Value.num n).related r v = .ok b := by
  obtain ⟨m, hm⟩ := Option.isSome_iff_exists.mp h
  refine ⟨r.holds n m, ?_⟩
  rw [Value.related, hm]
  rfl

theorem isEligible_ok (known : Option Catalog) (numeric : t.Numeric) (canonical : String) :
    ∃ b, isEligible t known canonical = .ok b := by
  obtain ⟨short, hshort⟩ : ∃ b, isShort t canonical.toList = .ok b := related_ok numeric.length
  obtain ⟨sparse, hsparse⟩ : ∃ b, isSparse t canonical.toList = .ok b := related_ok numeric.density
  unfold isEligible
  dsimp only
  rw [hshort]
  cases short with
  | true => exact ⟨false, rfl⟩
  | false =>
    rw [hsparse]
    cases sparse with
    | true => exact ⟨false, rfl⟩
    | false => exact ⟨_, rfl⟩

/-- A readable reading becomes a line or is left out. -/
theorem ofReading?_ok (known : Option Catalog) (numeric : t.Numeric) {r : Reading}
    (readable : IsReadable r) :
    ∃ l, ofReading? t known r = .ok l := by
  obtain ⟨⟨text, htext⟩, confidence, hconfidence⟩ := readable
  obtain ⟨short, hshort⟩ : ∃ b, isShort t (Text.strip text.toList) = .ok b :=
    related_ok numeric.length
  unfold ofReading?
  rw [htext]
  dsimp only
  rw [hshort]
  cases short with
  | true => exact ⟨none, rfl⟩
  | false =>
    dsimp only
    split
    · exact ⟨none, rfl⟩
    · obtain ⟨eligible, heligible⟩ := isEligible_ok known numeric
        (String.ofList (Canonical.canonicalChars (Text.strip text.toList)))
      rw [heligible]
      cases eligible with
      | false => exact ⟨none, rfl⟩
      | true =>
        dsimp only
        rw [hconfidence]
        exact ⟨_, rfl⟩

/-- The texts and the confidence of a line are those of its reading. -/
theorem ofReading?_some {r : Reading} {l : Line} (h : ofReading? t known r = .ok (some l)) :
    ∃ text, r.text.textFor "strip" = .ok text ∧ l.text = String.ofList (Text.strip text.toList) ∧
      l.canonical = String.ofList (Canonical.canonicalChars (Text.strip text.toList)) ∧
      r.confidence.toReal = .ok l.confidence := by
  unfold ofReading? at h
  split at h
  · cases h
  · next text htext =>
    dsimp only at h
    split at h
    · cases h
    · cases h
    · split at h
      · cases h
      · split at h
        · cases h
        · cases h
        · split at h
          · cases h
          · next confidence hconfidence =>
            cases h
            exact ⟨text, htext, rfl, rfl, hconfidence⟩

theorem ofReading?_text {r : Reading} {l : Line} {text : String} (htext : r.text = .text text)
    (h : ofReading? t known r = .ok (some l)) :
    l.text = String.ofList (Text.strip text.toList) ∧
      l.canonical = String.ofList (Canonical.canonicalChars (Text.strip text.toList)) := by
  obtain ⟨text', htext', hl, hcanonical, -⟩ := ofReading?_some h
  rw [htext, textFor_text] at htext'
  cases htext'
  exact ⟨hl, hcanonical⟩

/-! ### Merging -/

theorem mem_merge {candidate l : Line} {lines : List Line} (h : l ∈ merge candidate lines) :
    l = candidate ∨ l ∈ lines := by
  induction lines with
  | nil => exact .inl (List.mem_singleton.mp h)
  | cons k rest ih =>
    unfold merge at h
    split at h
    · split at h
      · rcases List.mem_cons.mp h with rfl | h
        · exact .inl rfl
        · exact .inr (List.mem_cons_of_mem _ h)
      · exact .inr h
    · rcases List.mem_cons.mp h with rfl | h
      · exact .inr (List.mem_cons_self ..)
      · exact (ih h).imp_right (List.mem_cons_of_mem _)

theorem merge_distinct (candidate : Line) {lines : List Line} (h : (lines.map canonical).Nodup) :
    ((merge candidate lines).map canonical).Nodup := by
  induction lines with
  | nil => exact List.nodup_singleton _
  | cons k rest ih =>
    obtain ⟨hk, hrest⟩ := List.nodup_cons.mp h
    unfold merge
    split
    · next hcanonical =>
      split
      · rw [List.map_cons, ← hcanonical]
        exact h
      · exact h
    · next hcanonical =>
      refine List.nodup_cons.mpr ⟨fun hmem => ?_, ih hrest⟩
      obtain ⟨l, hl, hlk⟩ := List.mem_map.mp hmem
      rcases mem_merge hl with rfl | hl
      · exact hcanonical hlk.symm
      · exact hk (List.mem_map.mpr ⟨l, hl, hlk⟩)

variable {R : Line → Line → Prop} {P Q : Line → Prop} {candidate : Line} {kept : List Line}

/-- Whichever of two lines with the same canonical text is kept is as good as the other. -/
def Settles (R : Line → Line → Prop) (candidate l : Line) : Prop :=
  (candidate.replaces l = true → R candidate l) ∧ (candidate.replaces l = false → R l candidate)

/-- For the candidate and each line before there is now one of the same canonical text that is as
good. -/
theorem merge_covers [IsPreorder Line R] (settles : ∀ l ∈ kept, Settles R candidate l) (k : Line)
    (h : k = candidate ∨ k ∈ kept) :
    ∃ l ∈ merge candidate kept, l.canonical = k.canonical ∧ R l k := by
  induction kept with
  | nil =>
    rcases h with rfl | h
    · exact ⟨k, List.mem_singleton_self _, rfl, refl_of R k⟩
    · cases h
  | cons head rest ih =>
    have ih := ih fun l hl => settles l (List.mem_cons_of_mem _ hl)
    obtain ⟨hwins, hstays⟩ := settles head (List.mem_cons_self ..)
    unfold merge
    split
    · next hhead =>
      split
      · next hreplaces =>
        rcases h with rfl | h
        · exact ⟨k, List.mem_cons_self .., rfl, refl_of R k⟩
        · rcases List.mem_cons.mp h with rfl | h
          · exact ⟨candidate, List.mem_cons_self .., hhead.symm, hwins hreplaces⟩
          · exact ⟨k, List.mem_cons_of_mem _ h, rfl, refl_of R k⟩
      · next hreplaces =>
        rcases h with rfl | h
        · have hbest := hstays (Bool.eq_false_of_not_eq_true hreplaces)
          exact ⟨head, List.mem_cons_self .., hhead, hbest⟩
        · exact ⟨k, h, rfl, refl_of R k⟩
    · have later : (k = candidate ∨ k ∈ rest) →
          ∃ l ∈ head :: merge candidate rest, l.canonical = k.canonical ∧ R l k := by
        intro h
        obtain ⟨l, hl, has⟩ := ih h
        exact ⟨l, List.mem_cons_of_mem _ hl, has⟩
      rcases h with h | h
      · exact later (.inl h)
      · rcases List.mem_cons.mp h with rfl | h
        · exact ⟨k, List.mem_cons_self .., rfl, refl_of R k⟩
        · exact later (.inr h)

/-- Of the lines drawn one of each canonical text is kept, as good as any other. -/
structure Kept (R : Line → Line → Prop) (P : Line → Prop) (kept : List Line) : Prop where
  drawn : ∀ l ∈ kept, P l
  distinct : (kept.map canonical).Nodup
  best : ∀ k, P k → ∃ l ∈ kept, l.canonical = k.canonical ∧ R l k

theorem Kept.congr (h : Kept R P kept) (hP : ∀ l, P l ↔ Q l) : Kept R Q kept :=
  ⟨fun l hl => (hP l).mp (h.drawn l hl), h.distinct, fun k hk => h.best k ((hP k).mpr hk)⟩

theorem Kept.perm {kept' : List Line} (h : Kept R P kept) (hperm : kept'.Perm kept) :
    Kept R P kept' := by
  refine ⟨fun l hl => h.drawn l (hperm.subset hl), ?_, fun k hk => ?_⟩
  · exact (hperm.map canonical).nodup_iff.mpr h.distinct
  · obtain ⟨l, hl, hbest⟩ := h.best k hk
    exact ⟨l, hperm.symm.subset hl, hbest⟩

theorem Kept.merge [IsPreorder Line R] (h : Kept R P kept)
    (settles : ∀ l, P l → Settles R candidate l) :
    Kept R (fun l => l = candidate ∨ P l) (merge candidate kept) := by
  have hcovers := merge_covers fun l hl => settles l (h.drawn l hl)
  refine ⟨fun l hl => (mem_merge hl).imp_right (h.drawn l), merge_distinct candidate h.distinct, ?_⟩
  rintro k (hk | hk)
  · exact hcovers k (.inl hk)
  · obtain ⟨l, hl, hlk, hR⟩ := h.best k hk
    obtain ⟨l', hl', hl'l, hR'⟩ := hcovers l (.inr hl)
    exact ⟨l', hl', hl'l.trans hlk, trans_of R hR' hR⟩

/-- The lines merged, in order, into those kept already. -/
def mergeIn (kept drawn : List Line) : List Line := drawn.foldl (fun kept l => merge l kept) kept

theorem Kept.mergeIn [IsPreorder Line R] {drawn : List Line} (h : Kept R P kept)
    (settles : ∀ candidate ∈ drawn, ∀ l, l ∈ drawn ∨ P l → Settles R candidate l) :
    Kept R (fun l => l ∈ drawn ∨ P l) (mergeIn kept drawn) := by
  induction drawn generalizing kept P with
  | nil => exact h.congr fun l => by simp
  | cons candidate rest ih =>
    have hmerged : Kept R _ (Line.merge candidate kept) := h.merge fun l hl =>
      settles candidate (List.mem_cons_self ..) l (.inr hl)
    refine (ih hmerged fun c hc l hl => ?_).congr fun l => by simp [or_assoc, or_left_comm]
    refine settles c (List.mem_cons_of_mem _ hc) l ?_
    rw [List.mem_cons]
    rcases hl with hl | rfl | hl
    · exact .inl (.inr hl)
    · exact .inl (.inl rfl)
    · exact .inr hl

/-! ### Readings -/

/-- The line comes from one of the readings. -/
def IsFrom (t : Thresholds) (known : Option Catalog) (readings : List Reading) (l : Line) : Prop :=
  ∃ r ∈ readings, ofReading? t known r = .ok (some l)

/-- The lines that readings become, in their order. -/
def ofReadings (t : Thresholds) (known : Option Catalog) (readings : List Reading) : List Line :=
  readings.filterMap fun r => (ofReading? t known r).toOption.join

theorem mem_ofReadings {readings : List Reading} {l : Line} :
    l ∈ ofReadings t known readings ↔ IsFrom t known readings l := by
  rw [ofReadings, List.mem_filterMap]
  refine exists_congr fun r => and_congr_right fun _ => ?_
  cases ofReading? t known r with
  | error e => simp [Except.toOption]
  | ok l? => simp [Except.toOption]

theorem mergeAll_eq (known : Option Catalog) (numeric : t.Numeric) (done : List Line)
    (readings : List Reading) (readable : ∀ r ∈ readings, IsReadable r) :
    mergeAll t known done readings = .ok (mergeIn done (ofReadings t known readings)) := by
  induction readings generalizing done with
  | nil => rfl
  | cons r rest ih =>
    obtain ⟨l?, hl?⟩ := ofReading?_ok known numeric (readable r (List.mem_cons_self ..))
    have ih := fun done => ih done fun k hk => readable k (List.mem_cons_of_mem _ hk)
    unfold mergeAll
    rw [hl?]
    cases l? with
    | none =>
      have hskip : ofReadings t known (r :: rest) = ofReadings t known rest :=
        List.filterMap_cons_none (by rw [hl?]; rfl)
      rw [hskip]
      exact ih done
    | some l =>
      have hnext : ofReadings t known (r :: rest) = l :: ofReadings t known rest :=
        List.filterMap_cons_some (by rw [hl?]; rfl)
      rw [hnext]
      exact ih (merge l done)

/-! ### Ranking -/

theorem rank_perm (lines : List Line) : (rank lines).Perm lines := by
  unfold rank
  split
  · exact List.mergeSort_perm lines _
  · exact Ranking.sort_perm before lines

/-- Readable readings give lines, ranked: of those that they become, the best of each canonical
text. -/
theorem gather_kept [IsPreorder Line R] (known : Option Catalog) (numeric : t.Numeric)
    (sets : List (List Reading)) (readable : ∀ r ∈ sets.flatten, IsReadable r)
    (settles : ∀ candidate l, IsFrom t known sets.flatten candidate →
      IsFrom t known sets.flatten l → Settles R candidate l) :
    ∃ kept, gather sets known t = .ok (rank kept) ∧ Kept R (IsFrom t known sets.flatten) kept := by
  refine ⟨mergeIn [] (ofReadings t known sets.flatten), ?_, ?_⟩
  · rw [gather, mergeAll_eq known numeric [] _ readable]
    rfl
  · have hnone : Kept R (fun _ => False) [] :=
      ⟨fun l hl => absurd hl List.not_mem_nil, List.nodup_nil, fun k hk => hk.elim⟩
    refine (hnone.mergeIn fun candidate hcandidate l hl => ?_).congr fun l => ?_
    · rcases hl with hl | hl
      · exact settles candidate l (mem_ofReadings.mp hcandidate) (mem_ofReadings.mp hl)
      · exact hl.elim
    · rw [or_false, mem_ofReadings]

instance : IsPreorder Line fun _ _ => True where
  refl _ := trivial
  trans _ _ _ _ _ := trivial

/-- Readable readings give lines that come from them, with every canonical text they have. -/
theorem gather_ok (known : Option Catalog) (numeric : t.Numeric) (sets : List (List Reading))
    (readable : ∀ r ∈ sets.flatten, IsReadable r) :
    ∃ lines, gather sets known t = .ok lines ∧
      (∀ l ∈ lines, IsFrom t known sets.flatten l) ∧
      ∀ l, IsFrom t known sets.flatten l → ∃ k ∈ lines, k.canonical = l.canonical := by
  obtain ⟨kept, hkept, hlines⟩ := gather_kept (R := fun _ _ => True) known numeric sets readable
    fun _ _ _ _ => ⟨fun _ => trivial, fun _ => trivial⟩
  have hranked := hlines.perm (rank_perm kept)
  refine ⟨rank kept, hkept, hranked.drawn, fun l hl => ?_⟩
  obtain ⟨k, hk, hcanonical, -⟩ := hranked.best l hl
  exact ⟨k, hk, hcanonical⟩

end Reroll.Line
