import Reroll.Proofs.Decimal.Whole
import Reroll.Proofs.Document.Convert
import Reroll.Proofs.Graph.Entry
import Reroll.Proofs.Modifier.Instance

/-!
# What is left of a bound

A bound is written as a number or as a text and kept without its fraction, which brings it nearer
to zero (`Value.toInt_eq_ok`). A lower bound below zero and an upper bound above it keep their
meaning then (`truncate_le_iff`, `le_truncate_iff`), others only if they have no fraction
(`truncate_lt`, `lt_truncate`). So the values that a target of a mapping admits are told by what is
left of the bounds, and so are the mappings with a target (`Spec.bounds_truncated`).
-/

namespace Reroll

/-! ### Fractions dropped -/

namespace Decimal

variable {q : ℚ} {n : ℤ}

theorem truncate_nonneg (h : 0 ≤ q) : truncate q = q.floor := if_neg (not_lt_of_ge h)

theorem truncate_neg (q : ℚ) : truncate (-q) = -truncate q := by
  unfold truncate
  rcases lt_trichotomy q 0 with h | rfl | h
  · rw [if_neg (by linarith), if_pos h, neg_neg]
  · rfl
  · rw [if_pos (by linarith), if_neg (by linarith), neg_neg]

theorem truncate_whole (n : ℤ) : truncate n = n := by
  rcases le_total 0 n with h | h
  · rw [truncate_nonneg (by exact_mod_cast h), Rat.floor_intCast]
  · have hneg : truncate ((-n : ℤ) : ℚ) = -n := by
      rw [truncate_nonneg (by exact_mod_cast Int.neg_nonneg.mpr h), Rat.floor_intCast]
    rw [Int.cast_neg, truncate_neg] at hneg
    exact neg_inj.mp hneg

theorem le_truncate_iff (h : q < 0 → (truncate q : ℚ) = q) : n ≤ truncate q ↔ (n : ℚ) ≤ q := by
  rcases lt_or_ge q 0 with hneg | hpos
  · rw [← Int.cast_le (R := ℚ), h hneg]
  · rw [truncate_nonneg hpos, Rat.le_floor_iff]

theorem truncate_le_iff (h : 0 < q → (truncate q : ℚ) = q) : truncate q ≤ n ↔ q ≤ n := by
  -- the other side mirrored at zero
  have hmirror : -q < 0 → (truncate (-q) : ℚ) = -q := by
    intro hneg
    rw [truncate_neg, Int.cast_neg, h (neg_lt_zero.mp hneg)]
  have hturned := le_truncate_iff (n := -n) hmirror
  rwa [truncate_neg, neg_le_neg_iff, Int.cast_neg, neg_le_neg_iff] at hturned

theorem truncate_lt (hpos : 0 < q) (h : (truncate q : ℚ) ≠ q) : (truncate q : ℚ) < q := by
  rw [truncate_nonneg hpos.le] at h ⊢
  exact lt_of_le_of_ne (Rat.floor_le q) h

theorem lt_truncate (hneg : q < 0) (h : (truncate q : ℚ) ≠ q) : q < truncate q := by
  have hmirror : (truncate (-q) : ℚ) ≠ -q := by
    rw [truncate_neg, Int.cast_neg]
    exact fun heq => h (neg_inj.mp heq)
  have hturned := truncate_lt (neg_pos.mpr hneg) hmirror
  rw [truncate_neg, Int.cast_neg] at hturned
  exact neg_lt_neg_iff.mp hturned

end Decimal

open Decimal (truncate WholeText wholeValue)

/-! ### What a value says -/

namespace Value

/-- The number that a value says: its own when it is a finite one, otherwise one or zero, or the
whole one in its text if that has not too many digits. -/
inductive Says : Value → ℚ → Prop
  | num {n : Number} {q : ℚ} (h : n.magnitude? = some (.value q)) : Says (.num n) q
  | bool (b : Bool) : Says (.bool b) (if b then 1 else 0)
  | text {s : String} {negative : Bool} {digits : List Char}
    (h : WholeText s.toList negative digits) (short : digits.length ≤ Decimal.digitLimit) :
    Says (.text s) (wholeValue negative digits)
  | bytes {bs : List UInt8} {negative : Bool} {digits : List Char}
    (h : WholeText (bs.map fun b => Char.ofNat b.toNat) negative digits)
    (short : digits.length ≤ Decimal.digitLimit) : Says (.bytes bs) (wholeValue negative digits)

variable {v : Value} {q r : ℚ} {i : ℤ}

theorem Says.unique (h : Says v q) (h' : Says v r) : q = r := by
  cases h with
  | num h =>
    cases h' with
    | num h' =>
      cases h.symm.trans h'
      rfl
  | bool b =>
    cases h'
    rfl
  | text h _ =>
    cases h' with
    | text h' _ =>
      obtain ⟨rfl, rfl⟩ := h.unique h'
      rfl
  | bytes h _ =>
    cases h' with
    | bytes h' _ =>
      obtain ⟨rfl, rfl⟩ := h.unique h'
      rfl

theorem Says.float {x : Float} {b : Decimal.Binary} (hx : Decimal.Binary.ofFloat x = b)
    (hq : b.toRat? = some q) : (Value.num (.float x)).Says q := by
  refine .num ?_
  rw [Number.magnitude?, hx]
  cases b with
  | nan => cases hq
  | infinite negative => cases hq
  | finite negative m e => exact congrArg (Option.map Magnitude.value) hq

theorem toInt_float {x : Float} : (Value.num (.float x)).toInt = .ok i ↔
    ∃ q, (Value.num (.float x)).Says q ∧ truncate q = i := by
  rw [toInt, Decimal.intOfFloat]
  constructor
  · intro h
    cases hx : Decimal.Binary.ofFloat x with
    | nan => simp [hx] at h
    | infinite negative => simp [hx] at h
    | finite negative m e =>
      obtain ⟨q, hq⟩ : ∃ q, (Decimal.Binary.finite negative m e).toRat? = some q := ⟨_, rfl⟩
      simp only [hx, hq, Except.ok.injEq] at h
      exact ⟨q, .float hx hq, h⟩
  · rintro ⟨q, hsays, rfl⟩
    obtain ⟨h⟩ := hsays
    rw [Number.magnitude?] at h
    cases hx : Decimal.Binary.ofFloat x with
    | nan => simp [hx] at h
    | infinite negative => cases negative <;> simp [hx] at h
    | finite negative m e =>
      obtain ⟨r, hr⟩ : ∃ r, (Decimal.Binary.finite negative m e).toRat? = some r := ⟨_, rfl⟩
      simp only [hx, hr, Option.map_some, Option.some.injEq, Magnitude.value.injEq] at h
      simp only [hr, h]

theorem intOfText_says {shown : String} {cs : List Char} :
    Decimal.intOfText shown cs = .ok i ↔ ∃ negative digits, WholeText cs negative digits ∧
      digits.length ≤ Decimal.digitLimit ∧ truncate (wholeValue negative digits) = i := by
  simp only [Decimal.intOfText_eq_ok, Decimal.readWhole_eq_whole, Decimal.truncate_whole]

theorem toInt_eq_ok : v.toInt = .ok i ↔ ∃ q, Says v q ∧ truncate q = i := by
  cases v with
  | num n =>
    cases n with
    | int j =>
      constructor
      · rintro ⟨⟩
        exact ⟨i, .num rfl, Decimal.truncate_whole i⟩
      · rintro ⟨q, ⟨⟨⟩⟩, rfl⟩
        rw [toInt, Decimal.truncate_whole]
    | minusNaN =>
      constructor
      · intro h
        cases h
      · rintro ⟨q, hsays, -⟩
        cases hsays with
        | num h => cases h
    | float x => exact toInt_float
  | bool b =>
    constructor
    · intro h
      refine ⟨_, .bool b, ?_⟩
      cases b <;> cases h <;> rfl
    · rintro ⟨q, ⟨⟩, rfl⟩
      cases b <;> rfl
  | text s =>
    rw [toInt, intOfText_says]
    constructor
    · rintro ⟨negative, digits, hwhole, hshort, rfl⟩
      exact ⟨_, .text hwhole hshort, rfl⟩
    · rintro ⟨q, hsays, rfl⟩
      cases hsays with
      | text hwhole hshort => exact ⟨_, _, hwhole, hshort, rfl⟩
  | bytes bs =>
    rw [toInt, intOfText_says]
    constructor
    · rintro ⟨negative, digits, hwhole, hshort, rfl⟩
      exact ⟨_, .bytes hwhole hshort, rfl⟩
    · rintro ⟨q, hsays, rfl⟩
      cases hsays with
      | bytes hwhole hshort => exact ⟨_, _, hwhole, hshort, rfl⟩
  | _ =>
    constructor
    · intro h
      cases h
    · rintro ⟨q, hsays, -⟩
      cases hsays

end Value

/-! ### The bounds of a mapping -/

namespace Spec

variable {fields : List (Value × Value)} {keys : List String} {s : Spec}

/-- The bound that the first given of the named fields says, if one of them is given. -/
def BoundWritten (fields : List (Value × Value)) (keys : List String) : Option ℚ → Prop
  | none => Value.firstGiven? fields keys = none
  | some q => ∃ v, Value.firstGiven? fields keys = some v ∧ v.Says q

theorem BoundWritten.unique {a b : Option ℚ} (h : BoundWritten fields keys a)
    (h' : BoundWritten fields keys b) : a = b := by
  cases a with
  | none =>
    cases b with
    | none => rfl
    | some q =>
      obtain ⟨v, hv, -⟩ := h'
      cases h.symm.trans hv
  | some p =>
    obtain ⟨v, hv, hp⟩ := h
    cases b with
    | none => cases hv.symm.trans h'
    | some q =>
      obtain ⟨w, hw, hq⟩ := h'
      cases hv.symm.trans hw
      rw [hp.unique hq]

/-- A bound that is kept is what is left of a written one. -/
theorem boundGiven_iff {bound : Option Number} : Graph.BoundGiven fields keys bound ↔
    ∃ q, BoundWritten fields keys q ∧ q.map (fun q => .int (truncate q)) = bound := by
  cases bound with
  | none => simp [Graph.BoundGiven, BoundWritten]
  | some n =>
    constructor
    · rintro ⟨v, i, hv, hi, rfl⟩
      obtain ⟨q, hsays, rfl⟩ := Value.toInt_eq_ok.mp hi
      exact ⟨some q, ⟨v, hv, hsays⟩, rfl⟩
    · rintro ⟨q, hwritten, hq⟩
      obtain ⟨q, rfl, rfl⟩ := Option.map_eq_some_iff.mp hq
      obtain ⟨v, hv, hsays⟩ := hwritten
      exact ⟨v, truncate q, hv, Value.toInt_eq_ok.mpr ⟨q, hsays, rfl⟩, rfl⟩

/-- The value is at least the one bound and at most the other, where they are given. -/
def Between (low high : Option ℚ) (n : ℤ) : Prop :=
  (∀ a ∈ low, a ≤ n) ∧ ∀ b ∈ high, (n : ℚ) ≤ b

/-- What is left of a written bound. -/
def left (bound : Option ℚ) : Option ℚ := bound.map fun q => truncate q

/-- The bounds have no fraction whose loss lets more values in. -/
structure Kept (low high : Option ℚ) : Prop where
  low : ∀ a ∈ low, 0 < a → (truncate a : ℚ) = a
  high : ∀ b ∈ high, b < 0 → (truncate b : ℚ) = b

variable {low high : Option ℚ}

theorem Kept.between (h : Kept low high) (n : ℤ) :
    Between (left low) (left high) n ↔ Between low high n := by
  unfold Between left
  simp only [Option.mem_map, forall_exists_index, and_imp, forall_apply_eq_imp_iff₂, Int.cast_le]
  refine and_congr (forall₂_congr fun a ha => ?_) (forall₂_congr fun b hb => ?_)
  · exact Decimal.truncate_le_iff (h.low a ha)
  · exact Decimal.le_truncate_iff (h.high b hb)

theorem Kept.le {a b : ℚ} (h : Kept low high) (ha : a ∈ low) (hb : b ∈ high)
    (hle : truncate a ≤ truncate b) : a ≤ b :=
  calc a ≤ truncate b := (Decimal.truncate_le_iff (h.low a ha)).mp hle
    _ ≤ b := (Decimal.le_truncate_iff (h.high b hb)).mp le_rfl

theorem kept_of_between (hordered : ∀ a ∈ low, ∀ b ∈ high, truncate a ≤ truncate b)
    (h : ∀ n, Between (left low) (left high) n ↔ Between low high n) : Kept low high := by
  -- what is left of a bound is within the bounds that are left, but outside of the written one
  constructor
  · intro a ha hpos
    by_contra hfraction
    have hleft : Between (left low) (left high) (truncate a) := by
      cases ha
      simpa [Between, left] using hordered a rfl
    have hle := ((h _).mp hleft).1 a ha
    exact absurd (Decimal.truncate_lt hpos hfraction) (not_lt_of_ge hle)
  · intro b hb hneg
    by_contra hfraction
    have hleft : Between (left low) (left high) (truncate b) := by
      cases hb
      simpa [Between, left] using fun a ha => hordered a ha b rfl
    have hle := ((h _).mp hleft).2 b hb
    exact absurd (Decimal.lt_truncate hneg hfraction) (not_lt_of_ge hle)

theorem left_crossed : crossed (low.map fun q => .int (truncate q))
    (high.map fun q => .int (truncate q)) = false ↔
      ∀ a ∈ low, ∀ b ∈ high, truncate a ≤ truncate b := by
  cases low <;> cases high <;> simp [crossed, Number.lt_int]

theorem written_of_ofValue {v : Value} (hmap : v.opened = .map fields) (h : ofValue v = .ok s) :
    ∃ low high, BoundWritten fields ["minValue", "min_value"] low ∧
      BoundWritten fields ["maxValue", "max_value"] high ∧
      low.map (fun q => .int (truncate q)) = s.low ∧
      high.map (fun q => .int (truncate q)) = s.high := by
  have hsaid := Graph.ofValue_eq_ok.mp h
  rw [Graph.TargetSaid, hmap] at hsaid
  obtain ⟨-, hlowgiven, hhighgiven, -⟩ := hsaid
  obtain ⟨low, hlow, hslow⟩ := boundGiven_iff.mp hlowgiven
  obtain ⟨high, hhigh, hshigh⟩ := boundGiven_iff.mp hhighgiven
  exact ⟨low, high, hlow, hhigh, hslow, hshigh⟩

theorem left_of_ofValue {v : Value} (hmap : v.opened = .map fields) (h : ofValue v = .ok s)
    (hlow : BoundWritten fields ["minValue", "min_value"] low)
    (hhigh : BoundWritten fields ["maxValue", "max_value"] high) :
    low.map (fun q => .int (truncate q)) = s.low ∧
      high.map (fun q => .int (truncate q)) = s.high := by
  obtain ⟨low', high', hlow', hhigh', hleft⟩ := written_of_ofValue hmap h
  cases hlow'.unique hlow
  cases hhigh'.unique hhigh
  exact hleft

theorem left_ordered {v : Value} (hmap : v.opened = .map fields) (h : ofValue v = .ok s)
    (hlow : BoundWritten fields ["minValue", "min_value"] low)
    (hhigh : BoundWritten fields ["maxValue", "max_value"] high) :
    ∀ a ∈ low, ∀ b ∈ high, truncate a ≤ truncate b := by
  obtain ⟨hslow, hshigh⟩ := left_of_ofValue hmap h hlow hhigh
  apply left_crossed.mp
  rw [hslow, hshigh]
  exact s.ordered

/-- There is a target when the pattern can be written, the bounds are, one of them is given if they
are asked for, and what is left of them is not crossed. -/
theorem exists_target_iff {v : Value} (hmap : v.opened = .map fields) :
    (∃ s, ofValue v = .ok s) ↔ (Graph.givenPattern fields).isWritable = true ∧
      ∃ low high, BoundWritten fields ["minValue", "min_value"] low ∧
        BoundWritten fields ["maxValue", "max_value"] high ∧
        (low = none → high = none → asksForValue fields = false) ∧
        ∀ a ∈ low, ∀ b ∈ high, truncate a ≤ truncate b := by
  constructor
  · rintro ⟨s, h⟩
    have hsaid := Graph.ofValue_eq_ok.mp h
    rw [Graph.TargetSaid, hmap] at hsaid
    obtain ⟨⟨text, hwritten, -⟩, -, -, hranged⟩ := hsaid
    obtain ⟨low, high, hlow, hhigh, hslow, hshigh⟩ := written_of_ofValue hmap h
    refine ⟨hwritten.1, low, high, hlow, hhigh, ?_, left_ordered hmap h hlow hhigh⟩
    rintro rfl rfl
    have hbounded := s.bounded
    rw [← hslow, ← hshigh, hranged] at hbounded
    simpa using hbounded
  · rintro ⟨hwritten, low, high, hlow, hhigh, hasked, hordered⟩
    have hbounded : (asksForValue fields && (low.map fun q => Number.int (truncate q)).isNone &&
        (high.map fun q => Number.int (truncate q)).isNone) = false := by
      cases low <;> cases high <;> simp_all
    refine ⟨⟨Text.stripped (Graph.givenPattern fields).plain, _, _, asksForValue fields, hbounded,
      left_crossed.mpr hordered⟩, Graph.ofValue_eq_ok.mpr ?_⟩
    rw [Graph.TargetSaid, hmap]
    exact ⟨⟨_, ⟨hwritten, rfl⟩, rfl⟩, boundGiven_iff.mpr ⟨low, hlow, rfl⟩,
      boundGiven_iff.mpr ⟨high, hhigh, rfl⟩, rfl⟩

theorem admits_left {v : Value} (hmap : v.opened = .map fields) (h : ofValue v = .ok s)
    (hlow : BoundWritten fields ["minValue", "min_value"] low)
    (hhigh : BoundWritten fields ["maxValue", "max_value"] high) (n : ℤ) :
    s.admits n = true ↔ Between (left low) (left high) n := by
  obtain ⟨hslow, hshigh⟩ := left_of_ofValue hmap h hlow hhigh
  rw [admits_iff, encloses_whole (low.map truncate) (high.map truncate)
    (by rw [← hslow, Option.map_map]; rfl) (by rw [← hshigh, Option.map_map]; rfl)]
  simp [Between, left]

/-- A mapping whose pattern can be written has a target exactly if its bounds are numbers or texts
of whole numbers, one of them is given if they are asked for, and what is left of them is not
crossed. The target admits the values between what is left of them. These are the values between
the bounds as they are written exactly if those are kept, and bounds that are kept and crossed are
those of no target. -/
theorem bounds_truncated {v : Value} (hmap : v.opened = .map fields) :
    ((∃ s, ofValue v = .ok s) ↔ (Graph.givenPattern fields).isWritable = true ∧
      ∃ low high, BoundWritten fields ["minValue", "min_value"] low ∧
        BoundWritten fields ["maxValue", "max_value"] high ∧
        (low = none → high = none → asksForValue fields = false) ∧
        ∀ a ∈ low, ∀ b ∈ high, truncate a ≤ truncate b) ∧
    ∀ low high, BoundWritten fields ["minValue", "min_value"] low →
      BoundWritten fields ["maxValue", "max_value"] high →
      (∀ s, ofValue v = .ok s →
        (∀ n, s.admits n = true ↔ Between (left low) (left high) n) ∧
        ((∀ n, s.admits n = true ↔ Between low high n) ↔ Kept low high)) ∧
      ∀ a ∈ low, ∀ b ∈ high, truncate b < truncate a ∨ b < a ∧ Kept low high →
        ∃ e, ofValue v = .error e := by
  refine ⟨exists_target_iff hmap, fun low high hlow hhigh =>
    ⟨fun s h => ?_, fun a ha b hb hcrossed => ?_⟩⟩
  · have hadmits := admits_left hmap h hlow hhigh
    refine ⟨hadmits, fun hwritten => ?_, fun hkept n => ?_⟩
    · apply kept_of_between (left_ordered hmap h hlow hhigh)
      exact fun n => (hadmits n).symm.trans (hwritten n)
    · exact (hadmits n).trans (hkept.between n)
  · cases htarget : ofValue v with
    | error e => exact ⟨e, rfl⟩
    | ok s =>
      have hle := left_ordered hmap htarget hlow hhigh a ha b hb
      rcases hcrossed with hcrossed | ⟨hcrossed, hkept⟩
      · omega
      · exact absurd (hkept.le ha hb hle) (not_le_of_gt hcrossed)

/-- The fields of a target for life with the given bounds. -/
def lifeFields (low high : Value) : List (Value × Value) :=
  [(.text "pattern", .text "# life"), (.text "minValue", low), (.text "maxValue", high)]

theorem lifeFields_low {low : Value} {q : ℚ} (h : low.Says q) (high : Value) :
    BoundWritten (lifeFields low high) ["minValue", "min_value"] (some q) := by
  refine ⟨low, ?_, h⟩
  cases h <;> rfl

theorem lifeFields_high {high : Value} {q : ℚ} (low : Value) (h : high.Says q) :
    BoundWritten (lifeFields low high) ["maxValue", "max_value"] (some q) := by
  refine ⟨high, ?_, h⟩
  cases h <;> rfl

theorem life_bounds_truncated : ∃ s,
    ofValue (.map (lifeFields (.num (.float (-5.5))) (.text " 7_0 "))) = .ok s ∧
      ∀ n : ℤ, s.admits n = true ↔ -(11 / 2) ≤ (n : ℚ) ∧ (n : ℚ) ≤ 70 := by
  have hlow : (Value.num (.float (-5.5))).Says (-(11 / 2)) :=
    .float (b := .finite true 6192449487634432 (-50)) (by decide +kernel) (by decide +kernel)
  have hseventy : WholeText " 7_0 ".toList false ['7', '0'] :=
    Decimal.wholeText_iff.mpr (by decide +kernel)
  have hhigh : (Value.text " 7_0 ").Says 70 := .text hseventy (by decide)
  have hkept : Kept (some (-(11 / 2))) (some 70) := by
    constructor
    · rintro a ⟨⟩ hpos
      norm_num at hpos
    · rintro b ⟨⟩ hneg
      norm_num at hneg
  have hlow := lifeFields_low hlow (.text " 7_0 ")
  have hhigh := lifeFields_high (.num (.float (-5.5))) hhigh
  obtain ⟨hexists, hadmits⟩ := bounds_truncated (v := .map _) rfl
  obtain ⟨s, hs⟩ := hexists.mpr ⟨rfl, _, _, hlow, hhigh, nofun, by decide +kernel⟩
  refine ⟨s, hs, fun n => (((hadmits _ _ hlow hhigh).1 s hs).2.mpr hkept n).trans ?_⟩
  simp [Between]

/-- A lower bound of five and a half lets a five in, and bounds crossed by their fractions only are
bounds of a target. -/
theorem fraction_admits_below :
    (∃ s low, ofValue (.map (lifeFields (.num (.float 5.5)) .null)) = .ok s ∧
      BoundWritten (lifeFields (.num (.float 5.5)) .null) ["minValue", "min_value"] (some low) ∧
      s.admits 5 = true ∧ (5 : ℤ) < low) ∧
    ∃ s low high, ofValue (.map (lifeFields (.num (.float 5.5)) (.num (.float 5.25)))) = .ok s ∧
      BoundWritten (lifeFields (.num (.float 5.5)) (.num (.float 5.25)))
        ["minValue", "min_value"] (some low) ∧
      BoundWritten (lifeFields (.num (.float 5.5)) (.num (.float 5.25)))
        ["maxValue", "max_value"] (some high) ∧ high < low := by
  have hlow : (Value.num (.float 5.5)).Says (11 / 2) :=
    .float (b := .finite false 6192449487634432 (-50)) (by decide +kernel) (by decide +kernel)
  have hhigh : (Value.num (.float 5.25)).Says (21 / 4) :=
    .float (b := .finite false 5910974510923776 (-50)) (by decide +kernel) (by decide +kernel)
  constructor
  · have hlow := lifeFields_low hlow .null
    have hnone : BoundWritten (lifeFields (.num (.float 5.5)) .null) ["maxValue", "max_value"]
        none := rfl
    obtain ⟨s, hs⟩ := (exists_target_iff (v := .map _) rfl).mpr
      ⟨rfl, _, _, hlow, hnone, nofun, nofun⟩
    have hfive : s.admits 5 = true := by
      apply (admits_left rfl hs hlow hnone 5).mpr
      refine ⟨?_, nofun⟩
      rintro a ⟨⟩
      decide +kernel
    exact ⟨s, 11 / 2, hs, hlow, hfive, by norm_num⟩
  · have hlow := lifeFields_low hlow (.num (.float 5.25))
    have hhigh := lifeFields_high (.num (.float 5.5)) hhigh
    obtain ⟨s, hs⟩ := (exists_target_iff (v := .map _) rfl).mpr
      ⟨rfl, _, _, hlow, hhigh, nofun, by decide +kernel⟩
    exact ⟨s, 11 / 2, 21 / 4, hs, hlow, hhigh, by norm_num⟩

end Spec

end Reroll
