import Reroll.Document.Convert
import Reroll.Proofs.Text.Fill

/-!
# Whole numbers as they are written

A text is read as a whole number exactly if it is one with blanks around it, a sign, and single
underscores between its digits (`wholeText_iff`), and of no more digits than the limit
(`readWhole_eq_whole`). So a text says one whole number at most (`WholeText.unique`).
-/

namespace Reroll

/-! ### Digits are no blanks -/

namespace Text

theorem mem_of_findBetween {t : Ranges} {c : ℕ} {r : ℕ × ℕ} {lo hi : ℕ}
    (h : t.findBetween? c lo hi = some r) : r ∈ t ∧ r.1 ≤ c ∧ c ≤ r.2 := by
  fun_induction Ranges.findBetween? t c lo hi with
  | case1 => cases h
  | case2 _ _ _ _ _ _ _ ih => exact ih h
  | case3 _ _ _ _ _ _ _ _ ih => exact ih h
  | case4 lo hi hlt mid found hmid hlow hhigh =>
    cases h
    exact ⟨Array.mem_of_getElem? hmid, Nat.le_of_not_lt hlow, Nat.le_of_not_lt hhigh⟩
  | case5 => cases h

/-- The digits beyond ASCII lie apart from the blanks there. -/
theorem digitRanges_apart : ∀ r ∈ digitRanges, 0xA0 < r.1 ∧
    (r.2 < 0x1680 ∨ 0x1680 < r.1 ∧ r.2 < 0x2000 ∨ 0x3000 < r.1) := by
  decide +kernel

theorem not_space_of_digit {c : Char} (h : isDigit c = true) : isSpace c = false := by
  have hplace : (0x30 ≤ c.toNat ∧ c.toNat ≤ 0x39) ∨ (0xA0 < c.toNat ∧
      (c.toNat < 0x1680 ∨ 0x1680 < c.toNat ∧ c.toNat < 0x2000 ∨ 0x3000 < c.toNat)) := by
    unfold isDigit digitValue? at h
    split at h
    · rename_i hascii
      rw [Bool.and_eq_true, decide_eq_true_eq, decide_eq_true_eq] at hascii
      exact .inl ⟨hascii.1, hascii.2⟩
    · split at h
      · cases h
      · rw [Option.isSome_map, Option.isSome_iff_exists] at h
        obtain ⟨r, hr⟩ := h
        obtain ⟨hmem, hlow, hhigh⟩ := mem_of_findBetween hr
        have hapart := digitRanges_apart r hmem
        exact .inr (by omega)
  unfold isSpace
  simp only [Bool.or_eq_false_iff, Bool.and_eq_false_iff, decide_eq_false_iff_not, beq_eq_false_iff_ne]
  omega

end Text

namespace Decimal

open Text (isDigit digitsValue)

/-! ### Digits and underscores -/

/-- Digits with single underscores between them, and the digits alone. -/
inductive Grouped : List Char → List Char → Prop
  | one {c : Char} (hc : isDigit c = true) : Grouped [c] [c]
  | next {c : Char} {cs ds : List Char} (hc : isDigit c = true) (more : Grouped cs ds) :
    Grouped (c :: cs) (c :: ds)
  | gap {c : Char} {cs ds : List Char} (hc : isDigit c = true) (more : Grouped cs ds) :
    Grouped (c :: '_' :: cs) (c :: ds)

variable {c : Char} {cs ds sign body digits : List Char} {negative afterDigit : Bool} {i : ℤ}

theorem Grouped.head (h : Grouped cs ds) : ∃ c more, cs = c :: more ∧ isDigit c = true := by
  cases h with
  | one hc => exact ⟨_, _, rfl, hc⟩
  | next hc _ => exact ⟨_, _, rfl, hc⟩
  | gap hc _ => exact ⟨_, _, rfl, hc⟩

theorem Grouped.last (h : Grouped cs ds) : ∀ c, cs.getLast? = some c → isDigit c = true := by
  induction h with
  | one hc =>
    intro d hd
    cases hd
    exact hc
  | next _ more ih =>
    obtain ⟨d, rest, rfl, -⟩ := more.head
    exact ih
  | gap _ more ih =>
    obtain ⟨d, rest, rfl, -⟩ := more.head
    exact ih

theorem Grouped.nonempty (h : Grouped cs ds) : ds ≠ [] := by
  cases h <;> exact List.cons_ne_nil _ _

theorem takeDigits_of_grouped (h : Grouped cs ds) : takeDigits afterDigit cs = some (ds, []) := by
  induction h generalizing afterDigit with
  | one hc => simp [takeDigits, hc]
  | next hc _ ih => simp [takeDigits, hc, ih]
  | gap hc more ih =>
    have hbar : isDigit '_' = false := by decide
    obtain ⟨d, rest, rfl, hd⟩ := more.head
    rw [takeDigits, if_pos hc, takeDigits, if_neg (Bool.eq_false_iff.mp hbar), if_pos rfl]
    simp [hd, ih]

/-- Where the digits go on to the end, an underscore may stand first if a digit is before it. -/
theorem grouped_of_takeDigits (h : takeDigits afterDigit cs = some (ds, [])) :
    cs = [] ∧ ds = [] ∨ Grouped cs ds ∨
      afterDigit = true ∧ ∃ more, cs = '_' :: more ∧ Grouped more ds := by
  fun_induction takeDigits afterDigit cs generalizing ds with
  | case1 => simp_all
  | case2 afterDigit c cs hc ih =>
    obtain ⟨⟨found, rest⟩, hfound, hboth⟩ := Option.map_eq_some_iff.mp h
    cases hboth
    refine .inr (.inl ?_)
    -- behind the digit the text ends, goes on with a digit or has an underscore first
    rcases ih hfound with ⟨rfl, rfl⟩ | hmore | ⟨-, more, rfl, hmore⟩
    · exact .one hc
    · exact .next hc hmore
    · exact .gap hc hmore
  | case3 => cases h
  | case4 afterDigit d rest hd hbar ih =>
    rw [Bool.and_eq_true] at hd
    rcases ih h with ⟨hnil, -⟩ | hmore | ⟨hno, -⟩
    · cases hnil
    · exact .inr (.inr ⟨hd.1, d :: rest, rfl, hmore⟩)
    · cases hno
  | case5 => cases h
  | case6 => cases h

/-! ### Signs and blanks -/

/-- A sign as it may be written, and whether it is a minus. -/
inductive Signed : List Char → Bool → Prop
  | bare : Signed [] false
  | plus : Signed ['+'] false
  | minus : Signed ['-'] true

theorem takeSign_signed (hsign : Signed sign negative) (hbody : Grouped body digits) :
    takeSign (sign ++ body) = (negative, body) := by
  obtain ⟨d, rest, rfl, hd⟩ := hbody.head
  cases hsign with
  | bare =>
    unfold takeSign
    split
    · rename_i heq
      cases heq
      cases hd
    · rename_i heq
      cases heq
      cases hd
    · rfl
  | plus => rfl
  | minus => rfl

theorem signed_takeSign (cs : List Char) : ∃ sign, Signed sign (takeSign cs).1 ∧
    cs = sign ++ (takeSign cs).2 := by
  unfold takeSign
  split
  · exact ⟨_, .minus, rfl⟩
  · exact ⟨_, .plus, rfl⟩
  · exact ⟨_, .bare, rfl⟩

/-- A whole number as it may be written, by its sign and its digits. -/
def WholeText (cs : List Char) (negative : Bool) (digits : List Char) : Prop :=
  ∃ before sign body after, cs = before ++ (sign ++ body) ++ after ∧
    (∀ c ∈ before, isNumberBlank c = true) ∧ (∀ c ∈ after, isNumberBlank c = true) ∧
    Signed sign negative ∧ Grouped body digits

theorem not_blank_of_digit (h : isDigit c = true) : isNumberBlank c = false := by
  rw [isNumberBlank, Text.not_space_of_digit h, Bool.false_and]

theorem stripNumber_between {before after : List Char}
    (hbefore : ∀ c ∈ before, isNumberBlank c = true) (hafter : ∀ c ∈ after, isNumberBlank c = true)
    (hsign : Signed sign negative) (hbody : Grouped body digits) :
    stripNumber (before ++ (sign ++ body) ++ after) = sign ++ body := by
  obtain ⟨d, rest, rfl, hd⟩ := hbody.head
  refine Text.trim_between hbefore hafter ?_ ?_
  · intro c hc
    cases hsign with
    | bare =>
      cases hc
      exact not_blank_of_digit hd
    | plus =>
      cases hc
      decide
    | minus =>
      cases hc
      decide
  · intro c hc
    rw [List.getLast?_append_of_ne_nil _ (List.cons_ne_nil d rest)] at hc
    exact not_blank_of_digit (hbody.last c hc)

theorem wholeText_iff : WholeText cs negative digits ↔
    (takeSign (stripNumber cs)).1 = negative ∧
      takeDigits false (takeSign (stripNumber cs)).2 = some (digits, []) ∧ digits ≠ [] := by
  constructor
  · rintro ⟨before, sign, body, after, rfl, hbefore, hafter, hsign, hbody⟩
    rw [stripNumber_between hbefore hafter hsign hbody, takeSign_signed hsign hbody]
    exact ⟨rfl, takeDigits_of_grouped hbody, hbody.nonempty⟩
  · rintro ⟨rfl, hdigits, hne⟩
    obtain ⟨before, after, hcs, hbefore, hafter⟩ := Text.trim_split isNumberBlank cs
    obtain ⟨sign, hsign, hsplit⟩ := signed_takeSign (stripNumber cs)
    refine ⟨before, sign, (takeSign (stripNumber cs)).2, after, ?_, hbefore, hafter, hsign, ?_⟩
    · rw [← hsplit]
      exact hcs
    · rcases grouped_of_takeDigits hdigits with ⟨-, hnil⟩ | hbody | ⟨hno, -⟩
      · exact absurd hnil hne
      · exact hbody
      · cases hno

theorem WholeText.unique {negative' : Bool} {digits' : List Char}
    (h : WholeText cs negative digits) (h' : WholeText cs negative' digits') :
    negative = negative' ∧ digits = digits' := by
  obtain ⟨hsign, hdigits, -⟩ := wholeText_iff.mp h
  obtain ⟨hsign', hdigits', -⟩ := wholeText_iff.mp h'
  rw [hdigits] at hdigits'
  cases hdigits'
  exact ⟨hsign.symm.trans hsign', rfl⟩

/-- The whole number that a sign and digits say. -/
def wholeValue (negative : Bool) (digits : List Char) : ℤ :=
  if negative then -(digitsValue digits : ℤ) else digitsValue digits

theorem readWhole_eq_whole : readWhole cs = .whole i ↔
    ∃ negative digits, WholeText cs negative digits ∧ digits.length ≤ digitLimit ∧
      wholeValue negative digits = i := by
  simp only [wholeText_iff, readWhole]
  cases htaken : takeDigits false (takeSign (stripNumber cs)).2 with
  | none => simp
  | some taken =>
    obtain ⟨digits, rest⟩ := taken
    dsimp only
    by_cases hlong : digitLimit < digits.length
    · have hshort : ¬digits.length ≤ digitLimit := Nat.not_le_of_lt hlong
      simp only [if_pos hlong, reduceCtorEq, false_iff]
      rintro ⟨negative, found, ⟨-, hfound, -⟩, hlength, -⟩
      cases hfound
      exact hshort hlength
    · rw [if_neg hlong]
      have hshort : digits.length ≤ digitLimit := Nat.le_of_not_lt hlong
      cases rest with
      | cons c rest => simp
      | nil =>
        cases digits with
        | nil => simp
        | cons c digits =>
          rw [List.length_cons] at hshort
          simp [wholeValue, hshort]

theorem intOfText_eq_ok {shown : String} : intOfText shown cs = .ok i ↔ readWhole cs = .whole i := by
  unfold intOfText
  cases readWhole cs <;> simp

end Decimal

end Reroll
