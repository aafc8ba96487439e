import Reroll.Document.Convert
import Reroll.Document.Shape

/-!
# When a conversion fails

Whole numbers are compared as such (`Number.lt_int`). Only finite numbers are rounded
(`Number.rounded_fails`), and only infinite ones are out of the range of whole numbers
(`Value.toInt_overflow`). A value is written unless a whole number in it is too long, and taken for
a text when it is one or counts as absent (`Value.textFor_fails`).
-/

namespace Reroll

namespace Number

theorem lt_int (a b : Int) : (Number.int a).lt (.int b) = decide (a < b) := by
  simp only [Number.lt, Number.magnitude?, Magnitude.lt, Rat.intCast_lt_intCast]

theorem same_int (a b : Int) : (Number.int a).same (.int b) = decide (a = b) := by
  have h : (Number.int a).same (.int b) =
      (!(Number.int a).lt (.int b) && !(Number.int b).lt (.int a)) := rfl
  rw [h, lt_int, lt_int, ← decide_not, ← decide_not, ← Bool.decide_and]
  exact decide_eq_decide.mpr (by omega)

/-- The number has a place on the line. -/
def IsFinite (n : Number) : Prop := ∃ q, n.magnitude? = some (.value q)

/-- The number is one of the ends of the line. -/
def IsInfinite (n : Number) : Prop :=
  n.magnitude? = some .lowest ∨ n.magnitude? = some .highest

theorem rounded_fails (n : Number) : (∃ e, n.rounded = .error e) ↔ ¬n.IsFinite := by
  cases n with
  | int i => simp [rounded, IsFinite, magnitude?]
  | minusNaN => simp [rounded, IsFinite, magnitude?]
  | float x =>
    rw [IsFinite, magnitude?, rounded, Decimal.intOfFloat]
    cases Decimal.Binary.ofFloat x with
    | nan => simp
    | infinite negative => cases negative <;> simp
    | finite negative m e => simp [Decimal.Binary.toRat?]

end Number

/-- A text is no number, or one in the range of whole numbers. -/
theorem Decimal.intOfText_inside (shown : String) (cs : List Char) :
    ¬∃ e, intOfText shown cs = .error e ∧ e.isOverflow = true := by
  rintro ⟨e, he, ho⟩
  unfold intOfText at he
  split at he <;> cases he <;> cases ho

namespace Value

/-- The value is an infinite number. -/
def IsInfinite (v : Value) : Prop := ∃ n, v = .num n ∧ n.IsInfinite

/-- The value counts as given but has no operations of texts. -/
def IsNoText (v : Value) : Prop :=
  v.truthy = true ∧ (∀ s, v ≠ .text s) ∧ ∀ bs, v ≠ .bytes bs

theorem isInfinite_num {n : Number} : (Value.num n).IsInfinite ↔ n.IsInfinite := by
  simp [IsInfinite]

theorem toInt_overflow (v : Value) :
    (∃ e, v.toInt = .error e ∧ e.isOverflow = true) ↔ v.IsInfinite := by
  cases v with
  | num n =>
    rw [isInfinite_num]
    cases n with
    | int i => simp [toInt, Number.IsInfinite, Number.magnitude?]
    | minusNaN => simp [toInt, ConversionError.isOverflow, Number.IsInfinite, Number.magnitude?]
    | float x =>
      rw [Number.IsInfinite, Number.magnitude?, toInt, Decimal.intOfFloat]
      cases Decimal.Binary.ofFloat x with
      | nan => simp [ConversionError.isOverflow]
      | infinite negative => cases negative <;> simp [ConversionError.isOverflow]
      | finite negative m e => simp [Decimal.Binary.toRat?]
  | text s => exact iff_of_false (Decimal.intOfText_inside _ _) (by simp [IsInfinite])
  | bytes bs => exact iff_of_false (Decimal.intOfText_inside _ _) (by simp [IsInfinite])
  | _ => simp [toInt, ConversionError.isOverflow, IsInfinite]

theorem fails_unless_writable {v : Value} {text : String} {e : ConversionError} :
    (∃ e', (if v.isWritable then Except.ok text else .error e) = .error e') ↔
      v.isWritable = false := by
  cases v.isWritable <;> simp

theorem written_fails (v : Value) : (∃ e, v.written = .error e) ↔ v.isWritable = false :=
  fails_unless_writable

theorem writtenPlain_fails (v : Value) :
    (∃ e, v.writtenPlain = .error e) ↔ v.isWritable = false :=
  fails_unless_writable

theorem textFor_fails (operation : String) (v : Value) :
    (∃ e, v.textFor operation = .error e) ↔ v.IsNoText := by
  unfold textFor IsNoText
  cases v.truthy with
  | false => simp
  | true => cases v <;> simp

end Value

end Reroll
