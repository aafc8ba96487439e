import Reroll.Number

/-!
# Target modifiers

A target is a template text, with inclusive bounds for the value at its placeholder when the
value matters. A target that asks for a value has a bound, and its bounds are not crossed; both
facts are part of the type.
-/

namespace Reroll

/-- The lower bound lies above the upper one. -/
def crossed : Option Number → Option Number → Bool
  | some low, some high => high.lt low
  | _, _ => false

/-- A target modifier. -/
structure Spec where
  pattern : String
  low : Option Number := none
  high : Option Number := none
  ranged : Bool := false
  bounded : (ranged && low.isNone && high.isNone) = false := by rfl
  ordered : crossed low high = false := by rfl

/-- Why there is no target with the given parts. -/
inductive SpecError where
  | unbounded (pattern : String)
  | crossed (low high : Number) (pattern : String)

namespace Spec

/-- A target with the given parts. -/
def make (pattern : String) (low high : Option Number) (ranged : Bool) : Except SpecError Spec :=
  if bounded : (ranged && low.isNone && high.isNone) = false then
    if ordered : Reroll.crossed low high = false then
      .ok { pattern, low, high, ranged, bounded, ordered }
    else .error (.crossed (low.getD (.int 0)) (high.getD (.int 0)) pattern)
  else .error (.unbounded pattern)

/-- A target without bounds. -/
def plain (pattern : String) : Spec := { pattern }

/-- The value lies within the bounds; a missing bound leaves that side open. -/
def admits (s : Spec) (value : Int) : Bool :=
  !(s.low.any fun low => (Number.int value).lt low) &&
    !(s.high.any fun high => high.lt (.int value))

/-- The pattern, with its bounds when the value matters. -/
def describe (s : Spec) : String :=
  if s.ranged then
    let low := (s.low.map Number.text).getD ""
    let high := (s.high.map fun n => "-" ++ n.text).getD "+"
    s.pattern ++ " (" ++ low ++ high ++ ")"
  else s.pattern

end Spec

end Reroll
