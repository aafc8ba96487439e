import Reroll.Decimal.Written

/-!
# Numbers

A number is a whole number of any size or a double. Numbers are compared by their exact values,
so a whole number and a double never meet halfway; a NaN compares with nothing, but keeps a sign.
-/

namespace Reroll

/-- A whole number or a double; the NaN with a minus stands apart from the one without. -/
inductive Number where
  | int (i : Int)
  | float (x : Float)
  | minusNaN
  deriving DecidableEq

/-- A place on the number line, its two ends included. -/
inductive Magnitude where
  | lowest
  | value (q : Rat)
  | highest

namespace Magnitude

/-- Strictly further down the line. -/
def lt : Magnitude → Magnitude → Bool
  | .lowest, .lowest => false
  | .lowest, _ => true
  | .value _, .lowest => false
  | .value p, .value q => p < q
  | .value _, .highest => true
  | .highest, _ => false

end Magnitude

namespace Number

/-- The place of a number on the line; a NaN has none. -/
def magnitude? : Number → Option Magnitude
  | .int i => some (.value i)
  | .float x =>
    match Decimal.Binary.ofFloat x with
    | .nan => none
    | .infinite negative => some (if negative then .lowest else .highest)
    | b => b.toRat?.map .value
  | .minusNaN => none

/-- Strictly less by value. -/
def lt (a b : Number) : Bool :=
  match a.magnitude?, b.magnitude? with
  | some p, some q => p.lt q
  | _, _ => false

/-- Equal by value. -/
def same (a b : Number) : Bool :=
  match a.magnitude?, b.magnitude? with
  | some p, some q => !p.lt q && !q.lt p
  | _, _ => false

/-- The number is a NaN. -/
def isNaN : Number → Bool
  | .int _ => false
  | .float x => x.isNaN
  | .minusNaN => true

/-- The text of a number. -/
def text : Number → String
  | .int i => toString i
  | .float x => Decimal.writtenFloat x
  | .minusNaN => "nan"

/-- The number has at most as many digits as are ever written or read. -/
def isWritable : Number → Bool
  | .int i => i.natAbs < Nat.pow 10 Decimal.digitLimit
  | .float _ => true
  | .minusNaN => true

/-- The double with the given sign and size. -/
def signed (negative : Bool) (size : Float) : Number :=
  if negative then (if size.isNaN then .minusNaN else .float (-size)) else .float size

/-- The number is zero. -/
def isZero (n : Number) : Bool := n.same (.int 0)

end Number

end Reroll
