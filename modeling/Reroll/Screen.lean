import Reroll.Document.Convert

/-!
# Places on the screen

Coordinates come from documents and may be anything; only whole numbers that are not negative lie
on a screen. A truth value counts as the whole number it stands for.
-/

namespace Reroll

namespace Value

/-- The whole number that a coordinate stands for. -/
def whole? : Value → Option Int
  | .num (.int i) => some i
  | .bool b => some (if b then 1 else 0)
  | _ => none

/-- A whole number of at least the given size. -/
def isWholeAtLeast (least : Int) (v : Value) : Bool := v.whole?.any fun i => decide (least ≤ i)

end Value

/-- A point of the screen. -/
structure Point where
  x : Value
  y : Value

namespace Point

/-- The point lies on a screen. -/
def isValid (p : Point) : Bool := p.x.isWholeAtLeast 0 && p.y.isWholeAtLeast 0

/-- The point as messages show it. -/
def shown (p : Point) : String := "Point(x=" ++ p.x.shown ++ ", y=" ++ p.y.shown ++ ")"

/-- No coordinate is too long to be written. -/
def isWritable (p : Point) : Bool := p.x.isWritable && p.y.isWritable

end Point

/-- A rectangle of the screen. -/
structure Region where
  x : Value
  y : Value
  width : Value
  height : Value

namespace Region

/-- The region lies on a screen and is not empty. -/
def isValid (r : Region) : Bool :=
  r.x.isWholeAtLeast 0 && r.y.isWholeAtLeast 0 && r.width.isWholeAtLeast 1 &&
    r.height.isWholeAtLeast 1

/-- Corner and size. -/
def parts (r : Region) : List Value := [r.x, r.y, r.width, r.height]

/-- The region as messages show it. -/
def shown (r : Region) : String := "(" ++ String.intercalate ", " (r.parts.map Value.shown) ++ ")"

/-- Neither a coordinate nor a size is too long to be written. -/
def isWritable (r : Region) : Bool := r.parts.all Value.isWritable

end Region

/-- A button of the pointer. -/
inductive Button where
  | left
  | right
  deriving DecidableEq, Repr

end Reroll
