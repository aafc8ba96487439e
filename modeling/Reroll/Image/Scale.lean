import Reroll.Decimal.Binary
import Reroll.Image.Basic

/-!
# Enlarging and sharpening

An image is enlarged by cubic interpolation: a new sample is a weighted sum of the sixteen samples
around its place, and the samples at the edge are repeated outward. Sharpening adds to each sample
its difference from its four neighbours; there the image is reflected at its edge.
-/

namespace Reroll.Image

/-- The weight of a sample at a distance in the cubic interpolation with parameter -3/4. -/
def cubicWeight (distance : Rat) : Rat :=
  let a : Rat := mkRat (-3) 4
  let x := if distance < 0 then -distance else distance
  if x ≤ 1 then ((a + 2) * x - (a + 3)) * x * x + 1
  else if x < 2 then ((a * x - 5 * a) * x + 8 * a) * x - 4 * a
  else 0

/-- Weights are kept in parts of two to the eleventh. -/
def weightUnit : Nat := 2048

/-- A weight in whole parts. -/
def weightParts (distance : Rat) : Int :=
  Decimal.roundHalfEven (cubicWeight distance * (weightUnit : Rat))

/-- A position cut off at the ends of a line. -/
def within (length : Nat) (position : Int) : Nat := min position.toNat (length - 1)

/-- The samples of a line, with their weights, that make the new sample at a place. -/
def taps (length scale place : Nat) : List (Nat × Int) :=
  let position : Rat := ((place : Rat) + mkRat 1 2) / (scale : Rat) - mkRat 1 2
  let base := position.floor
  ([-1, 0, 1, 2] : List Int).map fun step =>
    (within length (base + step), weightParts (position - ((base + step : Int) : Rat)))

/-- A weighted sum. -/
def weighted (taps : List (Nat × Int)) (f : Nat → Int) : Int :=
  taps.foldl (fun sum t => sum + t.2 * f t.1) 0

/-- A sum of products of two weights and a sample, rounded to a sample. -/
def roundedSum (sum : Int) : UInt8 :=
  let unit : Int := weightUnit * weightUnit
  clipped ((2 * sum + unit).fdiv (2 * unit))

/-- The image enlarged by a whole factor. -/
def enlarge (scale : Nat) (i : Image) : Image :=
  let rows := ((List.range (i.height * scale)).map (taps i.height scale)).toArray
  let columns := ((List.range (i.width * scale)).map (taps i.width scale)).toArray
  build (i.height * scale) (i.width * scale) i.colored fun row column channel =>
    roundedSum (weighted (rows[row]?.getD []) fun r =>
      weighted (columns[column]?.getD []) fun c => (i.sample r c channel).toNat)

/-- A position beside a line reflected at its ends. -/
def reflected (length : Nat) (position : Int) : Nat :=
  if length ≤ 1 then 0
  else if position < 0 then position.natAbs
  else if (length : Int) ≤ position then (2 * (length : Int) - 2 - position).toNat
  else position.toNat

/-- The gray image sharpened. -/
def sharpened (i : Image) : Image :=
  let at_ (row column : Int) : Int :=
    (i.sample (reflected i.height row) (reflected i.width column) 0).toNat
  build i.height i.width false fun r c _ =>
    let row : Int := r
    let column : Int := c
    clipped (5 * at_ row column - at_ (row - 1) column - at_ (row + 1) column
      - at_ row (column - 1) - at_ row (column + 1))

end Reroll.Image
