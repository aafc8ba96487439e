/-!
# Images

An image is a grid of pixels, each of one gray sample or of three samples in the order blue,
green, red. The samples are kept row by row.
-/

namespace Reroll

/-- A grid of samples. -/
structure Image where
  height : Nat
  width : Nat
  colored : Bool := false
  samples : Array UInt8

namespace Image

/-- Samples of each pixel. -/
def channels (i : Image) : Nat := if i.colored then 3 else 1

/-- There is no sample at all. -/
def isEmpty (i : Image) : Bool := i.samples.isEmpty

/-- Rows and columns and, of a colored image, channels. -/
def shape (i : Image) : List Nat :=
  if i.colored then [i.height, i.width, i.channels] else [i.height, i.width]

/-- A sample of a pixel. -/
def sample (i : Image) (row column channel : Nat) : UInt8 :=
  i.samples[(row * i.width + column) * i.channels + channel]?.getD 0

/-- The samples of one row. -/
def rowOf (width channels : Nat) (f : Nat → Nat → UInt8) : List UInt8 :=
  (List.range width).flatMap fun column => (List.range channels).map fun channel => f column channel

/-- The image whose samples a function gives by row, column and channel. -/
def build (height width : Nat) (colored : Bool) (f : Nat → Nat → Nat → UInt8) : Image where
  height := height
  width := width
  colored := colored
  samples := ((List.range height).flatMap fun row =>
    rowOf width (if colored then 3 else 1) (f row)).toArray

/-- Changes every sample by the same rule. -/
def mapSamples (f : UInt8 → UInt8) (i : Image) : Image := { i with samples := i.samples.map f }

/-- A whole number as a sample, cut off at the ends of the range. -/
def clipped (n : Int) : UInt8 := UInt8.ofNat (min n.toNat 255)

end Image

end Reroll
