import Reroll.Document.Compare
import Reroll.Document.Convert
import Reroll.Image.Basic
import Reroll.Number

/-!
# Tones

Rules that change every sample by itself: contrast, brightness, the stretch to the full range and
the threshold. Contrast and brightness are reckoned in single precision, rounded after every
operation, and cut to the range and to whole numbers at the end.
-/

namespace Reroll

/-- Why a tone rule cannot be applied. -/
inductive ToneError where
  | infiniteContrast
  | operand (e : OperandError)
  | number (e : ConversionError)

/-- The wording of the error. -/
def ToneError.message : ToneError → String
  | .infiniteContrast => "float division by zero"
  | .operand e => e.message
  | .number e => e.message

namespace Image

/-- A sample in single precision. -/
def single (v : UInt8) : Float32 := Float32.ofNat v.toNat

/-- The samples spread around the middle by a factor. -/
def spread (factor : Float32) (v : UInt8) : UInt8 :=
  (factor * (single v - 127.0) + 127.0).toUInt8

/-- More contrast, or less for a negative amount. -/
def contrasted (amount : Float) (i : Image) : Image :=
  i.mapSamples (spread ((amount + 1.0) / (1.0 - amount)).toFloat32)

/-- More or less contrast; an amount of one would make it infinite. -/
def contrast (amount : Value) (i : Image) : Except ToneError Image := do
  let n ← amount.addend.mapError .operand
  let a ← n.toFloat.mapError .number
  if 1.0 - a == 0.0 then throw .infiniteContrast
  return i.contrasted a

/-- A sample lifted toward white, or lowered toward black by a negative amount. -/
def lift (amount : Float) (v : UInt8) : UInt8 :=
  if amount < 0.0 then (single v * (1.0 + amount).toFloat32).toUInt8
  else (single v + (255.0 - single v) * amount.toFloat32).toUInt8

/-- More brightness, or less for a negative amount. -/
def lifted (amount : Float) (i : Image) : Image := i.mapSamples (lift amount)

/-- More or less brightness. -/
def brightness (amount : Value) (i : Image) : Except ToneError Image := do
  discard ((amount.related .below (.int 0)).mapError .operand)
  return i.lifted (← amount.toFloat.mapError .number)

/-- The sample's place between the least and the greatest one, on the full range. -/
def stretched (least greatest v : UInt8) : UInt8 :=
  if greatest ≤ least then 0
  else
    clipped (Decimal.roundHalfEven
      (mkRat (((v.toNat : Int) - least.toNat) * 255) (greatest.toNat - least.toNat)))

/-- Stretches the samples to the full range; an image of one tone becomes black. -/
def stretch (i : Image) : Image :=
  let least := i.samples.foldl min 255
  let greatest := i.samples.foldl max 0
  i.mapSamples (stretched least greatest)

/-- The sample lies above a threshold. Thresholds have 32 bits: what is too large for them, or no
number, is the lowest threshold, and what is too low the highest. -/
def isAbove (t : Number) (v : UInt8) : Bool :=
  if t.isNaN || (Number.int (Nat.pow 2 31 - 1)).lt t then true
  else if t.lt (.int (-(Nat.pow 2 31 : Int))) then false
  else t.lt (.int v.toNat)

/-- White above the threshold, black elsewhere. -/
def threshold (t : Number) (i : Image) : Image :=
  i.mapSamples fun v => if isAbove t v then 255 else 0

/-- Swaps black and white. -/
def inverted (i : Image) : Image := i.mapSamples fun v => 255 - v

/-- The tone of a pixel: a weighted mean of its samples, in parts of two to the fifteenth. -/
def toneOf (blue green red : UInt8) : UInt8 :=
  clipped ((blue.toNat * 3735 + green.toNat * 19235 + red.toNat * 9798 + 16384) / 32768 : Nat)

/-- The image without its colors. -/
def gray (i : Image) : Image :=
  if i.colored then
    build i.height i.width false fun row column _ =>
      toneOf (i.sample row column 0) (i.sample row column 1) (i.sample row column 2)
  else i

end Image

end Reroll
