import Reroll.Image.Pixmap
import Reroll.Image.Scale
import Reroll.Image.Tone
import Reroll.Screen
import Reroll.Settings.Basic

/-!
# Captured tooltips

A tooltip is captured from a region of the screen and prepared for recognition in two ways: one
keeps thin strokes, the other removes the texture behind the text. The column of icons at its left
is cut off first.
-/

namespace Reroll

/-- What a grabber delivers: pixels, an encoded image, or something else of the named kind. -/
inductive Grabbed where
  | pixels (i : Image)
  | encoded (bytes : List UInt8)
  | other (kind : String)

/-- Why there is no tooltip. -/
inductive TooltipError where
  | invalidRegion (r : Region)
  | emptyCapture (r : Region)
  | undecodable
  | notImage (kind : String)
  | width (e : ConversionError)
  | operand (e : OperandError)

namespace TooltipError

/-- The wording of the error. -/
def message : TooltipError → String
  | .invalidRegion r => "invalid region: " ++ r.shown
  | .emptyCapture r => "empty capture for region " ++ r.shown
  | .undecodable => "Failed to decode image bytes"
  | .notImage kind => "Unsupported image type: <class '" ++ kind ++ "'>"
  | .width e => e.message
  | .operand e => e.message

end TooltipError

namespace Tooltip

/-- The image that a grabber delivered. -/
def load : Grabbed → Except TooltipError Image
  | .pixels i => .ok i
  | .encoded bytes =>
    match Image.ofPixmap? bytes with
    | some i => .ok i
    | none => .error .undecodable
  | .other kind => .error (.notImage kind)

/-- Grabs a region. -/
def grab (grabber : Region → Grabbed) (r : Region) : Except TooltipError Image :=
  if !r.isValid then .error (.invalidRegion r)
  else
    match load (grabber r) with
    | .error e => .error e
    | .ok i => if i.isEmpty then .error (.emptyCapture r) else .ok i

/-- The columns of an image from the given one on. -/
def columnsFrom (start : Nat) (i : Image) : Image :=
  Image.build i.height (i.width - start) i.colored fun row column channel =>
    i.sample row (start + column) channel

/-- The least width that must remain is one more than this. -/
def widthLimit : Int := 30

/-- A value so many times over: the product of a number, or a text or list repeated. -/
def times (width : Nat) (ratio : Value) : Except OperandError Value :=
  match ratio with
  | .num (.int r) => .ok (.int (width * r))
  | .num (.float r) => .ok (.num (.float (Float.ofNat width * r)))
  | .num .minusNaN => .ok ratio
  | .bool b => .ok (.int (if b then width else 0))
  | .text s => .ok (.text (String.join (List.replicate width s)))
  | .list items => .ok (.list (List.replicate width items).flatten)
  | v => .error (.unfit "*" "int" v.fullKindName)

/-- The columns that a ratio of the width covers. -/
def trimOf (width : Nat) (ratio : Value) : Except TooltipError Int := do
  ((← (times width ratio).mapError .operand).toInt).mapError .width

/-- Cuts off the icons, if enough remains. A negative ratio keeps columns of the right edge. -/
def trim (ratio : Value) (i : Image) : Except TooltipError Image := do
  let trim ← trimOf i.width ratio
  if widthLimit < i.width - trim then
    return columnsFrom (if trim < 0 then (i.width + trim).toNat else trim.toNat) i
  else return i

/-- The larger gray image that both ways begin with. -/
def enlargedGray (scale : Nat) (i : Image) : Image := (i.enlarge scale).gray

/-- The way that keeps thin strokes: more contrast and a little more light. -/
def soft (scale : Nat) (i : Image) : Image :=
  (((enlargedGray scale i).contrasted 0.35).stretch).lifted 0.05

/-- The way that removes the texture: black on white, sharpened, of two tones. -/
def stark (scale : Nat) (threshold : Number) (i : Image) : Image :=
  let lit := (((enlargedGray scale i).contrasted 0.55).stretch).lifted 0.03
  lit.inverted.sharpened.threshold threshold

/-- The factor by which images are enlarged; what is no whole number leaves them as they are. -/
def scaleOf (v : Value) : Nat :=
  match v.number? with
  | some (.int n) => n.toNat
  | _ => 1

/-- The threshold between the two tones; what is no number is the lowest one. -/
def thresholdOf (v : Value) : Number := v.number?.getD (.int 0)

/-- Both ways, the soft one first. -/
def variants (s : Settings) (i : Image) : Except TooltipError (List Image) := do
  let i ← trim s.leftTrimRatio i
  let scale := scaleOf s.captureScale
  return [soft scale i, stark scale (thresholdOf s.captureThreshold) i]

/-- The names of the files that keep prepared images, at a given time. -/
def fileNames (stamp : String) : List String :=
  ["a", "b"].map fun way => "check-" ++ stamp ++ "-" ++ way ++ ".png"

end Tooltip

end Reroll
