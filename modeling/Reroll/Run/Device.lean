import Reroll.Line.Basic
import Reroll.Run.Event
import Reroll.Screen

/-!
# Devices

A run acts through devices: it moves the pointer and clicks, holds a modifier key, grabs parts of
the screen, prepares the image in several ways and has the text in each one recognized. Every
operation may fail, and things may happen while it is under way. Time is read and passed in the
same manner.
-/

namespace Reroll

/-- Why an operation fails: the device cannot work at all, or this time it did not, which it gives
a name for. -/
inductive DeviceFault where
  | unavailable (text : String)
  | failed (kind text : String)
  deriving DecidableEq

/-- The text of a fault. -/
def DeviceFault.text : DeviceFault → String
  | .unavailable t => t
  | .failed _ t => t

/-- What an operation gives, and what happened meanwhile. -/
structure Answer (α : Type) where
  result : Except DeviceFault α
  influence : Influence := {}

/-- How lengths of time are reckoned. `rounds` bounds the number of looks at the clock during a
wait of the given total that starts at the given time. -/
structure Reckoning (τ : Type) where
  ofMillis : Number → Except ConversionError τ
  minus : τ → τ → τ
  below : τ → τ → Bool
  atMost : τ → τ → Bool
  millis : τ → Int
  rounds : τ → τ → Nat

/-- The smaller of two lengths, the first one unless the second is below it. -/
def Reckoning.least (k : Reckoning τ) (a b : τ) : τ := if k.below b a then b else a

/-- Devices with a state of their own. -/
structure Devices (τ ι δ : Type) where
  time : Reckoning τ
  now : δ → τ
  sleep : τ → δ → Influence × δ
  click : Value → Value → Button → δ → Answer Unit × δ
  key : Bool → δ → Answer Unit × δ
  grab : Region → δ → Answer ι × δ
  prepare : ι → δ → Answer (List ι) × δ
  recognize : ι → δ → Answer (List Reading) × δ

end Reroll
