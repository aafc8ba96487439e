import Reroll.Document.Compare
import Reroll.Settings.Basic

/-!
# Worker pools

Operations of devices are done by two pools of workers: one for input and captures, whose single
worker keeps them in order, and one for preparation and recognition.
-/

namespace Reroll.Pool

/-- The processors that are assumed when their number is not known. -/
def assumedProcessors : Nat := 4

/-- Half of the processors, two workers at least and eight at most. -/
def automaticSize (processors : Option Nat) : Nat :=
  let known := processors.filter fun n => n != 0
  min (max 2 (known.getD assumedProcessors / 2)) 8

/-- The size that is set, if it is positive, or else a default. -/
def sizeOr (set : Value) (default : Nat) : Except OperandError Value := do
  return if ← set.related .atMost (.int 0) then .int default else set

/-- The workers for input and captures. -/
def inputSize (s : Settings) : Except OperandError Value := sizeOr s.ioPoolSize 1

/-- The workers for preparation and recognition. -/
def computeSize (s : Settings) (processors : Option Nat) : Except OperandError Value :=
  sizeOr s.computePoolSize (automaticSize processors)

end Reroll.Pool
