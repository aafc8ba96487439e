import Reroll.Run.Scene

/-!
# Delays

A short delay passes in full, so that clicks keep their timing even while a stop is pending. A
long one is given up once it has lasted for a set time and a stop is asked for.
-/

namespace Reroll

namespace Delay

variable {τ ι δ σ : Type}

/-- How a delay is spent, in milliseconds; an unwatched one is never given up. -/
structure Manner where
  poll : Value
  abortAfter : Value
  watched : Bool := true

/-- The manner that the settings ask for. -/
def Manner.ofSettings (s : Settings) : Manner where
  poll := s.delayPoll
  abortAfter := s.delayAbortAfter

/-- The time between two looks at the clock, one millisecond at least. -/
def Manner.interval (m : Manner) : Except OperandError Value := do
  return if ← m.poll.related .above (.int 1) then m.poll else .int 1

/-- Waits on until the total has passed; gives whether it did. -/
def waitFrom (r : Rig τ ι δ σ) (watched : Bool) (poll total abortAfter started : τ) :
    Nat → Act τ ι δ σ Bool
  | 0 => return true
  | fuel + 1 => do
    let k := r.devices.time
    let elapsed := k.minus (← Act.now r) started
    if k.atMost total elapsed then return true
    if watched && k.below abortAfter elapsed then
      if ← Act.stopAsked then return false
    Act.sleep r (k.least poll (k.minus total elapsed))
    waitFrom r watched poll total abortAfter started fuel

/-- A length of time, if it can be reckoned with. -/
def reckoned (r : Rig τ ι δ σ) (v : Value) : Act τ ι δ σ τ :=
  match v.number? with
  | some n => Act.lift .number (r.devices.time.ofMillis n)
  | none => throw (.operand (.unfit "/" v.fullKindName "float"))

/-- Waits; gives whether the delay passed in full. -/
def wait (r : Rig τ ι δ σ) (m : Manner) (length : Value) : Act τ ι δ σ Bool := do
  if ← Act.lift .operand (length.related .atMost (.int 0)) then return true
  let poll ← reckoned r (← Act.lift .operand m.interval)
  let total ← reckoned r length
  let abortAfter ← reckoned r m.abortAfter
  let started ← Act.now r
  waitFrom r m.watched poll total abortAfter started (r.devices.time.rounds total started + 1)

/-- Waits in the manner of the settings. -/
def pause (r : Rig τ ι δ σ) (length : Value) : Act τ ι δ σ Unit :=
  discard (wait r (.ofSettings r.settings) length)

end Delay

end Reroll
