import Reroll.Run.Clock

/-!
# Rehearsals

A rehearsal is a run on devices that follow a script. For each operation the script lists cues:
the first call takes the first cue, and so on, and the last cue serves all later calls. Alarms go
off in the first sleep that reaches their time. Images are names.
-/

namespace Reroll

/-- What one call gives: a stop may be requested first, then the operation fails or gives its
result. -/
structure Cue (α : Type) where
  stop : Bool := false
  fault : Option DeviceFault := none
  result : α

/-- The answer that a cue prescribes. -/
def Cue.answer (c : Cue α) : Answer α where
  result := match c.fault with
    | some f => .error f
    | none => .ok c.result
  influence := { stop := c.stop }

/-- The cue of a call, given how many calls came before. -/
def Cue.nth (cues : List (Cue α)) (default : Cue α) (calls : Nat) : Cue α :=
  (cues[calls]?.or cues.getLast?).getD default

/-- Something that happens when the clock has counted so many nanoseconds. -/
structure Alarm where
  time : Int
  influence : Influence

/-- The cues of all operations. A preparation without images of its own gives two. -/
structure Script where
  click : List (Cue Unit) := []
  key : List (Cue Unit) := []
  grab : List (Cue String) := []
  prepare : List (Cue (Option (List String))) := []
  recognize : List (Cue (List Reading)) := []

/-- How far a rehearsal has come: the clock, the alarms to come and the calls of each operation. -/
structure Rehearsal where
  clock : Clock := {}
  alarms : List Alarm := []
  clicks : Nat := 0
  keys : Nat := 0
  grabs : Nat := 0
  preparations : Nat := 0
  recognitions : Nat := 0

namespace Rehearsal

/-- Two influences one after the other. -/
def joined (a b : Influence) : Influence where
  stop := a.stop || b.stop
  files := fun f => b.files (a.files f)

/-- Lets time pass; the alarms that are due go off in order. -/
def sleep (seconds : Float) (r : Rehearsal) : Influence × Rehearsal :=
  let clock := r.clock.after seconds
  let (due, later) := r.alarms.partition fun a => a.time ≤ clock.nanos
  (due.foldl (fun i a => joined i a.influence) {}, { r with clock, alarms := later })

/-- The image that a grab gives unless its cue names another one. -/
def plainImage : String := "image"

/-- The images that a preparation gives unless its cue lists others. -/
def twoImages (image : String) : List String := [image ++ "-a", image ++ "-b"]

/-- The answer of a preparation. -/
def prepared (cue : Cue (Option (List String))) (image : String) : Answer (List String) :=
  Cue.answer { cue with result := cue.result.getD (twoImages image) }

/-- Devices that follow a script. -/
def devices (s : Script) : Devices Float String Rehearsal where
  time := Clock.reckoning
  now := fun r => r.clock.shown
  sleep := sleep
  click := fun _ _ _ r =>
    ((Cue.nth s.click { result := () } r.clicks).answer, { r with clicks := r.clicks + 1 })
  key := fun _ r =>
    ((Cue.nth s.key { result := () } r.keys).answer, { r with keys := r.keys + 1 })
  grab := fun _ r =>
    ((Cue.nth s.grab { result := plainImage } r.grabs).answer, { r with grabs := r.grabs + 1 })
  prepare := fun image r =>
    (prepared (Cue.nth s.prepare { result := none } r.preparations) image,
      { r with preparations := r.preparations + 1 })
  recognize := fun _ r =>
    ((Cue.nth s.recognize { result := [] } r.recognitions).answer,
      { r with recognitions := r.recognitions + 1 })

end Rehearsal

end Reroll
