import Reroll.Run.Loop
import Reroll.Run.Rehearsal

/-!
# Trials

A trial is a rehearsal without pauses, so that its clock never matters and the run can be computed.
Nobody listens, and nothing is excluded unless the trial says so.
-/

namespace Reroll

namespace Trial

/-- What a trial of a script works with. -/
def rig (script : Script) (failureLimit : Int := 0) : Rig Float String Rehearsal Unit where
  settings := { keySettle := .int 0, minDensity := .int 0 }
  devices := Rehearsal.devices script
  listener := .silent
  exclusion := .ok {}
  failureLimit := .int failureLimit

/-- The scene in which a trial begins. -/
def scene : Scene Float String Rehearsal Unit where
  state := {}
  files := {}
  devices := {}
  listener := ()

/-- A plan for a trial: nothing is known about modifiers and the first attempt is not delayed. -/
def plan (nodes : List Node) (edges : List Edge) (attempts : Int) : Plan where
  graph := ⟨nodes, edges⟩
  maxAttempts := .int attempts
  known := none
  targets := []
  startDelay := .int 0

/-- The node where every plan starts. -/
def start : Node := { id := Graph.startId, kind := .start }

/-- The node where every plan ends. -/
def finish : Node := { id := Graph.endId, kind := .finish }

/-- Three attempts at a check that is repeated until it finds something. -/
def waiting : Plan :=
  plan
    [start,
      { id := "look", kind := .check
        data := .check (some ⟨.int 0, .int 0, .int 8, .int 8⟩) [.plain "life"] },
      finish]
    [⟨Graph.startId, "look", none⟩, ⟨"look", Graph.endId, some Graph.onFound⟩,
      ⟨"look", "look", some Graph.onMissed⟩] 3

end Trial

end Reroll
