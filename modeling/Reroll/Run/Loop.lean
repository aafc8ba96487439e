import Reroll.Plan.Basic
import Reroll.Graph.Validity
import Reroll.Run.Traversal

/-!
# Runs

A run traverses the graph of a plan again and again until a target is found, the attempts are used
up, a stop is asked for or a fault occurs. The modifier key is released after every attempt and
when the run ends, however it ends.
-/

namespace Reroll

/-- How a run ends. -/
inductive RunOutcome where
  | found (hit : Match)
  | exhausted
  | stopped
  | failed (text : String)

/-- The name of an outcome. -/
def RunOutcome.name : RunOutcome → String
  | .found _ => "found"
  | .exhausted => "exhausted"
  | .stopped => "stopped"
  | .failed _ => "error"

/-- Why a run gives no result: its graph has problems, or it ends while it begins. -/
inductive RunError where
  | graph (problems : List GraphProblem)
  | fault (f : Fault)

/-- The wording of the reason. -/
def RunError.message : RunError → String
  | .graph problems => String.intercalate "; " (problems.map GraphProblem.message)
  | .fault f => f.text

/-- What came of a run. The duration is in milliseconds. -/
structure RunResult where
  outcome : RunOutcome
  attempts : Int
  duration : Int

namespace Run

variable {τ ι δ σ : Type}

/-- The progress of attempts is told at the first and then at every so many of them. -/
def progressEvery : Int := 10

/-- Counts an attempt and tells about it now and then. -/
def countAttempt (r : Rig τ ι δ σ) (p : Plan) (resume : Option String) : Act τ ι δ σ Unit := do
  let number := (← get).state.attempts + 1
  modify fun s => { s with state := { s.state with attempts := number } }
  Act.note (.attempted number resume)
  if number = 1 || number % progressEvery = 0 then
    let limit ← Act.lift .number p.maxAttempts.writtenPlain
    Act.tell r .info ("attempt " ++ toString number ++ "/" ++ limit)

/-- One attempt: it is counted, the graph is traversed and the modifier key released. -/
def attempt (r : Rig τ ι δ σ) (p : Plan) (resume : Option String) : Act τ ι δ σ Traversal := do
  countAttempt r p resume
  Act.followedBy (Traversal.run r p.graph resume) (Step.releaseKey r)

/-- Attempts until the run ends. Every round counts an attempt, so one more round than there may
be attempts suffices. -/
def attemptFrom (r : Rig τ ι δ σ) (p : Plan) (resume : Option String) : Nat → Act τ ι δ σ RunOutcome
  | 0 => return .exhausted
  | fuel + 1 => do
    if ← Act.stopAsked then return .stopped
    let made := Value.int (← get).state.attempts
    if ← Act.lift .operand (made.related .atLeast p.maxAttempts) then return .exhausted
    match ← attempt r p resume with
    | .found hit => return .found hit
    | .stopped => return .stopped
    | .resumed id => attemptFrom r p (some id) fuel
    | .ended => attemptFrom r p none fuel

/-- The delay before the first attempt. -/
def startDelay (r : Rig τ ι δ σ) (p : Plan) : Act τ ι δ σ Unit := do
  if ← Act.lift .operand (p.startDelay.related .above (.int 0)) then
    let length ← Act.lift .number p.startDelay.writtenPlain
    Act.tell r .info ("starting in " ++ length ++ "ms")
    Delay.pause r p.startDelay

/-- As many attempts as a limit allows. One that is no finite number allows more than there will
ever be. -/
def attemptsWithin (limit : Value) : Nat :=
  match limit.number?.bind Number.magnitude? with
  | some .lowest => 0
  | some (.value q) => q.ceil.toNat
  | _ => Nat.pow 2 64

/-- The attempts of a run after its delay. -/
def attempts (r : Rig τ ι δ σ) (p : Plan) : Act τ ι δ σ RunOutcome := do
  startDelay r p
  attemptFrom r p none (attemptsWithin p.maxAttempts + 1)

/-- The attempts of a run; a fault becomes an outcome. -/
def guarded (r : Rig τ ι δ σ) (p : Plan) : Act τ ι δ σ RunOutcome := do
  match ← Act.outcome (attempts r p) with
  | .ok o => return o
  | .error f =>
    Act.tell r .error ((if f.isFatal then "aborted: " else "error: ") ++ f.text)
    return .failed f.text

/-- Tells how the run ended. -/
def announce (r : Rig τ ι δ σ) (attempts : Int) : RunOutcome → Act τ ι δ σ Unit
  | .found hit => do
    Act.tell r .success
      ("FOUND after " ++ toString attempts ++ " attempts: " ++ hit.line.text)
    Act.tell r .success ("matched: " ++ hit.spec.describe)
  | .exhausted => Act.tell r .warning ("max attempts reached (" ++ toString attempts ++ ")")
  | .stopped => Act.tell r .info ("stopped after " ++ toString attempts ++ " attempts")
  | .failed _ => return

/-- A run has begun: its state is reset, no device has failed yet and a stale signal file is gone.
The limit of attempts goes into a record, so it must be one that can be written. -/
def begin (p : Plan) : Act τ ι δ σ Unit := do
  modify fun s => { s with state := s.state.begin, failures := {} }
  let s ← get
  let (files, _) ← Act.lift .file (s.state.clearSignal s.files)
  set { s with files }
  discard (Act.lift .number p.maxAttempts.writtenPlain)

/-- Runs a plan whose graph has no problems. -/
def runValid (r : Rig τ ι δ σ) (p : Plan) : Act τ ι δ σ RunResult := do
  let started ← Act.now r
  begin p
  let outcome ← guarded r p
  Step.releaseKey r
  modify fun s => { s with state := s.state.finish }
  let ended ← Act.now r
  let attempts := (← get).state.attempts
  announce r attempts outcome
  return { outcome, attempts, duration := r.devices.time.millis (r.devices.time.minus ended started) }

/-- The rig for a plan: its known modifiers and its targets. -/
def rigFor (r : Rig τ ι δ σ) (p : Plan) : Rig τ ι δ σ :=
  { r with known := p.known, targets := p.targets }

/-- Runs a plan, unless its graph has problems. The journal begins anew. -/
def run (r : Rig τ ι δ σ) (p : Plan) (s : Scene τ ι δ σ) :
    Except RunError RunResult × Scene τ ι δ σ :=
  let s := { s with journal := [] }
  match p.graph.problems with
  | [] =>
    let (result, s) := runValid (rigFor r p) p s
    (result.mapError .fault, s)
  | problems => (.error (.graph problems), s)

end Run

end Reroll
