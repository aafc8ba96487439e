import Reroll.Line.Gather
import Reroll.Run.Delay

/-!
# Steps

A step does what one node asks for and says whether a target was found. A failing device makes a
step that found nothing; one that cannot work, or that fails too often in a row, ends the run, and
so does a node that lacks what its step needs.
-/

namespace Reroll

/-- What a step found: the lines it saw and the target among them, if any. -/
structure StepOutcome where
  hit : Option Match := none
  lines : List Line := []

namespace Step

variable {τ ι δ σ : Type}

/-- The device worked. -/
def succeeded (c : Capability) : Act τ ι δ σ Unit :=
  modify fun s => { s with failures := s.failures.set c 0 }

/-- So many failures in a row are too many: the limit is positive and reached. -/
def isTooMany (limit : Value) (count : Nat) : Except OperandError Bool := do
  if ← limit.related .above (.int 0) then (Value.int count).related .atLeast limit
  else return false

/-- The device failed at a node; a positive limit of failures in a row ends the run. -/
def failed (r : Rig τ ι δ σ) (c : Capability) (n : Node) (text : String) : Act τ ι δ σ Unit := do
  let count := (← get).failures.of c + 1
  modify fun s => { s with failures := s.failures.set c count }
  Act.tell r .warning (c.name ++ " error on " ++ n.displayName ++ ": " ++ text)
  if ← Act.lift .operand (isTooMany r.failureLimit count) then
    throw (.unavailable
      (c.name ++ " failed " ++ toString count ++ " times in a row: " ++ text))

/-- Tries a device; nothing comes of it when it fails. -/
def trying (r : Rig τ ι δ σ) (c : Capability) (n : Node) (a : Act τ ι δ σ α) :
    Act τ ι δ σ (Option α) := do
  match ← Act.outcome a with
  | .ok v =>
    succeeded c
    return some v
  | .error (.unavailable text) => throw (.unavailable text)
  | .error f =>
    failed r c n f.text
    return none

/-- Brings the modifier key down or up. -/
def pressKey (r : Rig τ ι δ σ) (down : Bool) : Act τ ι δ σ Unit :=
  Act.operate (r.devices.key down) fun a => .keyed down a.isOk

/-- Brings the modifier key into position and lets it settle, unless it is there already. -/
def setKey (r : Rig τ ι δ σ) (held : Bool) : Act τ ι δ σ Unit := do
  if held == (← get).state.held then return
  pressKey r held
  modify fun s => { s with state := { s.state with held } }
  Act.tell r .debug (if held then "modifier key pressed" else "modifier key released")
  Delay.pause r r.settings.keySettle

/-- Releases the modifier key if it is held. The key counts as released even if that fails. -/
def releaseKey (r : Rig τ ι δ σ) : Act τ ι δ σ Unit := do
  if (← get).state.held then
    let _ ← Act.outcome do
      Act.operate (r.devices.key false) fun a => .released a.isOk
      Act.tell r .info "modifier key released"
    modify fun s => { s with state := { s.state with held := false } }

/-- The fault of a node whose place does not lie on the screen. The message shows the place, which
fails when a number of it is too long to be written. -/
def misplaced (n : Node) (message : String) (writable : Bool) : Fault :=
  if writable then .step n.displayName message else .number .unwritable

/-- The position of a click, which must lie on the screen. -/
def clickTarget (n : Node) : Except Fault (Point × Bool × Value) :=
  match n.data with
  | .click (some p) shift post =>
    if p.isValid then .ok (p, shift, post)
    else .error (misplaced n ("invalid click position " ++ p.shown) p.isWritable)
  | _ => .error (.step n.displayName "no click position set")

/-- Sends a click. A left one brings the modifier key into position first, a right one leaves it
alone. -/
def sendClick (r : Rig τ ι δ σ) (p : Point) (shift : Bool) (b : Button) : Act τ ι δ σ Unit := do
  if b = .left then setKey r shift
  Act.operate (r.devices.click p.x p.y b) fun a => .clicked p.x p.y b a.isOk

/-- Clicks where the node says, and waits after it if that worked. -/
def click (r : Rig τ ι δ σ) (n : Node) (b : Button) : Act τ ι δ σ StepOutcome := do
  let (p, shift, post) ← Act.lift id (clickTarget n)
  let clicked ← trying r .input n (sendClick r p shift b)
  if clicked.isSome then Delay.pause r post
  return {}

/-- The region and the targets of a check, both of which must be there. -/
def checkTarget (targets : List Spec) (n : Node) : Except Fault (Region × List Spec) :=
  match n.data with
  | .check (some region) own =>
    let sought := if own.isEmpty then targets else own
    if !region.isValid then
      .error (misplaced n ("invalid region " ++ region.shown) region.isWritable)
    else if sought.isEmpty then .error (.step n.displayName "no modifiers to look for")
    else .ok (region, sought)
  | _ => .error (.step n.displayName "no region set")

/-- Recognizes images one after the other. -/
def recognizeAll (r : Rig τ ι δ σ) : List ι → Act τ ι δ σ (List (List Reading))
  | [] => return []
  | image :: rest => do
    let readings ← Act.operate (r.devices.recognize image) (.recognized image)
    return readings :: (← recognizeAll r rest)

/-- The images of a region, prepared for recognition. -/
def capture (r : Rig τ ι δ σ) (region : Region) : Act τ ι δ σ (List ι) := do
  let image ← Act.operate (r.devices.grab region) (.grabbed region)
  Act.operate (r.devices.prepare image) (.prepared image)

/-- The lines of a tooltip and the target among them. -/
def examine (r : Rig τ ι δ σ) (sought : List Spec) (sets : List (List Reading)) :
    Act τ ι δ σ StepOutcome := do
  let lines ← Act.lift .reading (Line.gather sets r.known r.settings.thresholds)
  let summary := Line.summary lines
  Act.tell r .debug ("detected: " ++ if summary.isEmpty then "-" else summary)
  let exclusion ← Act.lift .shape r.exclusion
  let hit ← Act.lift .ofMatch (Match.find lines sought exclusion)
  return { hit, lines }

/-- Looks for targets in a region of the screen. -/
def check (r : Rig τ ι δ σ) (n : Node) : Act τ ι δ σ StepOutcome := do
  let (region, sought) ← Act.lift id (checkTarget r.targets n)
  match ← trying r .capture n (capture r region) with
  | none => return {}
  | some images =>
    match ← trying r .ocr n (recognizeAll r images) with
    | none => return {}
    | some sets => examine r sought sets

/-- The length of a delay; nodes without one do not wait. -/
def delayLength (n : Node) : Value :=
  match n.data with
  | .delay d => d
  | _ => .int 0

/-- Waits. -/
def delay (r : Rig τ ι δ σ) (n : Node) : Act τ ι δ σ StepOutcome := do
  let length := delayLength n
  let shown ← Act.lift .number length.writtenPlain
  Act.tell r .debug ("waiting " ++ shown ++ "ms")
  Delay.pause r length
  return {}

/-- Does what a node asks for. -/
def execute (r : Rig τ ι δ σ) (n : Node) : Act τ ι δ σ StepOutcome := do
  let known (step : Act τ ι δ σ StepOutcome) : Act τ ι δ σ StepOutcome := do
    Act.tell r .debug n.displayName
    step
  match n.kind with
  | .leftClick => known (click r n .left)
  | .rightClick => known (click r n .right)
  | .check => known (check r n)
  | .delay => known (delay r n)
  | _ =>
    Act.tell r .warning
      ("unknown node kind \"" ++ n.kind.name ++ "\" (" ++ n.id ++ "), skipping")
    return {}

end Step

end Reroll
