import Reroll.Files.Tree
import Reroll.Log
import Reroll.Settings.Basic

/-!
# The state of a run

A run is stopped cooperatively: a request, or the appearance of a signal file, sets a flag that is
looked at before every step and during long delays. A signal file is used up when it is seen.
-/

namespace Reroll

/-- The flags of a run: a run is in progress, a stop was requested, the modifier key is believed to
be held. `signal` is the file whose appearance requests a stop. -/
structure RunState where
  running : Bool := false
  stopRequested : Bool := false
  held : Bool := false
  attempts : Int := 0
  signal : Option Path := none

namespace RunState

/-- The state before any run, with the given signal file or else the one of the settings. -/
def initial (s : Settings) (signal : Option Path) : Except ShapeError RunState :=
  match signal with
  | some p => .ok { signal := some p }
  | none => s.stopSignalFile.pathText?.map fun t => { signal := t.map .ofText }

/-- Asks for a stop. -/
def requestStop (r : RunState) : RunState := { r with stopRequested := true }

/-- What the operator is told when a stop is asked for: nothing if that is no news. -/
def requestLog (r : RunState) : List LogRecord :=
  if r.stopRequested then [] else [⟨.info, "stop requested"⟩]

/-- The signal file is there. -/
def signalPresent (r : RunState) (files : Files) : Except FileError Bool :=
  match r.signal with
  | none => .ok false
  | some p => files.isPresent p

/-- Removes the signal file. That the system refuses it is no more than worth a warning. -/
def clearSignal (r : RunState) (files : Files) : Except FileError (Files × List LogRecord) :=
  match r.signal with
  | none => .ok (files, [])
  | some p =>
    match files.remove p with
    | .ok files => .ok (files, [])
    | .error e =>
      if e.isSystem then
        let trouble := "could not remove stop signal file " ++ p.text ++ ": " ++ e.message
        .ok (files, [⟨.warning, trouble⟩])
      else .error e

/-- Looks for a stop request or a signal file, which is used up. -/
def poll (r : RunState) (files : Files) : Except FileError (RunState × Files × List LogRecord) := do
  if r.stopRequested then return (r, files, [])
  if !(← r.signalPresent files) then return (r, files, [])
  let (files, log) ← r.clearSignal files
  let seen := "stop signal file seen: " ++ (r.signal.map Path.text).getD ""
  return (r.requestStop, files, log ++ [⟨.info, seen⟩])

/-- The state of a run that starts; earlier requests are dropped. -/
def begin (r : RunState) : RunState :=
  { r with running := true, stopRequested := false, attempts := 0 }

/-- Ends a run. -/
def finish (r : RunState) : RunState := { r with running := false }

end RunState

/-- Why no signal file is written. -/
inductive SignalError where
  | notConfigured
  | shape (e : ShapeError)
  | file (e : FileError)

namespace SignalError

/-- The wording of the reason. -/
def message : SignalError → String
  | .notConfigured => "no stop signal file configured"
  | .shape e => e.message
  | .file e => e.message

end SignalError

/-- Writes a file at a path, making the directories above it. -/
def writeSignalAt (p : Path) (files : Files) : Except FileError Files := do
  let files ← files.makeDirectories p.parent
  files.write p "stop".toUTF8

/-- Writes a signal file, which stops a run that watches for it. An empty path stands for the one
of the settings. -/
def writeSignal (s : Settings) (path : Value) (files : Files) :
    Except SignalError (Path × Files) :=
  match (path.orElse s.stopSignalFile).pathText? with
  | .error e => .error (.shape e)
  | .ok none => .error .notConfigured
  | .ok (some t) =>
    match writeSignalAt (.ofText t) files with
    | .ok files => .ok (.ofText t, files)
    | .error e => .error (.file e)

end Reroll
