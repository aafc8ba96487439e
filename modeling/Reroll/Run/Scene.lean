import Reroll.Document.Compare
import Reroll.Graph.Basic
import Reroll.Modifier.Match
import Reroll.Run.Device
import Reroll.Run.State

/-!
# Acting in a scene

Everything that a run reads and changes is a scene: its own state, the files, the devices, the
listener, the failure counts and a journal of what was done. An act may end with a fault; the
scene is kept in either case.
-/

namespace Reroll

/-- The devices whose failures are counted. -/
inductive Capability where
  | input
  | capture
  | ocr
  deriving DecidableEq, Repr

/-- The name of a capability. -/
def Capability.name : Capability → String
  | .input => "input"
  | .capture => "capture"
  | .ocr => "ocr"

/-- Failures in a row of each capability. -/
structure Failures where
  input : Nat := 0
  capture : Nat := 0
  ocr : Nat := 0
  deriving DecidableEq, Repr

namespace Failures

/-- The failures in a row of a capability. -/
def of (f : Failures) : Capability → Nat
  | .input => f.input
  | .capture => f.capture
  | .ocr => f.ocr

/-- Sets the failures in a row of a capability. -/
def set (f : Failures) (c : Capability) (n : Nat) : Failures :=
  match c with
  | .input => { f with input := n }
  | .capture => { f with capture := n }
  | .ocr => { f with ocr := n }

end Failures

/-- Something a run did, with what came of it. An attempt goes on at a node or begins at the start.
Two acts call the key: a step brings it into position, and it is released when an attempt is over. -/
inductive Deed (τ ι : Type) where
  | attempted (number : Int) (resume : Option String)
  | dispatched (n : Node)
  | checked (found : Bool)
  | clicked (x y : Value) (b : Button) (worked : Bool)
  | keyed (down worked : Bool)
  | released (worked : Bool)
  | grabbed (r : Region) (result : Except DeviceFault ι)
  | prepared (image : ι) (result : Except DeviceFault (List ι))
  | recognized (image : ι) (result : Except DeviceFault (List Reading))
  | told (e : Event)
  | slept (length : τ)

/-- A deed, and the state of the run when it was noted. -/
structure Note (τ ι : Type) where
  deed : Deed τ ι
  state : RunState

/-- Everything a run reads and changes; the journal has the latest deed first. -/
structure Scene (τ ι δ σ : Type) where
  state : RunState
  files : Files
  devices : δ
  listener : σ
  failures : Failures := {}
  journal : List (Note τ ι) := []

/-- What a run works with. The exclusion may be one that cannot be made of the settings, which
shows when it is needed. -/
structure Rig (τ ι δ σ : Type) where
  settings : Settings
  devices : Devices τ ι δ
  listener : Listener σ
  exclusion : Except ShapeError Exclusion
  known : Option Catalog := none
  targets : List Spec := []
  failureLimit : Value

/-- What ends an act. -/
inductive Fault where
  | step (node reason : String)
  | unavailable (text : String)
  | failed (kind text : String)
  | reading (e : ReadingError)
  | number (e : ConversionError)
  | operand (e : OperandError)
  | shape (e : ShapeError)
  | file (e : FileError)

namespace Fault

/-- The wording of a fault. -/
def text : Fault → String
  | .step node reason => "node \"" ++ node ++ "\": " ++ reason
  | .unavailable t => t
  | .failed _ t => t
  | .reading e => e.message
  | .number e => e.message
  | .operand e => e.message
  | .shape e => e.message
  | .file e => e.message

/-- A fault of a comparison. -/
def ofMatch : MatchError → Fault
  | .number e => .number e
  | .shape e => .shape e

/-- A fault of a device. -/
def ofDevice : DeviceFault → Fault
  | .unavailable t => .unavailable t
  | .failed kind t => .failed kind t

/-- The fault that no repetition can mend: a step lacks data, or a device cannot work. -/
def isFatal : Fault → Bool
  | .step _ _ => true
  | .unavailable _ => true
  | _ => false

end Fault

/-- An act in a scene. -/
abbrev Act (τ ι δ σ α : Type) := ExceptT Fault (StateM (Scene τ ι δ σ)) α

namespace Act

variable {τ ι δ σ α : Type}

/-- Writes a deed into the journal. -/
def note (d : Deed τ ι) : Act τ ι δ σ Unit :=
  modify fun s => { s with journal := ⟨d, s.state⟩ :: s.journal }

/-- What happened meanwhile takes effect. -/
def undergo (i : Influence) : Act τ ι δ σ Unit :=
  modify fun s => { s with
    state := if i.stop then s.state.requestStop else s.state
    files := i.files s.files }

/-- Does an operation of a device and notes it. -/
def operate (op : δ → Answer α × δ) (deed : Except DeviceFault α → Deed τ ι) : Act τ ι δ σ α := do
  let (a, devices) := op (← get).devices
  modify fun s => { s with devices }
  note (deed a.result)
  undergo a.influence
  match a.result with
  | .ok v => return v
  | .error f => throw (.ofDevice f)

/-- Lets time pass. -/
def sleep (r : Rig τ ι δ σ) (length : τ) : Act τ ι δ σ Unit := do
  let (i, devices) := r.devices.sleep length (← get).devices
  modify fun s => { s with devices }
  note (.slept length)
  undergo i

/-- The time. -/
def now (r : Rig τ ι δ σ) : Act τ ι δ σ τ := return r.devices.now (← get).devices

/-- Tells the listener about an event. -/
def tell (r : Rig τ ι δ σ) (level : EventLevel) (message : String) : Act τ ι δ σ Unit := do
  let e : Event := ⟨level, message⟩
  let (_, i, listener) := r.listener.hear e (← get).listener
  modify fun s => { s with listener }
  note (.told e)
  undergo i

/-- A stop was requested, or the signal file is there, which uses it up. -/
def stopAsked : Act τ ι δ σ Bool := do
  let s ← get
  match s.state.poll s.files with
  | .error e => throw (.file e)
  | .ok (state, files, _) =>
    set { s with state, files }
    return state.stopRequested

/-- Goes on with a result, or ends with the fault that a failure is. -/
def lift (fault : ε → Fault) (r : Except ε α) : Act τ ι δ σ α := ExceptT.mk (pure (r.mapError fault))

/-- The outcome of an act, be it a fault. -/
def outcome (a : Act τ ι δ σ α) : Act τ ι δ σ (Except Fault α) := fun s =>
  let (r, s) := a s
  (.ok r, s)

/-- Does the second act after the first, whatever came of that. -/
def followedBy (a : Act τ ι δ σ α) (after : Act τ ι δ σ Unit) : Act τ ι δ σ α := do
  let r ← outcome a
  after
  match r with
  | .ok v => return v
  | .error f => throw f

end Act

end Reroll
