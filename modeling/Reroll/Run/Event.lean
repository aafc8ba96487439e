import Reroll.Document.Value
import Reroll.Files.Tree
import Reroll.Log

/-!
# Events

A run tells its user what it does. Telling never disturbs the run: a listener that fails is
reported to the operator and otherwise ignored.
-/

namespace Reroll

/-- How much an event matters, by its name. -/
inductive EventLevel where
  | debug
  | info
  | success
  | warning
  | error
  | other (name : String)
  deriving DecidableEq, Repr

namespace EventLevel

/-- The name of a level. -/
def name : EventLevel → String
  | .debug => "debug"
  | .info => "info"
  | .success => "success"
  | .warning => "warning"
  | .error => "error"
  | .other n => n

/-- The level with the given name. -/
def ofName (s : String) : EventLevel :=
  if s = "debug" then .debug
  else if s = "info" then .info
  else if s = "success" then .success
  else if s = "warning" then .warning
  else if s = "error" then .error
  else .other s

/-- The level of a log record about the event; unknown levels are plain information. -/
def logLevel : EventLevel → LogLevel
  | .debug => .debug
  | .info => .info
  | .success => .success
  | .warning => .warning
  | .error => .error
  | .other _ => .info

end EventLevel

/-- Something a user is told. -/
structure Event where
  level : EventLevel
  message : String
  deriving DecidableEq

/-- The log record about an event. -/
def Event.record (e : Event) : LogRecord := ⟨e.level.logLevel, e.message⟩

/-- What happens outside while an operation is under way: a stop may be requested, and files may
change. -/
structure Influence where
  stop : Bool := false
  files : Files → Files := id

/-- A listener with a state of its own: it may fail with a text, and things may happen meanwhile. -/
structure Listener (σ : Type) where
  hear : Event → σ → Option String × Influence × σ

namespace Listener

/-- The listener that does nothing. -/
def silent : Listener Unit := ⟨fun _ s => (none, {}, s)⟩

/-- The name under which records about events carry the part of the program that writes them. -/
def partKey : String := "module"

/-- A value bound to the records of a listener has a name that is taken. -/
structure BindingError where
  name : String

/-- The wording of the error. -/
def BindingError.message (e : BindingError) : String :=
  "loguru._logger.Logger.bind() got multiple values for keyword argument '" ++ e.name ++ "'"

/-- What the records of a listener carry: the part of the program and the values bound to them. -/
def bound (extra : List (Value × Value)) : Except BindingError (List (Value × Value)) :=
  if (Value.lookup partKey extra).isSome then .error ⟨partKey⟩
  else .ok ((.text partKey, .text "AutoCrafter") :: extra)

/-- The listener that keeps a log. -/
def logging : Listener (List LogRecord) := ⟨fun e log => (none, {}, log ++ [e.record])⟩

/-- What the operator is told about a listener that failed. -/
def complaint (failure : Option String) : List LogRecord :=
  match failure with
  | none => []
  | some text => [⟨.warning, "event sink failed: " ++ text⟩]

end Listener

end Reroll
