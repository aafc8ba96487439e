import Reroll.Files.Tree
import Reroll.Log
import Reroll.Log.Naming
import Reroll.Log.Rotation
import Reroll.Document.Shown
import Reroll.Settings.Basic

/-!
# Where records are kept

Records are shown on the console, unless that is switched off, and kept in two files below a
directory that the settings name: one from the set level on, one of errors alone. A level is given
by its name or by its weight.
-/

namespace Reroll

/-- Why no records are kept. -/
inductive LogError where
  | unknownLevel (name : String)
  | negativeLevel (weight : Int)
  | levelKind (kind : String)
  | shape (e : ShapeError)
  | file (e : FileError)
  | naming (e : NamingError)
  | rotation (e : RotationError)

/-- The wording of the reason. -/
def LogError.message : LogError → String
  | .unknownLevel name => "Level '" ++ name ++ "' does not exist"
  | .negativeLevel weight =>
    "Invalid level value, it should be a positive integer, not: " ++ toString weight
  | .levelKind kind => "Invalid level, it should be an integer or a string, not: '" ++ kind ++ "'"
  | .shape e => e.message
  | .file e => e.message
  | .naming e => e.message
  | .rotation e => e.message

namespace Log

/-- The level with the given name. -/
def levelNamed (name : String) : Except LogError LogLevel :=
  match LogLevel.ofName? name with
  | some l => .ok l
  | none => .error (.unknownLevel name)

/-- The weight from which on records are kept. -/
def leastWeight (level : Value) : Except LogError Nat :=
  let weight (n : Int) : Except LogError Nat :=
    if n < 0 then .error (.negativeLevel n) else .ok n.toNat
  match level with
  | .text name => (levelNamed name).map LogLevel.severity
  | .num (.int n) => weight n
  | .bool b => weight (if b then 1 else 0)
  | v => .error (.levelKind v.kindName)

/-- The days for which old files of errors are kept, twice as many as for others. -/
def doubled : Value → Value
  | .num (.int n) => .int (2 * n)
  | .num (.float x) => .num (.float (2 * x))
  | .text s => .text (s ++ s)
  | v => v

/-- The settings say when files are replaced and for how many days old ones are kept. -/
def checkRotation (s : Settings) (days : Value) : Except LogError Unit :=
  (do
    Rotation.check s.logRotation
    Rotation.checkRetention (days.plain ++ " days")).mapError .rotation

/-- Sets up what is kept: nothing without a directory, and otherwise records of at least the weight
given back, with the directory made. -/
def setUp (s : Settings) (files : Files) : Except LogError (Option Nat × Files) := do
  if s.logConsole.truthy then discard (leastWeight s.logLevel)
  match ← s.logPath.pathText?.mapError .shape with
  | none => return (none, files)
  | some directory =>
    let place := Path.ofText directory
    let files ← (files.makeDirectories place).mapError .file
    let fields ← (Naming.fields (Naming.ofDirectory place.text)).mapError .naming
    checkRotation s s.logRetentionDays
    (Naming.checkFields fields).mapError .naming
    let weight ← leastWeight s.logLevel
    checkRotation s (doubled s.logRetentionDays)
    return (some weight, files)

/-- What a file shows of a record: its message up to the first end of a line. -/
def LogRecord.shown (r : LogRecord) : LogRecord :=
  { r with message := String.ofList (r.message.toList.takeWhile fun c => c != '\n' && c != '\r') }

/-- What the two files show: one of records of at least the given weight, one of errors alone. -/
def files (weight : Nat) (records : List LogRecord) : List LogRecord × List LogRecord :=
  ((records.filter fun r => weight ≤ r.level.severity).map LogRecord.shown,
    (atLeast .error records).map LogRecord.shown)

end Log

end Reroll
