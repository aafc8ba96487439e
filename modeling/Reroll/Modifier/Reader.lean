import Reroll.Document.Convert
import Reroll.Modifier.Spec
import Reroll.Text.Space

/-!
# Reading targets

A document gives a target as a plain text or as a mapping with the pattern and its bounds. A bound
makes the value matter, whether or not the mapping says so.
-/

namespace Reroll

/-- Why a value is no target. -/
inductive SpecReadError where
  | unsupported (shown : String)
  | conversion (e : ConversionError)
  | parts (e : SpecError)

namespace SpecError

/-- The wording of the reason. -/
def message : SpecError → String
  | .unbounded pattern => "range modifier needs a bound: " ++ Text.quoted pattern
  | .crossed low high pattern =>
    if low.isWritable && high.isWritable then
      "min_value " ++ low.text ++ " > max_value " ++ high.text ++ ": " ++ Text.quoted pattern
    else ConversionError.unwritable.message

end SpecError

namespace SpecReadError

/-- The wording of the reason. -/
def message : SpecReadError → String
  | .unsupported shown => "unsupported modifier value: " ++ shown
  | .conversion e => e.message
  | .parts e => e.message

/-- The value has a bound outside the range of whole numbers, which is no mere slip. -/
def overflow? : SpecReadError → Option ConversionError
  | .conversion e => if e.isOverflow then some e else none
  | _ => none

end SpecReadError

namespace Spec

/-- A bound as a whole number; a missing or null one is none. -/
def readBound (fields : List (Value × Value)) (keys : List String) :
    Except SpecReadError (Option Number) :=
  match Value.firstGiven? fields keys with
  | none => .ok none
  | some v =>
    match v.toInt with
    | .error e => .error (.conversion e)
    | .ok i => .ok (some (.int i))

/-- The mapping says that the value matters or gives a bound for it. -/
def asksForValue (fields : List (Value × Value)) : Bool :=
  (["useRange", "use_range", "hasRange"].any fun key => (Value.get fields key).truthy) ||
    (Value.firstGiven? fields ["minValue", "min_value"]).isSome ||
    (Value.firstGiven? fields ["maxValue", "max_value"]).isSome

/-- The pattern of a mapping, stripped. -/
def readPattern (fields : List (Value × Value)) : Except SpecReadError String :=
  let given := ((Value.get fields "pattern").orElse (Value.get fields "text")).orElse (.text "")
  match given.writtenPlain with
  | .ok text => .ok (Text.stripped text)
  | .error e => .error (.conversion e)

/-- Reads a target. -/
def ofValue (v : Value) : Except SpecReadError Spec :=
  match v.opened with
  | .text s => .ok (plain (Text.stripped s))
  | .map fields => do
    let pattern ← readPattern fields
    let low ← readBound fields ["minValue", "min_value"]
    let high ← readBound fields ["maxValue", "max_value"]
    (make pattern low high (asksForValue fields)).mapError .parts
  | _ =>
    match v.written with
    | .ok shown => .error (.unsupported shown)
    | .error e => .error (.conversion e)

end Spec

end Reroll
