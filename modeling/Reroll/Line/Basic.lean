import Reroll.Document.Compare
import Reroll.Document.Convert
import Reroll.Document.Shape

/-!
# Recognized lines

Recognition gives readings: a text, or nothing, with a confidence in whatever form the engine
reports it. A reading that looks like a modifier becomes a line.
-/

namespace Reroll

/-- One line of text recognized in one image. -/
structure Reading where
  text : Value
  confidence : Value

/-- A line of a tooltip that may be a modifier. -/
structure Line where
  text : String
  canonical : String
  confidence : Number

/-- Why a reading cannot be used at all. -/
inductive ReadingError where
  | shape (e : ShapeError)
  | threshold (e : OperandError)
  | confidence (e : ConversionError)

namespace ReadingError

/-- The wording of the reason. -/
def message : ReadingError → String
  | .shape e => e.message
  | .threshold e => e.message
  | .confidence e => e.message

end ReadingError

namespace Line

/-- The place of a line's confidence on the number line; a NaN has none. -/
def rank? (l : Line) : Option Magnitude := l.confidence.magnitude?

/-- The lines to show in a short summary: the first few that are not very short. A negative limit
leaves out as many at the end. -/
def summary (lines : List Line) (limit : Int := 2) : String :=
  let texts := (lines.filter fun l => 5 < l.text.length).map Line.text
  let count := if limit < 0 then (texts.length + limit).toNat else limit.toNat
  String.intercalate " | " (texts.take count)

end Line

end Reroll
