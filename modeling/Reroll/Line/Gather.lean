import Reroll.Catalog.Basic
import Reroll.Line.Basic
import Reroll.Line.Filter
import Reroll.Ranking.Merge

/-!
# Gathering lines

The readings of several images of one tooltip are filtered, merged and ranked. Of the readings
with the same canonical text the most confident is kept, then the longest, then the first in
the order of texts. The kept lines are ranked by confidence, then length, then canonical text,
so neither the images nor the order within them matter.
-/

namespace Reroll.Line

/-- What a reading must reach to be kept: a length and a density, which should be numbers. -/
structure Thresholds where
  length : Value := .int 4
  density : Value := .num (.float 0.45)

/-- The canonical text is that of a known modifier, or nothing is known. -/
def isKnown (known : Option Catalog) (canonical : String) : Bool :=
  match known with
  | none => true
  | some c => c.size == 0 || c.knows canonical

/-- The text is shorter than it should be. -/
def isShort (t : Thresholds) (cs : List Char) : Except OperandError Bool :=
  (Value.int cs.length).related .below t.length

/-- The text has fewer letters and digits than it should have. -/
def isSparse (t : Thresholds) (cs : List Char) : Except OperandError Bool :=
  (Value.num (.float (density cs))).related .below t.density

/-- The canonical text passes the filters and, if there are known modifiers, is one of them. -/
def isEligible (t : Thresholds) (known : Option Catalog) (canonical : String) :
    Except OperandError Bool := do
  let cs := canonical.toList
  if ← isShort t cs then return false
  if ← isSparse t cs then return false
  return hasSignal cs && isKnown known canonical

/-- The line that a reading becomes, if it passes the filters. The confidence is only looked at
then. -/
def ofReading? (t : Thresholds) (known : Option Catalog) (r : Reading) :
    Except ReadingError (Option Line) :=
  match r.text.textFor "strip" with
  | .error e => .error (.shape e)
  | .ok text =>
    let raw := Text.strip text.toList
    match isShort t raw with
    | .error e => .error (.threshold e)
    | .ok true => .ok none
    | .ok false =>
      if !looksLikeStart raw then .ok none
      else
        let canonical := String.ofList (Canonical.canonicalChars raw)
        match isEligible t known canonical with
        | .error e => .error (.threshold e)
        | .ok false => .ok none
        | .ok true =>
          match r.confidence.toReal with
          | .error e => .error (.confidence e)
          | .ok confidence => .ok (some { text := String.ofList raw, canonical, confidence })

/-- The first place lies strictly above the second; without a place nothing does. -/
def rankAbove : Option Magnitude → Option Magnitude → Bool
  | some p, some q => q.lt p
  | _, _ => false

/-- Both places are there and equal. -/
def rankSame : Option Magnitude → Option Magnitude → Bool
  | some p, some q => !p.lt q && !q.lt p
  | _, _ => false

/-- The first line replaces the second, which has the same canonical text. -/
def replaces (candidate current : Line) : Bool :=
  if !rankSame candidate.rank? current.rank? then rankAbove candidate.rank? current.rank?
  else if candidate.text.length ≠ current.text.length then
    decide (current.text.length < candidate.text.length)
  else decide (candidate.text < current.text)

/-- Merges a line into lines with distinct canonical texts. -/
def merge (candidate : Line) : List Line → List Line
  | [] => [candidate]
  | l :: rest =>
    if l.canonical = candidate.canonical then
      (if candidate.replaces l then candidate :: rest else l :: rest)
    else l :: merge candidate rest

/-- The first line is ranked before the second. -/
def before (a b : Line) : Bool :=
  if !rankSame a.rank? b.rank? then rankAbove a.rank? b.rank?
  else if a.text.length ≠ b.text.length then
    decide (b.text.length < a.text.length)
  else decide (a.canonical < b.canonical)

/-- Ranks lines. When every confidence has a place on the number line any stable sort gives the
same; else the runs that the lines come in decide. -/
def rank (lines : List Line) : List Line :=
  if lines.all fun l => l.rank?.isSome then lines.mergeSort fun a b => !b.before a
  else Ranking.sort before lines

/-- The lines that readings become, merged in order into lines kept already. -/
def mergeAll (t : Thresholds) (known : Option Catalog) (done : List Line) :
    List Reading → Except ReadingError (List Line)
  | [] => .ok done
  | r :: rest =>
    match ofReading? t known r with
    | .error e => .error e
    | .ok none => mergeAll t known done rest
    | .ok (some l) => mergeAll t known (merge l done) rest

/-- The lines of a tooltip from the readings of its images. -/
def gather (sets : List (List Reading)) (known : Option Catalog) (t : Thresholds) :
    Except ReadingError (List Line) :=
  (mergeAll t known [] sets.flatten).map rank

end Reroll.Line
