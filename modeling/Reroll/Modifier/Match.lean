import Reroll.Canonical.Template
import Reroll.Document.Convert
import Reroll.Line.Basic
import Reroll.Modifier.Exclusion
import Reroll.Modifier.Spec
import Reroll.Modifier.Template

/-!
# Matching lines against targets

Targets are tried in the order given and, for each one, the lines in theirs; the first pair that
matches wins. A plain target matches a line that contains it, or all its longer words and all its
digits. A target with bounds reads the value off an instance of its template; when recognition
mangled a word, the longer words and any number within the bounds will do. Both fallbacks give
way to the exclusion.
-/

namespace Reroll

/-- Why a line cannot be compared with a target. -/
inductive MatchError where
  | number (e : ConversionError)
  | shape (e : ShapeError)
  deriving DecidableEq

/-- The wording of the reason. -/
def MatchError.message : MatchError → String
  | .number e => e.message
  | .shape e => e.message

namespace Spec

/-- Every word occurs in the text. -/
def allOccur (needles : List (List Char)) (text : List Char) : Bool :=
  needles.all fun w => Text.occursIn w text

/-- The number written by a group of digits. -/
def numberOf (digits : List Char) : Except ConversionError Int :=
  if Decimal.digitLimit < digits.length then .error (.tooManyDigits digits.length)
  else .ok (Text.digitsValue digits)

/-- Some group of digits is a number within the bounds; the groups are read from the left. -/
def anyAdmitted (s : Spec) : List (List Char) → Except ConversionError Bool
  | [] => .ok false
  | digits :: rest =>
    match numberOf digits with
    | .error e => .error e
    | .ok n => if s.admits n then .ok true else s.anyAdmitted rest

/-- The words of a target that are long enough to tell it apart. -/
def keywords (p : Char → Bool) (target : List Char) : List (List Char) :=
  (Text.runsOf p target).filter fun w => 2 < w.length

/-- A line matches a target whose value does not matter. -/
def matchesPlain (s : Spec) (e : Exclusion) (text : List Char) : Except ShapeError Bool :=
  let target := Canonical.canonicalChars s.pattern.toList
  if target.isEmpty then .ok false
  else if Text.occursIn target text then .ok true
  else
    match e.rejects target text with
    | .error err => .error err
    | .ok (some _) => .ok false
    | .ok none =>
      .ok (allOccur (keywords Text.isWord target) text &&
        allOccur (Text.runsOf Text.isDigit target) text)

/-- The words of a template without its signs. -/
def templateWords (target : List Char) : List (List Char) :=
  let bare := target.map fun c => if c = '#' || c = '+' || c = '%' then ' ' else c
  (Text.words bare).filter fun w => 2 < w.length

/-- A line matches a target with bounds. -/
def matchesRanged (s : Spec) (e : Exclusion) (text : List Char) : Except MatchError Bool :=
  let target := Canonical.canonicalTemplateChars Canonical.placeholder.toList s.pattern.toList
  if target.isEmpty then .ok false
  else
    let hit := (Template.ofText? Canonical.placeholder.toList target).bind fun t => t.search text
    match hit.bind fun h => h.numbers.head? with
    | some digits =>
      match numberOf digits with
      | .error err => .error (.number err)
      | .ok n => .ok (s.admits n)
    | none =>
      match e.rejects target text with
      | .error err => .error (.shape err)
      | .ok (some _) => .ok false
      | .ok none =>
        if !allOccur (templateWords target) text then .ok false
        else (s.anyAdmitted (Text.runsOf Text.isDigit text)).mapError .number

/-- A canonical line satisfies a target. -/
def accepts (s : Spec) (e : Exclusion) (text : String) : Except MatchError Bool :=
  if s.ranged then s.matchesRanged e text.toList
  else (s.matchesPlain e text.toList).mapError .shape

end Spec

/-- A target and the line that satisfies it, with their places in the lists they come from. -/
structure Match where
  spec : Spec
  line : Line
  specAt : Nat
  lineAt : Nat

namespace Match

/-- The first line from position `at` on that satisfies the target. -/
def firstLine (s : Spec) (e : Exclusion) (specAt lineAt : Nat) :
    List Line → Except MatchError (Option Match)
  | [] => .ok none
  | line :: rest =>
    match s.accepts e line.canonical with
    | .error err => .error err
    | .ok true => .ok (some { spec := s, line, specAt, lineAt })
    | .ok false => firstLine s e specAt (lineAt + 1) rest

/-- The first match from target number `specAt` on. -/
def firstFrom (e : Exclusion) (lines : List Line) (specAt : Nat) :
    List Spec → Except MatchError (Option Match)
  | [] => .ok none
  | s :: rest =>
    match firstLine s e specAt 0 lines with
    | .error err => .error err
    | .ok (some m) => .ok (some m)
    | .ok none => firstFrom e lines (specAt + 1) rest

/-- The first target, in order, that any line satisfies, with the first such line. -/
def find (lines : List Line) (specs : List Spec) (e : Exclusion) :
    Except MatchError (Option Match) :=
  firstFrom e lines 0 specs

end Match

end Reroll
