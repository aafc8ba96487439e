import Reroll.Text.Digit
import Reroll.Text.Search

/-!
# Searching for an instance of a template

A template is literal text around placeholders. An instance has a number, one or more digits, at
each placeholder. The search finds the leftmost instance; there every number, from the first to
the last, is as long as the rest of the template allows.
-/

namespace Reroll

/-- The literal parts around the placeholders, one more than there are placeholders. -/
structure Template where
  parts : List (List Char)

namespace Template

/-- A place where an instance of a template was found. -/
structure Hit where
  start : Nat
  stop : Nat
  numbers : List (List Char)

/-- The template written with the given placeholder, if it occurs. -/
def ofText? (mark cs : List Char) : Option Template :=
  if Text.occursIn mark cs then some ⟨Text.splitOn mark cs⟩ else none

/-- Why a text is not read as a template: a placeholder must be visible. -/
inductive MarkError where
  | empty

/-- The wording of the error. -/
def MarkError.message : MarkError → String
  | .empty => "empty separator"

/-- Reads a template written with a placeholder of the caller's choice. -/
def read (mark cs : List Char) : Except MarkError (Option Template) :=
  if mark.isEmpty then .error .empty else .ok (ofText? mark cs)

/-- The first size from `size` down to one whose remainder `rest` accepts. -/
def longest? (rest : List Char → Option (List Nat)) (cs : List Char) : Nat → Option (List Nat)
  | 0 => none
  | size + 1 =>
    match rest (cs.drop (size + 1)) with
    | some sizes => some ((size + 1) :: sizes)
    | none => longest? rest cs size

/-- The sizes of the numbers of an instance at the start of the text. -/
def sizesAt? : List (List Char) → List Char → Option (List Nat)
  | [], _ => none
  | [last], cs => if last.isPrefixOf cs then some [] else none
  | part :: more, cs =>
    if part.isPrefixOf cs then
      let rest := cs.drop part.length
      longest? (sizesAt? more) rest (rest.takeWhile Text.isDigit).length
    else none

/-- The numbers of an instance at the start of the text, and the size of the instance. -/
def cut : List (List Char) → List Nat → List Char → List (List Char) × Nat
  | part :: more, size :: sizes, cs =>
    let rest := cs.drop part.length
    let (numbers, length) := cut more sizes (rest.drop size)
    (rest.take size :: numbers, part.length + size + length)
  | part :: _, [], _ => ([], part.length)
  | [], _, _ => ([], 0)

/-- The leftmost instance in the text, which starts at position `start`. -/
def searchFrom (t : Template) (start : Nat) (cs : List Char) : Option Hit :=
  match sizesAt? t.parts cs with
  | some sizes =>
    let (numbers, length) := cut t.parts sizes cs
    some { start, stop := start + length, numbers }
  | none =>
    match cs with
    | [] => none
    | _ :: rest => searchFrom t (start + 1) rest
termination_by cs.length

/-- The leftmost instance in the text. -/
def search (t : Template) (cs : List Char) : Option Hit := t.searchFrom 0 cs

/-- Characters that need a backslash in the notation of a template. -/
def isSpecial (c : Char) : Bool :=
  "()[]\x7b\x7d?*+-|^$\\.&~# \t\n\r\x0b\x0c".toList.contains c

/-- A literal part in the notation of a template. -/
def escapedPart (cs : List Char) : List Char :=
  cs.flatMap fun c => if isSpecial c then ['\\', c] else [c]

/-- The template as a regular expression with one group of digits for each placeholder. -/
def notated (t : Template) : String :=
  String.intercalate "(\\d+)" (t.parts.map fun p => String.ofList (escapedPart p))

end Template

end Reroll
