import Reroll.Text.Lower
import Reroll.Text.Search

/-!
# Paths

A path is a list of names below the working directory or below the root. Empty parts and single
dots vanish when a path is read; double dots stay, since the directory before them may be missing.
Two slashes in front are kept, more of them are one.
-/

namespace Reroll

/-- A path as it is written; one with slashes in front starts at the root. -/
structure Path where
  slashes : Nat := 0
  names : List String := []
  deriving DecidableEq

namespace Path

/-- The slashes in front of a path with so many of them. -/
def slashesKept (n : Nat) : Nat := if n ≤ 2 then n else 1

/-- Reads a path. -/
def ofText (s : String) : Path :=
  let cs := s.toList
  let parts := (Text.splitOn ['/'] cs).map String.ofList
  { slashes := slashesKept (cs.takeWhile (· == '/')).length
    names := parts.filter fun p => p ≠ "" && p ≠ "." }

/-- The path starts at the root. -/
def isAbsolute (p : Path) : Bool := p.slashes != 0

/-- The text of a path; the working directory is a single dot. -/
def text (p : Path) : String :=
  if p.slashes = 0 && p.names.isEmpty then "."
  else String.ofList (List.replicate p.slashes '/') ++ String.intercalate "/" p.names

/-- A path below another one; an absolute path stands for itself. -/
def join (base p : Path) : Path :=
  if p.isAbsolute then p else { base with names := base.names ++ p.names }

/-- The directory that holds the path. -/
def parent (p : Path) : Path := { p with names := p.names.dropLast }

/-- The last name. -/
def name (p : Path) : String := p.names.getLast?.getD ""

/-- The end of the name from its last dot on, unless that dot comes first or last. -/
def suffix (p : Path) : String :=
  let reversed := p.name.toList.reverse
  let ending := reversed.takeWhile (· != '.')
  let start := reversed.drop (ending.length + 1)
  if ending.length = reversed.length || ending.isEmpty || start.isEmpty then ""
  else String.ofList ('.' :: ending.reverse)

/-- The suffix in lower case. -/
def lowerSuffix (p : Path) : String := String.ofList (Text.lower p.suffix.toList)

/-- A NUL occurs in the path, which no system call takes. -/
def hasNul (p : Path) : Bool := p.names.any fun n => n.toList.contains '\x00'

end Path

end Reroll
