import Reroll.Canonical.Template
import Reroll.Text.Digit

/-!
# Modifier families

A family is a canonical template in which every number is a placeholder and neighbouring
placeholders are one, so all rolls of one modifier share a family.
-/

namespace Reroll.Catalog

/-- The size of a number at the start: digits and, when digits follow, a point and those. -/
def numberSize (cs : List Char) : Nat :=
  let whole := (cs.takeWhile Text.isDigit).length
  match cs.drop whole with
  | '.' :: rest =>
    let fraction := (rest.takeWhile Text.isDigit).length
    if fraction = 0 then whole else whole + 1 + fraction
  | _ => whole

/-- Writes a placeholder for every number after `skip` characters already replaced. -/
def markNumbersFrom (skip : Nat) : List Char → List Char
  | [] => []
  | c :: cs =>
    match skip with
    | k + 1 => markNumbersFrom k cs
    | 0 =>
      if Text.isDigit c then '#' :: markNumbersFrom (numberSize (c :: cs) - 1) cs
      else c :: markNumbersFrom 0 cs

/-- The characters from the start up to the last placeholder that only blanks separate from the
one before; `seen` are counted and `pending` are blanks not yet counted. -/
def placeholderRun (seen pending : Nat) : List Char → Nat
  | [] => seen
  | c :: cs =>
    if c = '#' then placeholderRun (seen + pending + 1) 0 cs
    else if Text.isSpace c then placeholderRun seen (pending + 1) cs
    else seen

/-- Writes one placeholder for neighbouring ones after `skip` characters already replaced. -/
def mergeFrom (skip : Nat) : List Char → List Char
  | [] => []
  | c :: cs =>
    match skip with
    | k + 1 => mergeFrom k cs
    | 0 => if c = '#' then '#' :: mergeFrom (placeholderRun 0 0 cs) cs else c :: mergeFrom 0 cs

/-- The family of a modifier text. -/
def familyChars (cs : List Char) : List Char :=
  mergeFrom 0 (markNumbersFrom 0
    (Canonical.canonicalTemplateChars Canonical.placeholder.toList cs))

/-- The family of a modifier text. -/
def family (s : String) : String := String.ofList (familyChars s.toList)

end Reroll.Catalog
