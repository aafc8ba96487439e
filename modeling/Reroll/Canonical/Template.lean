import Reroll.Canonical.Text

/-!
# Canonical templates

A template marks the numbers of a modifier by a placeholder. Canonical text would drop it like any
other symbol, so a reserved word stands in for the placeholder while the rest is made canonical.
-/

namespace Reroll.Canonical

/-- The placeholder for a number in a template. -/
def placeholder : String := "#"

/-- The reserved word that stands in for a placeholder. -/
def standIn : List Char := "zqplaceholderqz".toList

/-- The canonical form of a template with the given placeholder. -/
def canonicalTemplateChars (mark cs : List Char) : List Char :=
  if mark.isEmpty || !Text.occursIn mark cs then canonicalChars cs
  else Text.replace standIn mark (canonicalChars (Text.replace mark standIn cs))

/-- The canonical form of a template. -/
def canonicalTemplate (s : String) (mark : String := placeholder) : String :=
  String.ofList (canonicalTemplateChars mark.toList s.toList)

end Reroll.Canonical
