import Reroll.Catalog.Family
import Reroll.Document.Shape

/-!
# Catalogs of known modifiers

A catalog is a set of families. A line is known when its family is in the catalog, when it
contains one, or when it is a long fragment of one.
-/

namespace Reroll

/-- A set of families in ascending order. -/
structure Catalog where
  families : List String

namespace Catalog

/-- A catalog without families. -/
def empty : Catalog := ⟨[]⟩

/-- Inserts a family at its place in ascending order, unless it is there already. -/
def insertSorted (family : String) : List String → List String
  | [] => [family]
  | f :: rest =>
    if family = f then f :: rest
    else if family < f then family :: f :: rest
    else f :: insertSorted family rest

/-- Adds the family of a text; a text without one adds nothing. -/
def add (c : Catalog) (text : String) : Catalog :=
  let f := family text
  if f.isEmpty then c else ⟨insertSorted f c.families⟩

/-- The catalog of the families of some texts. -/
def ofTexts (texts : List String) : Catalog := texts.foldl add empty

/-- The number of families. -/
def size (c : Catalog) : Nat := c.families.length

/-- The share of a family that a line must be to count as a fragment of it. -/
def fragmentRatio : Float := 0.6

/-- The line is long enough to be a fragment of the family. -/
def isLongFragment (line family : String) : Bool :=
  Float.ofNat family.length * fragmentRatio ≤ Float.ofNat line.length

/-- A family of the catalog vouches for a line with the given family of its own. -/
def vouches (line family : String) : Bool :=
  Text.occursIn family.toList line.toList ||
    (Text.occursIn line.toList family.toList && isLongFragment line family)

/-- The line is an instance, or a long fragment, of a known family. -/
def knows (c : Catalog) (line : String) : Bool :=
  let f := family line
  if f.isEmpty then false else c.families.contains f || c.families.any (vouches f)

/-- The text that a value adds to a catalog; what counts as absent adds nothing. -/
def textOf (v : Value) : Except ShapeError String :=
  if v.truthy then
    match v with
    | .text s => .ok s
    | .null => .ok ""
    | .bool _ => .error (.notContainer v.fullKindName)
    | .num _ => .error (.notContainer v.fullKindName)
    | .date _ => .error (.notContainer v.fullKindName)
    | .moment _ => .error (.notContainer v.fullKindName)
    | v =>
      match v.walk with
      | .error e => .error e
      | .ok items =>
        let marked := items.any fun item =>
          match item with
          | .text s => s == Canonical.placeholder
          | _ => false
        .error (.lacks v.fullKindName (if marked then "replace" else "lower"))
  else .ok ""

/-- The catalog of the families of some values. -/
def ofValues (values : List Value) : Except ShapeError Catalog := do
  return ofTexts (← values.mapM textOf)

end Catalog

end Reroll
