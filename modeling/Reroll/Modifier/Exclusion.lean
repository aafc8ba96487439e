import Reroll.Document.Shape
import Reroll.Text.Search
import Reroll.Text.Space

/-!
# Exclusion of scoped modifiers

A modifier about "all spells" is easily confused with one about a single kind of spell. When the
target holds the trigger word and the line holds the context word, a line with an excluded word
that the target lacks is rejected. The context may be taken on trust; one that is no text is
reported when it is looked for.
-/

namespace Reroll

/-- The words by which scoped modifiers are told apart. -/
structure Exclusion where
  trigger : String := "all"
  context : Value := .text "spell"
  words : List String :=
    ["fire", "cold", "lightning", "chaos", "physical", "minion", "melee", "bow", "wand"]
  enabled : Bool := true

namespace Exclusion

/-- The target is one that the exclusion looks at. -/
def concerns (e : Exclusion) (target : List Char) : Bool :=
  e.enabled && !e.trigger.isEmpty && (Text.words target).contains e.trigger.toList

/-- The line holds the context word. Every line holds one that counts as absent. -/
def inContext (e : Exclusion) (text : List Char) : Except ShapeError Bool :=
  match e.context with
  | .text word => .ok (Text.occursIn word.toList text)
  | v => if v.truthy then .error (.notPart v.fullKindName) else .ok true

/-- The first excluded word that the line holds and the target lacks. -/
def excludedWord? (e : Exclusion) (target text : List Char) : Option String :=
  e.words.find? fun w => Text.occursIn w.toList text && !Text.occursIn w.toList target

/-- The word for which a line is rejected as an instance of a target. -/
def rejects (e : Exclusion) (target text : List Char) : Except ShapeError (Option String) :=
  if e.concerns target then
    match e.inContext text with
    | .error err => .error err
    | .ok true => .ok (e.excludedWord? target text)
    | .ok false => .ok none
  else .ok none

end Exclusion

end Reroll
