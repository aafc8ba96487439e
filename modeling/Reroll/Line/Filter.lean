import Reroll.Canonical.Text
import Reroll.Text.Digit

/-!
# What looks like a modifier

A raw line must start the way modifiers do. Its canonical text must be mostly letters and digits
and hold a signal: a number, a sign or a word that modifiers are made of.
-/

namespace Reroll.Line

/-- The character is the given small letter in either case; dotless and dotted i and the long s
count as well. -/
def sameLetter (letter c : Char) : Bool :=
  Text.lowerChar c == letter || (letter == 'i' && c == 'ı') || (letter == 's' && c == 'ſ')

/-- What follows a word at the start of the text, in either case. -/
def afterWord? : List Char → List Char → Option (List Char)
  | [], cs => some cs
  | _ :: _, [] => none
  | letter :: word, c :: cs => if sameLetter letter c then afterWord? word cs else none

/-- Words that open a modifier when a blank follows. -/
def openingWords : List String :=
  ["to", "increased", "reduced", "more", "less", "grants", "adds", "all", "spell", "attack", "cold",
    "fire", "lightning", "physical", "chaos", "elemental", "spirit", "strength", "dexterity",
    "intelligence"]

/-- Words that open a modifier when the word ends there. -/
def openingNouns : List String :=
  ["life", "mana", "energy", "damage", "armor", "evasion", "resistance", "spirit"]

/-- The raw text starts like a modifier: with a sign, a digit or an opening word. -/
def looksLikeStart (cs : List Char) : Bool :=
  (match cs with
    | [] => false
    | c :: _ => c == '+' || c == '-' || Text.isDigit c) ||
  (openingWords.any fun w => (afterWord? w.toList cs).any fun rest => rest.head?.any Text.isSpace) ||
  (openingNouns.any fun w => (afterWord? w.toList cs).any fun rest => !rest.head?.any Text.isWord)

/-- The share of small letters and digits; empty text has none. -/
def density (cs : List Char) : Float :=
  if cs.isEmpty then 0.0
  else Float.ofNat (cs.filter Canonical.isAlnum).length / Float.ofNat cs.length

/-- Words that signal a modifier. -/
def signalWords : List String :=
  ["increased", "reduced", "more", "less", "to", "all", "spell", "attack", "grants", "adds"]

/-- A signal word stands at the start of the text as a whole word. -/
def signalAt (cs : List Char) : Bool :=
  signalWords.any fun w =>
    w.toList.isPrefixOf cs && !(cs.drop w.toList.length).head?.any Text.isWord

/-- A signal word occurs as a whole word. -/
def signalFrom (afterWord : Bool) : List Char → Bool
  | [] => false
  | c :: cs => (!afterWord && signalAt (c :: cs)) || signalFrom (Text.isWord c) cs

/-- A sign, a number or a signal word occurs. -/
def hasSignal (cs : List Char) : Bool :=
  (cs.any fun c => c == '+' || c == '%' || c == '-' || Text.isDigit c) || signalFrom false cs

end Reroll.Line
