import Reroll.Http.Label.Composed
import Reroll.Http.Label.Direction
import Reroll.Http.Label.Joining
import Reroll.Http.Label.Letter
import Reroll.Http.Label.Script
import Reroll.Http.Punycode
import Reroll.Text.Mark
import Reroll.Text.Search

/-!
# Labels of names

A name on the web consists of labels. An international label holds small letters, digits and hyphens
of all scripts, composed and in one direction; some signs stand only beside certain letters. Where
only ASCII is possible it is written with a mark in front and its other characters in figures.
-/

namespace Reroll.Label

/-- The character kills the vowel of the letter before it. -/
def killsVowel (c : Char) : Bool := markPlace c.toNat == 9

/-- Digits of the Arabic script. -/
def isArabicDigit (c : Char) : Bool := '\u0660' ≤ c && c ≤ '\u0669'

/-- Digits of the Arabic script in its eastern forms. -/
def isEasternDigit (c : Char) : Bool := '\u06f0' ≤ c && c ≤ '\u06f9'

/-- Letters around a place are joined across it. -/
def isJoint (before after : List Char) : Bool :=
  (before.dropWhile isJoinedAcross).head?.any joinsOn &&
    (after.dropWhile isJoinedAcross).head?.any joinsBack

/-- A character may stand in a label between others, those before it the latest first. -/
def fits (label before : List Char) (c : Char) (after : List Char) : Bool :=
  if isLetter c then true
  else if c = '\u00b7' then before.head? == some 'l' && after.head? == some 'l'
  else if c = '\u0375' then after.head?.any fun d => greekRanges.contains d.toNat
  else if c = '\u05f3' || c = '\u05f4' then
    before.head?.any fun d => hebrewRanges.contains d.toNat
  else if c = '\u30fb' then label.any fun d => japaneseRanges.contains d.toNat
  else if isArabicDigit c then !label.any isEasternDigit
  else if isEasternDigit c then !label.any isArabicDigit
  else if c = '\u200c' then before.head?.any killsVowel || isJoint before after
  else if c = '\u200d' then before.head?.any killsVowel
  else false

/-- Each of the characters fits, given those before them, the latest first. -/
def allFit (label before : List Char) : List Char → Bool
  | [] => true
  | c :: after => fits label before c after && allFit label (c :: before) after

/-- Hyphens stand neither at an end nor together in the third and fourth place. -/
def hasSoundHyphens (label : List Char) : Bool :=
  (label.drop 2).take 2 != ['-', '-'] && label.head? != some '-' && label.getLast? != some '-'

/-- A label as it is meant. -/
def isSound (label : List Char) : Bool :=
  label.head?.any (fun c => !Text.isMark c) && hasSoundHyphens label &&
    allFit label [] label && isComposed label && isDirected label

/-- What stands in front of an international label in ASCII. -/
def mark : List Char := "xn--".toList

/-- The label that a label in ASCII stands for. -/
def ofAscii? (label : List Char) : Option (List Char) :=
  if mark.isPrefixOf label then
    let figures := label.drop mark.length
    if figures.isEmpty || figures.getLast? == some '-' then none
    else (Punycode.decode? figures).filter isSound
  else if isSound label then some label
  else none

/-- The most characters of a label in ASCII. -/
def lengthLimit : Nat := 63

/-- A label in ASCII. -/
def toAscii? (label : List Char) : Option (List Char) :=
  let plain :=
    if label.all fun c => c.toNat < 0x80 then (ofAscii? label).map fun _ => label
    else if isSound label then some (mark ++ Punycode.encode label)
    else none
  plain.filter fun l => l.length ≤ lengthLimit

/-- The characters that separate labels. -/
def isEnd (c : Char) : Bool := c == '.' || c == '\u3002' || c == '\uff0e' || c == '\uff61'

/-- The labels of a name, and whether an end stands behind the last one. -/
def labelsOf (name : List Char) : List (List Char) × Bool :=
  let labels := Text.splitOn ['.'] (name.map fun c => if isEnd c then '.' else c)
  if labels.getLast? == some [] then (labels.dropLast, true) else (labels, false)

/-- The most characters of a name in ASCII, without an end behind its last label. -/
def nameLimit : Nat := 253

/-- A name in ASCII. -/
def nameToAscii? (name : List Char) : Option (List Char) :=
  let (labels, ended) := labelsOf name
  match labels.mapM toAscii? with
  | none => none
  | some plain =>
    let joined := (plain.intersperse ['.']).flatten
    if nameLimit < joined.length then none else some (if ended then joined ++ ['.'] else joined)

/-- All labels of a name in ASCII stand for labels. -/
def isReadable (name : List Char) : Bool := (labelsOf name).1.all fun l => (ofAscii? l).isSome

end Reroll.Label
