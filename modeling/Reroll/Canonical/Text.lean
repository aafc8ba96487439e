import Reroll.Text.Lower
import Reroll.Text.Search
import Reroll.Text.Space
import Reroll.Text.Word

/-!
# Canonical modifier text

Recognition of stylised fonts returns the same modifier with different case, dashes, brackets and
stray punctuation. The canonical text is one comparable form for all of those: small ASCII
letters, digits, `%`, `+`, `-` and `.`, with single spaces between words and none at the ends.
Where recognition reads "skill gems" the item says "skills", so the two are one.
-/

namespace Reroll.Canonical

/-- Dashes that stand for a minus. -/
def isDash (c : Char) : Bool := c == '–' || c == '—' || c == '−'

/-- A dash becomes a minus and a multiplication sign the letter x. -/
def plainSign (c : Char) : Char := if isDash c then '-' else if c = '×' then 'x' else c

/-- Brackets disappear without leaving a space. -/
def isBracket (c : Char) : Bool := c == '[' || c == ']' || c == '(' || c == ')'

/-- Punctuation that separates words. -/
def isSeparator (c : Char) : Bool := c == ':' || c == ';' || c == '|'

/-- Small letters and digits of ASCII. -/
def isAlnum (c : Char) : Bool := ('a' ≤ c && c ≤ 'z') || ('0' ≤ c && c ≤ '9')

/-- The characters of canonical text. -/
def isCanonicalChar (c : Char) : Bool :=
  isAlnum c || c == '%' || c == '+' || c == '-' || c == '.' || c == ' '

/-- The size of "gem" or "gems" at the start, when the word ends there. -/
def gemSize? (cs : List Char) : Option Nat :=
  if "gem".toList.isPrefixOf cs then
    let rest := cs.drop 3
    let size := if rest.head? == some 's' then 4 else 3
    if (cs.drop size).head?.any Text.isWord then none else some size
  else none

/-- The size of "skill", blanks and "gem" or "gems" at the start, when the last word ends there. -/
def skillGemSize? (cs : List Char) : Option Nat :=
  if "skill".toList.isPrefixOf cs then
    let rest := cs.drop 5
    let blanks := (rest.takeWhile Text.isSpace).length
    if blanks = 0 then none else (gemSize? (rest.drop blanks)).map (5 + blanks + ·)
  else none

/-- Folds every "skill gem" that starts a word, after `skip` characters already folded. -/
def foldFrom (afterWord : Bool) (skip : Nat) : List Char → List Char
  | [] => []
  | c :: cs =>
    match skip with
    | k + 1 => foldFrom (Text.isWord c) k cs
    | 0 =>
      match if afterWord then none else skillGemSize? (c :: cs) with
      | some size => "skills".toList ++ foldFrom (Text.isWord c) (size - 1) cs
      | none => c :: foldFrom (Text.isWord c) 0 cs

/-- Writes every whole "skill gem" or "skill gems" as "skills". -/
def foldSkillGems (cs : List Char) : List Char := foldFrom false 0 cs

/-- A character outside canonical text becomes a space. -/
def blanked (c : Char) : Char := if isCanonicalChar c then c else ' '

/-- Every run of blanks becomes one space. -/
def squeezed (cs : List Char) : List Char := Text.squeeze Text.isSpace ' ' false cs

/-- The canonical form of characters. -/
def canonicalChars (cs : List Char) : List Char :=
  let signs := (Text.lower cs).map plainSign
  let bare := signs.filter fun c => !isBracket c
  let separated := Text.squeeze isSeparator ' ' false bare
  let folded := foldSkillGems separated
  foldSkillGems (Text.strip (squeezed (folded.map blanked)))

/-- The canonical form of a text. -/
def canonical (s : String) : String := String.ofList (canonicalChars s.toList)

end Reroll.Canonical
