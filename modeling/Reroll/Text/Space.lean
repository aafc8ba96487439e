/-!
# Blanks

Whitespace in the wide sense: the ASCII blanks and separators, the next-line control and the
blanks of Unicode. Stripping, splitting at blanks and splitting into lines work on characters.
-/

namespace Reroll.Text

/-- Whitespace: tab to carriage return, the four ASCII separators, space and the Unicode blanks. -/
def isSpace (c : Char) : Bool :=
  let n := c.toNat
  (0x09 ≤ n && n ≤ 0x0D) || (0x1C ≤ n && n ≤ 0x20) || n == 0x85 || n == 0xA0 || n == 0x1680 ||
    (0x2000 ≤ n && n ≤ 0x200A) || n == 0x2028 || n == 0x2029 || n == 0x202F || n == 0x205F ||
    n == 0x3000

/-- Characters that end a line; a carriage return and a line feed together end one line. -/
def endsLine (c : Char) : Bool :=
  let n := c.toNat
  (0x0A ≤ n && n ≤ 0x0D) || (0x1C ≤ n && n ≤ 0x1E) || n == 0x85 || n == 0x2028 || n == 0x2029

/-- Text without the blanks at its end. -/
def trimEnd (cs : List Char) : List Char := (cs.reverse.dropWhile isSpace).reverse

/-- Text without the blanks at either end. -/
def strip (cs : List Char) : List Char := trimEnd (cs.dropWhile isSpace)

/-- The pieces of `cs` between the characters that satisfy `p`, the first one started already. -/
def piecesBetween (p : Char → Bool) (started : List Char) : List Char → List (List Char)
  | [] => [started.reverse]
  | c :: cs =>
    if p c then started.reverse :: piecesBetween p [] cs else piecesBetween p (c :: started) cs

/-- The words between blanks. -/
def words (cs : List Char) : List (List Char) :=
  (piecesBetween isSpace [] cs).filter fun w => !w.isEmpty

/-- The lines from the one started on; the last line needs no end. -/
def linesFrom (started : List Char) : List Char → List (List Char)
  | [] => if started.isEmpty then [] else [started.reverse]
  | '\r' :: '\n' :: cs => started.reverse :: linesFrom [] cs
  | c :: cs => if endsLine c then started.reverse :: linesFrom [] cs else linesFrom (c :: started) cs

/-- The lines of a text, without their ends. -/
def lines (cs : List Char) : List (List Char) := linesFrom [] cs

/-- Every line end written as a carriage return becomes a line feed. -/
def unifyNewlines : List Char → List Char
  | [] => []
  | '\r' :: '\n' :: cs => '\n' :: unifyNewlines cs
  | c :: cs => (if c = '\r' then '\n' else c) :: unifyNewlines cs

/-- A string without the blanks at either end. -/
def stripped (s : String) : String := String.ofList (strip s.toList)

end Reroll.Text
