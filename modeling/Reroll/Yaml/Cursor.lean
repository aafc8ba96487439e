/-!
# Places in a YAML text

A cursor is what is left of a text together with where it starts. Line ends are line feeds, next
lines and the two separators of Unicode; carriage returns are expected to be unified already. A
byte order mark takes no column.
-/

namespace Reroll.Yaml

/-- A line ends here. -/
def isBreak (c : Char) : Bool := c == '\n' || c == '\u0085' || c == '\u2028' || c == '\u2029'

/-- A space or a tab. -/
def isBlank (c : Char) : Bool := c == ' ' || c == '\t'

/-- A blank or the end of a line. -/
def isGap (c : Char) : Bool := isBlank c || isBreak c

/-- The end of the text, a blank or the end of a line comes next. -/
def atGap (cs : List Char) : Bool := !cs.head?.any fun c => !isGap c

/-- The end of the text or of a line comes next. -/
def atLineEnd (cs : List Char) : Bool := !cs.head?.any fun c => !isBreak c

/-- The end of the text, a space or the end of a line comes next. -/
def atSpaceOrEnd (cs : List Char) : Bool := !cs.head?.any fun c => c != ' ' && !isBreak c

/-- Why a text is not read: it is malformed, it ends inside a quoted scalar, a numbered character is
too large, or what follows is no text at all. -/
inductive Stop where
  | malformed
  | unfinished
  | characterRange
  | characterSize
  | notText
  deriving DecidableEq, Repr

/-- What is left of a text and where it starts. `size` is at least the length of the whole text, so
that a loop which uses up part of the text ends within `size + 1` steps. -/
structure Cursor where
  rest : List Char
  size : Nat
  index : Nat := 0
  line : Nat := 0
  column : Nat := 0

namespace Cursor

/-- The start of a text. -/
def ofText (text : List Char) : Cursor := { rest := text, size := text.length }

/-- The character at the start. -/
def head? (c : Cursor) : Option Char := c.rest.head?

/-- The start is the given character. -/
def isAt (c : Cursor) (ch : Char) : Bool := c.head? == some ch

/-- Passes one character. -/
def next (c : Cursor) : Cursor :=
  match c.rest with
  | [] => c
  | ch :: rest =>
    if isBreak ch then { c with rest, index := c.index + 1, line := c.line + 1, column := 0 }
    else
      { c with
        rest
        index := c.index + 1
        column := if ch = '\uFEFF' then c.column else c.column + 1 }

/-- Passes `n` characters. -/
def skip : Nat → Cursor → Cursor
  | 0, c => c
  | n + 1, c => skip n c.next

/-- The longest run of characters that satisfy `p`, and the place behind it. -/
def takeWhile (p : Char → Bool) (c : Cursor) : List Char × Cursor :=
  let run := c.rest.takeWhile p
  (run, c.skip run.length)

/-- The place behind the longest run of characters that satisfy `p`. -/
def dropWhile (p : Char → Bool) (c : Cursor) : Cursor := (c.takeWhile p).2

/-- Passes spaces. -/
def dropSpaces (c : Cursor) : Cursor := c.dropWhile (· == ' ')

/-- A line end, which becomes a line feed unless it is a separator, and the place behind it. -/
def takeBreak? (c : Cursor) : Option (Char × Cursor) :=
  match c.rest with
  | [] => none
  | ch :: _ =>
    if ch = '\n' || ch = '\u0085' then some ('\n', c.next)
    else if ch = '\u2028' || ch = '\u2029' then some (ch, c.next)
    else none

/-- Passes a comment. -/
def dropComment (c : Cursor) : Cursor :=
  if c.isAt '#' then c.dropWhile fun ch => !isBreak ch else c

/-- Passes the rest of a line that holds at most a comment, and its end. -/
def dropRestOfLine (c : Cursor) : Except Stop Cursor :=
  let c := c.dropSpaces.dropComment
  if atLineEnd c.rest then .ok ((c.takeBreak?.map Prod.snd).getD c) else .error .malformed

/-- Three marks in a row that separate documents. -/
def isSeparator (marks : String) (c : Cursor) : Bool :=
  marks.toList.isPrefixOf c.rest && atGap (c.rest.drop 3)

/-- Marks that start or end a document. -/
def isAnySeparator (c : Cursor) : Bool := c.isSeparator "---" || c.isSeparator "..."

end Cursor

end Reroll.Yaml
