import Reroll.Json.Reader
import Reroll.Yaml.Cursor

/-!
# Scalars in a YAML text

A scalar is plain, quoted or a block. Single line ends within plain and quoted scalars become
spaces, as they do in folded blocks; further ones stay. Texts are gathered from their ends, the last
character first. Every step uses up part of the text, so its size suffices as `fuel`.
-/

namespace Reroll.Yaml

/-! ### Quoted scalars -/

/-- Line ends and the blanks at the starts of lines inside a quoted scalar. -/
def quotedBreaks (done : List Char) (c : Cursor) : Nat → Except Stop (List Char × Cursor)
  | 0 => .error .malformed
  | fuel + 1 =>
    if c.isAnySeparator then .error .malformed
    else
      let c := c.dropWhile isBlank
      match c.takeBreak? with
      | some (b, next) => quotedBreaks (b :: done) next fuel
      | none => .ok (done.reverse, c)

/-- Several line ends are one fewer; a single line feed is a space. -/
def folded (first : Char) (breaks : List Char) : List Char :=
  if first ≠ '\n' then first :: breaks else if breaks.isEmpty then [' '] else breaks

/-- Blanks inside a quoted scalar, with the line ends among them. -/
def quotedGap (fuel : Nat) (c : Cursor) : Except Stop (List Char × Cursor) :=
  let (blanks, c) := c.takeWhile isBlank
  if c.rest.isEmpty then .error .unfinished
  else
    match c.takeBreak? with
    | none => .ok (blanks, c)
    | some (b, next) => (quotedBreaks [] next fuel).map fun r => (folded b r.1, r.2)

/-- The character that a letter after a backslash stands for. -/
def escapeOf? (c : Char) : Option Char :=
  match c with
  | '0' => some '\x00'
  | 'a' => some '\x07'
  | 'b' => some '\x08'
  | 't' => some '\t'
  | '\t' => some '\t'
  | 'n' => some '\n'
  | 'v' => some '\x0b'
  | 'f' => some '\x0c'
  | 'r' => some '\r'
  | 'e' => some '\x1b'
  | ' ' => some ' '
  | '"' => some '"'
  | '\\' => some '\\'
  | '/' => some '/'
  | 'N' => some '\u0085'
  | '_' => some '\u00a0'
  | 'L' => some '\u2028'
  | 'P' => some '\u2029'
  | _ => none

/-- How many digits follow the letter of a numbered character. -/
def escapeSize? (c : Char) : Option Nat :=
  if c = 'x' then some 2 else if c = 'u' then some 4 else if c = 'U' then some 8 else none

/-- The value of hexadecimal digits. -/
def hexNumber? (digits : List Char) : Option Nat :=
  digits.foldl (fun n c => n.bind fun n => (Json.hexValue? c).map (16 * n + ·)) (some 0)

/-- The character with the given number; a half of a pair stands for the replacement character. -/
def numberedChar (n : Nat) : Except Stop Char :=
  if Nat.pow 2 31 ≤ n then .error .characterSize
  else if 0x110000 ≤ n then .error .characterRange
  else if n.isValidChar then .ok (Char.ofNat n)
  else .ok '\uFFFD'

/-- What stands behind a backslash in double quotes. -/
def escape (fuel : Nat) (c : Cursor) : Except Stop (List Char × Cursor) :=
  match c.rest with
  | [] => .error .unfinished
  | ch :: more =>
    match escapeOf? ch, escapeSize? ch with
    | some e, _ => .ok ([e], c.next)
    | none, some size =>
      let digits := more.take size
      match hexNumber? digits with
      | none => .error .malformed
      | some n =>
        if digits.length < size then .error .unfinished
        else (numberedChar n).map fun e => ([e], c.skip (size + 1))
    | none, none =>
      match c.takeBreak? with
      | some (_, next) => quotedBreaks [] next fuel
      | none => .error .malformed

/-- A quoted scalar after its opening quote. -/
def quotedFrom (double : Bool) (done : List Char) (c : Cursor) :
    Nat → Except Stop (List Char × Cursor)
  | 0 => .error .malformed
  | fuel + 1 =>
    match c.rest with
    | [] => .error .unfinished
    | ch :: more =>
      if isGap ch then
        match quotedGap fuel c with
        | .error e => .error e
        | .ok (gap, next) => quotedFrom double (gap.reverse ++ done) next fuel
      else if !double && ch = '\'' then
        if more.head? == some '\'' then quotedFrom double ('\'' :: done) (c.skip 2) fuel
        else .ok (done.reverse, c.next)
      else if double && ch = '"' then .ok (done.reverse, c.next)
      else if double && ch = '\\' then
        match escape fuel c.next with
        | .error e => .error e
        | .ok (chars, next) => quotedFrom double (chars.reverse ++ done) next fuel
      else quotedFrom double (ch :: done) c.next fuel

/-- A quoted scalar; the cursor is at its opening quote. -/
def quotedScalar (double : Bool) (c : Cursor) : Except Stop (List Char × Cursor) :=
  quotedFrom double [] c.next (c.size + 1)

/-! ### Plain scalars -/

/-- Characters that end a plain scalar inside brackets. -/
def isFlowMark (c : Char) : Bool := c == ',' || c == '[' || c == ']' || c == '\x7b' || c == '\x7d'

/-- The number of characters of a plain scalar before the next gap. A colon ends it before a gap,
and inside brackets before their marks as well. -/
def plainRun (inFlow : Bool) : List Char → Nat
  | [] => 0
  | ch :: cs =>
    if isGap ch then 0
    else if ch = ':' && (atGap cs || (inFlow && cs.head?.any isFlowMark)) then 0
    else if inFlow && (isFlowMark ch || ch == '?') then 0
    else plainRun inFlow cs + 1

/-- Line ends and spaces at the starts of lines after a plain scalar; none when a document ends
or starts there. -/
def plainBreaks (done : List Char) (c : Cursor) : Nat → Option (List Char) × Cursor
  | 0 => (none, c)
  | fuel + 1 =>
    if c.isAnySeparator then (none, c)
    else
      let c := c.dropSpaces
      match c.takeBreak? with
      | some (b, next) => plainBreaks (b :: done) next fuel
      | none => (some done.reverse, c)

/-- What separates a plain scalar from its continuation. -/
structure PlainGap where
  text : List Char
  overLines : Bool
  behind : Cursor

/-- The gap after part of a plain scalar; an empty one ends the scalar. -/
def plainGap (c : Cursor) : PlainGap :=
  let (spaces, c) := c.takeWhile (· == ' ')
  match c.takeBreak? with
  | none => ⟨spaces, false, c⟩
  | some (b, next) =>
    match plainBreaks [] next (next.size + 1) with
    | (none, behind) => ⟨[], true, behind⟩
    | (some breaks, behind) => ⟨folded b breaks, true, behind⟩

/-- A scalar from its end, whether a simple key may follow it, and the place behind it. -/
structure PlainScan where
  reversed : List Char
  keyMayFollow : Bool
  behind : Cursor

/-- A plain scalar from a place on. Outside brackets, lines that are not indented end it. -/
def plainFrom (inFlow : Bool) (indent : Int) (done gap : List Char) (overLines : Bool) (c : Cursor) :
    Nat → PlainScan
  | 0 => ⟨done, overLines, c⟩
  | fuel + 1 =>
    let size := if c.isAt '#' then 0 else plainRun inFlow c.rest
    if size = 0 then ⟨done, overLines, c⟩
    else
      let done := (c.rest.take size).reverse ++ (gap.reverse ++ done)
      let g := plainGap (c.skip size)
      if g.text.isEmpty || g.behind.isAt '#' || (!inFlow && (g.behind.column : Int) < indent) then
        ⟨done, g.overLines, g.behind⟩
      else plainFrom inFlow indent done g.text g.overLines g.behind fuel

/-- A plain scalar inside collections indented by `indent`. -/
def plainScalar (inFlow : Bool) (indent : Int) (c : Cursor) : PlainScan :=
  plainFrom inFlow (indent + 1) [] [] false c (c.size + 1)

/-- The text of a plain scalar. -/
def PlainScan.text (p : PlainScan) : List Char := p.reversed.reverse

/-! ### Block scalars -/

/-- What happens to the line ends at the end of a block. -/
inductive Chomping where
  | strip
  | clip
  | keep
  deriving DecidableEq

/-- The sign for line ends, if there is one. -/
def takeChomping (c : Cursor) : Option Chomping × Cursor :=
  if c.isAt '+' then (some .keep, c.next)
  else if c.isAt '-' then (some .strip, c.next)
  else (none, c)

/-- The digit for the indentation, if there is one; it is not zero. -/
def takeIncrement (c : Cursor) : Except Stop (Option Nat × Cursor) :=
  match c.head? with
  | some ch =>
    if ch = '0' then .error .malformed
    else if '1' ≤ ch && ch ≤ '9' then .ok (some (ch.toNat - 0x30), c.next)
    else .ok (none, c)
  | none => .ok (none, c)

/-- The header of a block: the two signs in either order and the rest of the line. -/
def blockHeader (c : Cursor) : Except Stop (Chomping × Option Nat × Cursor) :=
  let (early, c) := takeChomping c
  match takeIncrement c with
  | .error e => .error e
  | .ok (increment, c) =>
    let (late, c) := if early.isNone && increment.isSome then takeChomping c else (none, c)
    if atSpaceOrEnd c.rest then
      (c.dropRestOfLine).map fun c => ((early.or late).getD .clip, increment, c)
    else .error .malformed

/-- Empty lines before a block of unknown indentation, and the widest of them. -/
def leadingLines (done : List Char) (widest : Nat) (c : Cursor) : Nat → List Char × Nat × Cursor
  | 0 => (done.reverse, widest, c)
  | fuel + 1 =>
    let c := c.dropSpaces
    let widest := max widest c.column
    match c.takeBreak? with
    | some (b, next) => leadingLines (b :: done) widest next fuel
    | none => (done.reverse, widest, c)

/-- Passes the indentation of a line, as far as there are spaces. -/
def dropIndent (indent : Int) (c : Cursor) : Cursor :=
  let wanted := (indent - c.column).toNat
  c.skip ((c.rest.take wanted).takeWhile (· == ' ')).length

/-- Empty lines inside a block, up to the text of the next line. -/
def blockBreaks (indent : Int) (done : List Char) (c : Cursor) : Nat → List Char × Cursor
  | 0 => (done.reverse, c)
  | fuel + 1 =>
    let c := dropIndent indent c
    match c.takeBreak? with
    | some (b, next) => blockBreaks indent (b :: done) next fuel
    | none => (done.reverse, c)

/-- The lines of a block: its text from the end, the end of its last line and the empty lines behind
it. -/
structure BlockScan where
  reversed : List Char
  lastBreak : List Char
  breaks : List Char
  behind : Cursor

/-- The cursor is at the text of a line of the block. -/
def inBlock (indent : Int) (c : Cursor) : Bool := (c.column : Int) = indent && !c.rest.isEmpty

/-- The next line of a block, after the empty lines before it. In a folded block, the single end
of a line between two lines that start with text becomes a space. -/
def blockFrom (isFolded : Bool) (indent : Int) (done breaks : List Char) (c : Cursor) :
    Nat → BlockScan
  | 0 => ⟨done, [], breaks, c⟩
  | fuel + 1 =>
    if inBlock indent c then
      let startsWithText := !c.head?.any isBlank
      let (line, c) := c.takeWhile fun ch => !isBreak ch
      let done := line.reverse ++ (breaks.reverse ++ done)
      let (lastBreak, c) := (c.takeBreak?.map fun b => ([b.1], b.2)).getD ([], c)
      let (breaks, c) := blockBreaks indent [] c (c.size + 1)
      if inBlock indent c then
        let fold := isFolded && lastBreak == ['\n'] && startsWithText && !c.head?.any isBlank
        let joint := if fold then (if breaks.isEmpty then [' '] else []) else lastBreak
        blockFrom isFolded indent (joint.reverse ++ done) breaks c fuel
      else ⟨done, lastBreak, breaks, c⟩
    else ⟨done, [], breaks, c⟩

/-- A block scalar inside collections indented by `indent`; the cursor is at its mark. -/
def blockScalar (isFolded : Bool) (indent : Int) (c : Cursor) : Except Stop (List Char × Cursor) :=
  match blockHeader c.next with
  | .error e => .error e
  | .ok (chomping, increment, c) =>
    let fuel := c.size + 1
    let least := max 1 (indent + 1)
    let (breaks, indent, c) :=
      match increment with
      | some n =>
        let indent := least + n - 1
        let (breaks, c) := blockBreaks indent [] c fuel
        (breaks, indent, c)
      | none =>
        let (breaks, widest, c) := leadingLines [] 0 c fuel
        (breaks, max least (widest : Int), c)
    let b := blockFrom isFolded indent [] breaks c fuel
    let tail :=
      match chomping with
      | .strip => []
      | .clip => b.lastBreak
      | .keep => b.lastBreak ++ b.breaks
    .ok (b.reversed.reverse ++ tail, b.behind)

end Reroll.Yaml
