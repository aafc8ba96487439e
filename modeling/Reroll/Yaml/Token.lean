import Reroll.Yaml.Scalar

/-!
# Tokens of a YAML text

A text is cut into tokens. Indentation opens and closes block collections; a simple key, at most
1024 characters on one line, is recognized only at the colon behind it, so the tokens that open it
are inserted afterwards.
-/

namespace Reroll.Yaml

/-- A line that tells how to read the document after it. -/
inductive Directive where
  | version (major : Nat)
  | handle (handle expansion : String)
  | other

/-- A token. -/
inductive Token where
  | directive (d : Directive)
  | documentStart
  | documentEnd
  | streamEnd
  | blockSequence
  | blockMapping
  | blockEnd
  | flowSequence
  | flowSequenceEnd
  | flowMapping
  | flowMappingEnd
  | item
  | separator
  | key
  | value
  | reference (name : String)
  | anchor (name : String)
  | tag (handle : Option String) (suffix : String)
  | scalar (text : String) (plain : Bool)

/-! ### Names, tags and directives -/

/-- Letters and digits of ASCII, the dash and the underscore. -/
def isNameChar (c : Char) : Bool := c.isAlphanum || c == '-' || c == '_'

/-- Characters of a tag or of the expansion of a handle. -/
def isTagChar (c : Char) : Bool := isNameChar c || ";/?:@&=+$,.!~*'()[]%".toList.contains c

/-- Bytes behind percent signs. -/
def takeBytes (done : List UInt8) (c : Cursor) : Nat → Except Stop (List UInt8 × Cursor)
  | 0 => .error .malformed
  | fuel + 1 =>
    match c.rest with
    | '%' :: a :: b :: _ =>
      match Json.hexValue? a, Json.hexValue? b with
      | some high, some low => takeBytes ((16 * high + low).toUInt8 :: done) (c.skip 3) fuel
      | _, _ => .error .malformed
    | '%' :: _ => .error .malformed
    | _ => .ok (done.reverse, c)

/-- The characters of a tag, those written by their bytes included. -/
def takeTagText (done : List Char) (c : Cursor) : Nat → Except Stop (String × Cursor)
  | 0 => .error .malformed
  | fuel + 1 =>
    match c.head? with
    | some '%' => do
      let (bytes, c) ← takeBytes [] c (fuel + 1)
      match String.fromUTF8? ⟨bytes.toArray⟩ with
      | some s => takeTagText (s.toList.reverse ++ done) c fuel
      | none => throw .malformed
    | some ch =>
      if isTagChar ch then takeTagText (ch :: done) c.next fuel else finish done c
    | none => finish done c
where
  /-- A tag has one character at least. -/
  finish (done : List Char) (c : Cursor) : Except Stop (String × Cursor) :=
    if done.isEmpty then .error .malformed else .ok (String.ofList done.reverse, c)

/-- The characters of a tag from a place on. -/
def tagText (c : Cursor) : Except Stop (String × Cursor) := takeTagText [] c (c.size + 1)

/-- A handle: one exclamation mark, or a name between two. -/
def tagHandle (c : Cursor) : Except Stop (String × Cursor) :=
  if !c.isAt '!' then .error .malformed
  else
    let (name, behind) := c.next.takeWhile isNameChar
    if c.next.isAt ' ' then .ok ("!", c.next)
    else if behind.isAt '!' then .ok (String.ofList ('!' :: name ++ ['!']), behind.next)
    else .error .malformed

/-- An exclamation mark comes before the next space. -/
def hasHandle (cs : List Char) : Bool :=
  (cs.takeWhile fun ch => ch != ' ' && !isBreak ch).contains '!'

/-- A tag: verbatim, a lone mark, or a suffix with or without a handle. -/
def tagToken (c : Cursor) : Except Stop (Token × Cursor) := do
  let inside := c.next
  let (token, behind) ←
    if inside.isAt '<' then do
      let (suffix, behind) ← tagText inside.next
      if behind.isAt '>' then pure (Token.tag none suffix, behind.next) else throw .malformed
    else if atGap inside.rest then pure (Token.tag none "!", inside)
    else do
      let (handle, start) ← if hasHandle inside.rest then tagHandle c else pure ("!", inside)
      let (suffix, behind) ← tagText start
      pure (Token.tag (some handle) suffix, behind)
  if atSpaceOrEnd behind.rest then return (token, behind) else throw .malformed

/-- The name of an anchor or of a reference to one. -/
def anchorName (c : Cursor) : Except Stop (String × Cursor) :=
  let (name, behind) := c.next.takeWhile isNameChar
  let ended := atGap behind.rest || behind.head?.any fun ch => "?:,]\x7d%@\x60".toList.contains ch
  if name.isEmpty || !ended then .error .malformed else .ok (String.ofList name, behind)

/-- The number in front of the point of a version, and the place behind the version. -/
def versionNumber (c : Cursor) : Except Stop (Nat × Cursor) :=
  let (major, c) := c.takeWhile Char.isDigit
  if !c.isAt '.' then .error .malformed
  else
    let (minor, behind) := c.next.takeWhile Char.isDigit
    if major.isEmpty || minor.isEmpty || !atSpaceOrEnd behind.rest then .error .malformed
    else .ok (Text.digitsValue major, behind)

/-- A handle and what it stands for. -/
def handleDirective (c : Cursor) : Except Stop (Directive × Cursor) := do
  let (handle, c) ← tagHandle c
  if !c.isAt ' ' then throw .malformed
  let (expansion, behind) ← tagText c.dropSpaces
  if atSpaceOrEnd behind.rest then return (.handle handle expansion, behind) else throw .malformed

/-- A directive; the cursor is at its mark. -/
def directive (c : Cursor) : Except Stop (Directive × Cursor) := do
  let (name, c) := c.next.takeWhile isNameChar
  if name.isEmpty || !atSpaceOrEnd c.rest then throw .malformed
  let (d, c) ←
    if name = "YAML".toList then (versionNumber c.dropSpaces).map fun r => (.version r.1, r.2)
    else if name = "TAG".toList then handleDirective c.dropSpaces
    else pure (.other, c.dropWhile fun ch => !isBreak ch)
  return (d, ← c.dropRestOfLine)

/-! ### The scanner -/

/-- A place where a simple key may have started, and the number of tokens before it. A required
key starts a line of a block mapping, so nothing but a key can stand there. -/
structure PossibleKey where
  flow : Nat
  number : Nat
  required : Bool
  start : Cursor

/-- What is known halfway through a text: the tokens, the last one first, and how many there are. -/
structure Scanner where
  cursor : Cursor
  tokens : List Token := []
  count : Nat := 0
  flow : Nat := 0
  indent : Int := -1
  indents : List Int := []
  keyAllowed : Bool := true
  keys : List PossibleKey := []

namespace Scanner

/-- A step of the scanner. -/
abbrev Step := Except Stop Scanner

/-- Adds a token and moves on. -/
def push (s : Scanner) (t : Token) (behind : Cursor) : Scanner :=
  { s with tokens := t :: s.tokens, count := s.count + 1, cursor := behind }

/-- Adds a token behind the first `number` ones. -/
def insert (s : Scanner) (number : Nat) (t : Token) : Scanner :=
  { s with tokens := s.tokens.insertIdx (s.count - number) t, count := s.count + 1 }

/-- Forgets the possible keys that end too late: on another line or too far away. -/
def dropStaleKeys (s : Scanner) : Step :=
  let stale (k : PossibleKey) : Bool :=
    k.start.line != s.cursor.line || k.start.index + 1024 < s.cursor.index
  if s.keys.any fun k => stale k && k.required then .error .malformed
  else .ok { s with keys := s.keys.filter fun k => !stale k }

/-- Forgets the possible key at the current level. -/
def dropKey (s : Scanner) : Step :=
  if s.keys.any fun k => k.flow == s.flow && k.required then .error .malformed
  else .ok { s with keys := s.keys.filter fun k => k.flow != s.flow }

/-- A simple key may start here. -/
def saveKey (s : Scanner) : Step :=
  if s.keyAllowed then do
    let required := s.flow == 0 && s.indent == s.cursor.column
    let key : PossibleKey := ⟨s.flow, s.count, required, s.cursor⟩
    let s ← s.dropKey
    return { s with keys := key :: s.keys }
  else .ok s

/-- Closes the block collections that are indented further than the given column. -/
def unwind (column : Int) (s : Scanner) : List Int → Scanner
  | [] => s
  | outer :: rest =>
    if s.flow = 0 && column < s.indent then
      unwind column ({ s with indent := outer, indents := rest }.push .blockEnd s.cursor) rest
    else s

/-- Closes the block collections that end before the given column. -/
def unwindTo (s : Scanner) (column : Int) : Scanner := unwind column s s.indents

/-- Opens a block collection at a column that is further in, with a token at the given place. -/
def openBlock (s : Scanner) (column number : Nat) (t : Token) : Scanner :=
  if s.indent < column then
    { s with indents := s.indent :: s.indents, indent := column }.insert number t
  else s

/-- The end of the text. -/
def finish (s : Scanner) : Step := do
  let s ← (s.unwindTo (-1)).dropKey
  return s.push .streamEnd s.cursor

/-- A directive. -/
def takeDirective (s : Scanner) : Step := do
  let s ← (s.unwindTo (-1)).dropKey
  let (d, behind) ← directive s.cursor
  return { s with keyAllowed := false }.push (.directive d) behind

/-- A mark between documents. -/
def takeSeparator (s : Scanner) (t : Token) : Step := do
  let s ← (s.unwindTo (-1)).dropKey
  return { s with keyAllowed := false }.push t (s.cursor.skip 3)

/-- An opening bracket. -/
def openFlow (s : Scanner) (t : Token) : Step := do
  let s ← s.saveKey
  return { s with flow := s.flow + 1, keyAllowed := true }.push t s.cursor.next

/-- A closing bracket; outside brackets there is nothing to close. -/
def closeFlow (s : Scanner) (t : Token) : Step := do
  if s.flow = 0 then throw .malformed
  let s ← s.dropKey
  return { s with flow := s.flow - 1, keyAllowed := false }.push t s.cursor.next

/-- A comma. -/
def takeComma (s : Scanner) : Step := do
  let s ← s.dropKey
  return { s with keyAllowed := true }.push .separator s.cursor.next

/-- The mark of an item or of a key in a block, which may open a collection. -/
def takeBlockMark (s : Scanner) (opening t : Token) (keyAllowed : Bool) : Step := do
  if s.flow = 0 && !s.keyAllowed then throw .malformed
  let s := if s.flow = 0 then s.openBlock s.cursor.column s.count opening else s
  let s ← { s with keyAllowed }.dropKey
  return s.push t s.cursor.next

/-- The mark of a value. If a simple key may have started before, it did. -/
def takeValue (s : Scanner) : Step :=
  match s.keys.find? fun k => k.flow == s.flow with
  | some k =>
    let keys := s.keys.filter fun k => k.flow != s.flow
    let s := { s with keys, keyAllowed := false }.insert k.number .key
    let s := if s.flow = 0 then s.openBlock k.start.column k.number .blockMapping else s
    .ok (s.push .value s.cursor.next)
  | none => s.takeBlockMark .blockMapping .value (s.flow == 0)

/-- A token that may be a simple key or its start. -/
def takeContent (s : Scanner) (read : Cursor → Except Stop (Token × Cursor)) : Step := do
  let s ← s.saveKey
  let (t, behind) ← read s.cursor
  return { s with keyAllowed := false }.push t behind

/-- A quoted scalar. -/
def takeQuoted (s : Scanner) (double : Bool) : Step :=
  s.takeContent fun c =>
    (quotedScalar double c).map fun r => (.scalar (String.ofList r.1) false, r.2)

/-- A block scalar. -/
def takeBlock (s : Scanner) (isFolded : Bool) : Step := do
  let s ← { s with keyAllowed := true }.dropKey
  let (text, behind) ← blockScalar isFolded s.indent s.cursor
  return s.push (.scalar (String.ofList text) false) behind

/-- A plain scalar. A simple key may follow one that ends at the start of a line. -/
def takePlain (s : Scanner) : Step := do
  let s ← s.saveKey
  let p := plainScalar (s.flow != 0) s.indent s.cursor
  return { s with keyAllowed := p.keyMayFollow }.push (.scalar (String.ofList p.text) true) p.behind

/-- Characters that no plain scalar starts with, save some before a character that is no gap. -/
def plainStops : List Char := "-?:,[]\x7b\x7d#&*!|>'\"%@\x60".toList

/-- A plain scalar starts here. -/
def startsPlain (inFlow : Bool) : List Char → Bool
  | [] => false
  | ch :: more =>
    (!isGap ch && !plainStops.contains ch) ||
      (!atGap more && (ch == '-' || (!inFlow && (ch == '?' || ch == ':'))))

/-- The next token, which starts right here. -/
def takeToken (s : Scanner) (ch : Char) (more : List Char) : Step :=
  let inFlow := s.flow != 0
  let alone := atGap more
  let first := s.cursor.column == 0
  if ch = '%' && first then s.takeDirective
  else if first && s.cursor.isSeparator "---" then s.takeSeparator .documentStart
  else if first && s.cursor.isSeparator "..." then s.takeSeparator .documentEnd
  else if ch = '[' then s.openFlow .flowSequence
  else if ch = '\x7b' then s.openFlow .flowMapping
  else if ch = ']' then s.closeFlow .flowSequenceEnd
  else if ch = '\x7d' then s.closeFlow .flowMappingEnd
  else if ch = ',' then s.takeComma
  else if ch = '-' && alone then s.takeBlockMark .blockSequence .item true
  else if ch = '?' && (inFlow || alone) then s.takeBlockMark .blockMapping .key (!inFlow)
  else if ch = ':' && (inFlow || alone) then s.takeValue
  else if ch = '*' then
    s.takeContent fun c => (anchorName c).map fun r => (.reference r.1, r.2)
  else if ch = '&' then s.takeContent fun c => (anchorName c).map fun r => (.anchor r.1, r.2)
  else if ch = '!' then s.takeContent tagToken
  else if ch = '|' && !inFlow then s.takeBlock false
  else if ch = '>' && !inFlow then s.takeBlock true
  else if ch = '\'' then s.takeQuoted false
  else if ch = '"' then s.takeQuoted true
  else if startsPlain inFlow (ch :: more) then s.takePlain
  else .error .malformed

/-- Passes spaces, comments and line ends before the next token. After the end of a line in a
block, a simple key may start. -/
def skipToToken (s : Scanner) : Nat → Scanner
  | 0 => s
  | fuel + 1 =>
    let c := s.cursor.dropSpaces.dropComment
    match c.takeBreak? with
    | some (_, next) =>
      skipToToken { s with cursor := next, keyAllowed := s.keyAllowed || s.flow == 0 } fuel
    | none => { s with cursor := c }

/-- The scanner in front of its next token. -/
def settle (s : Scanner) : Step :=
  let c := s.cursor
  let s := if c.index = 0 && c.isAt '\uFEFF' then { s with cursor := c.next } else s
  (s.skipToToken (s.cursor.size + 1)).dropStaleKeys.map fun s =>
    s.unwindTo s.cursor.column

end Scanner

/-- The tokens that are known for sure: from one that may still turn out to start a simple key on,
nothing is. -/
def Scanner.settled (s : Scanner) : List Token :=
  let keys :=
    match s.dropStaleKeys with
    | .ok s => s.keys
    | .error _ => s.keys
  s.tokens.reverse.take (keys.foldl (fun n k => min n k.number) s.count)

/-- The tokens of a text, and why there are no more if its end was not reached. -/
structure Scan where
  tokens : List Token
  stop : Option Stop

/-- Scans on. Every token but the last uses up part of the text. In a text that is cut short, a
token that reaches the end is not known. -/
def scanFrom (cut : Option Stop) (s : Scanner) : Nat → Scan
  | 0 => ⟨s.settled, some .malformed⟩
  | fuel + 1 =>
    let stopped (e : Stop) : Scan :=
      ⟨s.settled, some (if e = .unfinished then cut.getD .malformed else e)⟩
    match s.settle with
    | .error e => stopped e
    | .ok next =>
      match next.cursor.rest, cut with
      | [], some e => stopped e
      | [], none =>
        match next.finish with
        | .error e => stopped e
        | .ok last => ⟨last.tokens.reverse, none⟩
      | ch :: more, _ =>
        match next.takeToken ch more with
        | .error e => stopped e
        | .ok next =>
          match next.cursor.rest, cut with
          | [], some e => stopped e
          | _, _ => scanFrom cut next fuel

/-- The tokens of a text that ends, or is cut short for a reason. -/
def scan (text : List Char) (cut : Option Stop := none) : Scan :=
  scanFrom cut { cursor := .ofText text } (text.length + 1)

end Reroll.Yaml
