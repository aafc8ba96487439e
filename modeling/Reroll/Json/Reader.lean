import Reroll.Document.Convert

/-!
# Reading JSON

A reader of JSON text that keeps the order of fields, the difference between whole numbers and
doubles, and the place of the first error. The names of the infinities and of NaN are values.
Each step returns what follows it, so an error is located by what was left of the text.
-/

namespace Reroll.Json

/-- What is wrong with a JSON text. -/
inductive Problem where
  | value
  | delimiter
  | colon
  | key
  | extra
  | unterminated
  | control
  | escape
  | unicodeEscape
  | byteOrderMark
  deriving DecidableEq, Repr

namespace Problem

/-- The wording of a problem. -/
def message : Problem → String
  | .value => "Expecting value"
  | .delimiter => "Expecting ',' delimiter"
  | .colon => "Expecting ':' delimiter"
  | .key => "Expecting property name enclosed in double quotes"
  | .extra => "Extra data"
  | .unterminated => "Unterminated string starting at"
  | .control => "Invalid control character at"
  | .escape => "Invalid \\escape"
  | .unicodeEscape => "Invalid \\uXXXX escape"
  | .byteOrderMark => "Unexpected UTF-8 BOM (decode using utf-8-sig)"

end Problem

/-- Why a step failed: a problem before the last `left` characters, a number too long, or a list or
mapping inside too many others. -/
inductive Stuck where
  | problem (p : Problem) (left : Nat)
  | number (e : ConversionError)
  | tooDeep (kind : String)

/-- Why a text is not read: a problem at a place, a number too long, or a list or mapping inside too
many others. -/
inductive Failure where
  | problem (p : Problem) (line column offset : Nat)
  | number (e : ConversionError)
  | tooDeep (kind : String)

namespace Failure

/-- The wording of a failure. -/
def message : Failure → String
  | .problem p line column offset =>
    p.message ++ ": line " ++ toString line ++ " column " ++ toString column ++ " (char " ++
      toString offset ++ ")"
  | .number e => e.message
  | .tooDeep kind =>
    "maximum recursion depth exceeded while decoding a JSON " ++ kind ++ " from a unicode string"

end Failure

/-- Fails here. -/
def stuck (p : Problem) (rest : List Char) : Except Stuck (α × List Char) :=
  .error (.problem p rest.length)

/-- Blanks between tokens. -/
def isBlank (c : Char) : Bool := c == ' ' || c == '\t' || c == '\n' || c == '\r'

/-- What follows the blanks. -/
def skipBlanks (cs : List Char) : List Char := cs.dropWhile isBlank

/-- The value of a hexadecimal digit. -/
def hexValue? (c : Char) : Option Nat :=
  if '0' ≤ c && c ≤ '9' then some (c.toNat - 0x30)
  else if 'a' ≤ c && c ≤ 'f' then some (c.toNat - 0x57)
  else if 'A' ≤ c && c ≤ 'F' then some (c.toNat - 0x37)
  else none

/-- The number written by four hexadecimal digits at the start. -/
def fourHex? : List Char → Option Nat
  | a :: b :: c :: d :: _ => do
    let a ← hexValue? a
    let b ← hexValue? b
    let c ← hexValue? c
    let d ← hexValue? d
    return ((a * 16 + b) * 16 + c) * 16 + d
  | _ => none

/-- The character of a one-letter escape. -/
def plainEscape? : Char → Option Char
  | '"' => some '"'
  | '\\' => some '\\'
  | '/' => some '/'
  | 'b' => some '\x08'
  | 'f' => some '\x0c'
  | 'n' => some '\n'
  | 'r' => some '\r'
  | 't' => some '\t'
  | _ => none

/-- A unit that only forms a character together with a second one. -/
def isHighUnit (n : Nat) : Bool := 0xD800 ≤ n && n < 0xDC00

/-- A unit that completes a character. -/
def isLowUnit (n : Nat) : Bool := 0xDC00 ≤ n && n < 0xE000

/-- The character of a unit; a unit that stands alone has none of its own. -/
def unitChar (n : Nat) : Char := if isHighUnit n || isLowUnit n then '\uFFFD' else Char.ofNat n

/-- A numbered escape after its letter: the character and how many characters were read. -/
def numberedEscape (cs : List Char) : Except Stuck (Char × Nat) :=
  if (cs.take 5).length < 5 then .error (.problem .unicodeEscape (cs.length + 1))
  else
    match fourHex? cs with
    | none => .error (.problem .unicodeEscape (cs.length + 1))
    | some n =>
      let more := cs.drop 4
      if isHighUnit n && (more.take 7).length = 7 && more.take 2 == ['\\', 'u'] then
        match fourHex? (more.drop 2) with
        | none => .error (.problem .unicodeEscape (more.length - 1))
        | some m =>
          if isLowUnit m then
            .ok (Char.ofNat (0x10000 + (n - 0xD800) * 0x400 + (m - 0xDC00)), 10)
          else .ok (unitChar n, 4)
      else .ok (unitChar n, 4)

/-- Characters of a string up to its closing quote. `opened` is what was left of the text at the
opening quote, `skip` counts characters of an escape already read. -/
def stringFrom (opened : List Char) (skip : Nat) (done : List Char) :
    List Char → Except Stuck (String × List Char)
  | [] => stuck .unterminated opened
  | c :: cs =>
    match skip with
    | k + 1 => stringFrom opened k done cs
    | 0 =>
      if c = '"' then .ok (String.ofList done.reverse, cs)
      else if c = '\\' then
        match cs with
        | [] => stuck .unterminated opened
        | e :: more =>
          if e = 'u' then
            match numberedEscape more with
            | .error s => .error s
            | .ok (d, size) => stringFrom opened (size + 1) (d :: done) cs
          else
            match plainEscape? e with
            | none => .error (.problem .escape (cs.length + 1))
            | some d => stringFrom opened 1 (d :: done) cs
      else if c.toNat < 0x20 then stuck .control (c :: cs)
      else stringFrom opened 0 (c :: done) cs

/-- Digits of ASCII. -/
def isDecimal (c : Char) : Bool := '0' ≤ c && c ≤ '9'

/-- The whole part of a number: one zero, or digits that start with another one. -/
def wholePart : List Char → List Char
  | [] => []
  | c :: cs => if c = '0' then ['0'] else (c :: cs).takeWhile isDecimal

/-- The digits of a fraction after its point; a point without digits is none. -/
def fractionPart : List Char → List Char
  | '.' :: cs => cs.takeWhile isDecimal
  | _ => []

/-- An exponent with its digits, and its size in the text; without digits it is none. -/
def exponentPart : List Char → Option (Int × Nat)
  | [] => none
  | e :: cs =>
    if e = 'e' || e = 'E' then
      let (negative, rest) := Decimal.takeSign cs
      let digits := rest.takeWhile isDecimal
      if digits.isEmpty then none
      else
        let n : Int := Text.digitsValue digits
        some (if negative then -n else n, 1 + (cs.length - rest.length) + digits.length)
    else none

/-- A number; without digits there is no value here. -/
def readNumber (cs : List Char) : Except Stuck (Value × List Char) :=
  let negative := cs.head? == some '-'
  let body := if negative then cs.drop 1 else cs
  let whole := wholePart body
  if whole.isEmpty then stuck .value cs
  else
    let afterWhole := body.drop whole.length
    let fraction := fractionPart afterWhole
    let afterFraction := if fraction.isEmpty then afterWhole else afterWhole.drop (fraction.length + 1)
    match fraction.isEmpty, exponentPart afterFraction with
    | true, none =>
      if Decimal.digitLimit < whole.length then .error (.number (.tooManyDigits whole.length))
      else
        let n : Int := Text.digitsValue whole
        .ok (.int (if negative then -n else n), afterFraction)
    | _, e =>
      let (exponent, size) := e.getD (0, 0)
      let x := Decimal.nearestDouble (Text.digitsValue (whole ++ fraction)) (exponent - fraction.length)
      .ok (.num (.float (if negative then -x else x)), afterFraction.drop size)

/-- The values that are written as a word. -/
def namedValues : List (List Char × Value) :=
  [("null".toList, .null), ("true".toList, .bool true), ("false".toList, .bool false),
    ("NaN".toList, .num (.float (0.0 / 0.0))), ("Infinity".toList, .num (.float (1.0 / 0.0))),
    ("-Infinity".toList, .num (.float (-1.0 / 0.0)))]

/-- A value other than a string, list or mapping. -/
def readScalar (cs : List Char) : Except Stuck (Value × List Char) :=
  match namedValues.find? fun w => w.1.isPrefixOf cs with
  | some w => .ok (w.2, cs.drop w.1.length)
  | none => readNumber cs

/-- How deep lists and mappings may lie in each other. -/
def depthLimit : Nat := 980

/-- A list or mapping may begin when `room` of them may lie in each other from here on. -/
def enter (kind : String) (room : Nat) : Except Stuck Nat :=
  if room = 0 then .error (.tooDeep kind) else .ok (room - 1)

mutual

/-- A value in which at most `room` lists and mappings lie in each other. -/
def readValue (room : Nat) : Nat → List Char → Except Stuck (Value × List Char)
  | 0, cs => stuck .value cs
  | fuel + 1, cs =>
    match cs with
    | '"' :: rest => do
      let (s, rest) ← stringFrom cs 0 [] rest
      return (.text s, rest)
    | '[' :: rest => do
      let room ← enter "array" room
      let rest := skipBlanks rest
      if rest.head? == some ']' then return (.list [], rest.drop 1)
      let (items, rest) ← readItems room fuel [] rest
      return (.list items, rest)
    | '\x7b' :: rest => do
      let room ← enter "object" room
      let rest := skipBlanks rest
      if rest.head? == some '\x7d' then return (.map [], rest.drop 1)
      let (fields, rest) ← readFields room fuel [] rest
      return (.map (Value.collect fields), rest)
    | _ => readScalar cs

/-- The items of a list up to its closing bracket. -/
def readItems (room : Nat) :
    Nat → List Value → List Char → Except Stuck (List Value × List Char)
  | 0, _, cs => stuck .value cs
  | fuel + 1, done, cs => do
    let (v, rest) ← readValue room fuel cs
    let rest := skipBlanks rest
    match rest with
    | ']' :: more => return ((v :: done).reverse, more)
    | ',' :: more => readItems room fuel (v :: done) (skipBlanks more)
    | _ => stuck .delimiter rest

/-- The fields of a mapping up to its closing brace. -/
def readFields (room : Nat) : Nat → List (Value × Value) → List Char →
    Except Stuck (List (Value × Value) × List Char)
  | 0, _, cs => stuck .value cs
  | fuel + 1, done, cs =>
    match cs with
    | '"' :: rest => do
      let (key, rest) ← stringFrom cs 0 [] rest
      let rest := skipBlanks rest
      match rest with
      | ':' :: more => do
        let (v, rest) ← readValue room fuel (skipBlanks more)
        let rest := skipBlanks rest
        match rest with
        | '\x7d' :: more => return (((.text key, v) :: done).reverse, more)
        | ',' :: more => readFields room fuel ((.text key, v) :: done) (skipBlanks more)
        | _ => stuck .delimiter rest
      | _ => stuck .colon rest
    | _ => stuck .key cs

end

/-- The line, column and offset of the place before the last `left` characters. -/
def placeOf (text : List Char) (left : Nat) : Nat × Nat × Nat :=
  let before := text.take (text.length - left)
  let lastLine := (before.reverse.takeWhile (· != '\n')).length
  ((before.filter (· == '\n')).length + 1, lastLine + 1, before.length)

/-- Locates what a step was stuck on. -/
def Stuck.locate (text : List Char) : Stuck → Failure
  | .number e => .number e
  | .tooDeep kind => .tooDeep kind
  | .problem p left =>
    let (line, column, offset) := placeOf text left
    .problem p line column offset

/-- A value with nothing but blanks around it. -/
def readWholeText (room : Nat) (text : List Char) : Except Stuck Value :=
  if text.head? == some '\uFEFF' then .error (.problem .byteOrderMark text.length)
  else
    match readValue room (2 * text.length + 2) (skipBlanks text) with
    | .error s => .error s
    | .ok (v, rest) =>
      let rest := skipBlanks rest
      if rest.isEmpty then .ok v else .error (.problem .extra rest.length)

/-- Reads a JSON text in which at most `room` lists and mappings lie in each other. -/
def read (text : String) (room : Nat := depthLimit) : Except Failure Value :=
  (readWholeText room text.toList).mapError (Stuck.locate text.toList)

end Reroll.Json
