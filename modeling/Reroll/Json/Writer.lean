import Reroll.Document.Convert
import Reroll.Text.Quoted

/-!
# Writing JSON

Texts are written in ASCII: everything beyond it becomes a numbered escape, in two units where a
character needs them. Lists of texts are laid out one to a line with two blanks in front.
-/

namespace Reroll.Json

/-- A numbered escape. -/
def escapedUnit (n : Nat) : List Char := '\\' :: 'u' :: Text.hexPadded 4 n

/-- A character of a string. -/
def escapedChar (c : Char) : List Char :=
  if c = '"' || c = '\\' then ['\\', c]
  else if c = '\n' then ['\\', 'n']
  else if c = '\r' then ['\\', 'r']
  else if c = '\t' then ['\\', 't']
  else if c = '\x08' then ['\\', 'b']
  else if c = '\x0c' then ['\\', 'f']
  else if 0x20 ≤ c.toNat && c.toNat < 0x7F then [c]
  else if c.toNat < 0x10000 then escapedUnit c.toNat
  else
    escapedUnit (0xD800 + (c.toNat - 0x10000) / 0x400) ++
      escapedUnit (0xDC00 + (c.toNat - 0x10000) % 0x400)

/-- A text as a JSON string. -/
def writtenText (s : String) : String :=
  String.ofList ('"' :: s.toList.flatMap escapedChar ++ ['"'])

/-- Texts as a list, one to a line. -/
def writtenLines (items : List String) : String :=
  match items with
  | [] => "[]"
  | _ => "[\n  " ++ String.intercalate ",\n  " (items.map writtenText) ++ "\n]"

mutual

/-- A value on one line without blanks; a key or value that JSON lacks is written as its text. -/
def compact : Value → String
  | .null => "null"
  | .bool b => if b then "true" else "false"
  | .num n => n.text
  | .text s => writtenText s
  | .list items => "[" ++ String.intercalate "," (compactAll items) ++ "]"
  | .map fields => "\x7b" ++ String.intercalate "," (compactFields fields) ++ "\x7d"
  | v => writtenText v.plain

/-- Values on one line. -/
def compactAll : List Value → List String
  | [] => []
  | v :: rest => compact v :: compactAll rest

/-- Fields on one line. -/
def compactFields : List (Value × Value) → List String
  | [] => []
  | (k, v) :: rest => (writtenText k.plain ++ ":" ++ compact v) :: compactFields rest

end

end Reroll.Json
