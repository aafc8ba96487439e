import Reroll.Json.Reader

/-!
# Bytes of a JSON text

A JSON text may be encoded in units of one, two or four bytes. A mark in front tells which; without
one the zeros among the first bytes do, since such a text starts with characters of ASCII. Halves of
characters that stand alone become the replacement character.
-/

namespace Reroll.Json

/-- The encodings of a text. The wider units have their lowest byte first or last. -/
inductive Encoding where
  | narrow
  | double (lowFirst : Bool)
  | quadruple (lowFirst : Bool)
  deriving DecidableEq, Repr

namespace Encoding

/-- The encoding that a mark at the start tells, and the size of the mark. -/
def marked? (bytes : List UInt8) : Option (Encoding × Nat) :=
  if [0x00, 0x00, 0xFE, 0xFF].isPrefixOf bytes then some (.quadruple false, 4)
  else if [0xFF, 0xFE, 0x00, 0x00].isPrefixOf bytes then some (.quadruple true, 4)
  else if [0xFE, 0xFF].isPrefixOf bytes then some (.double false, 2)
  else if [0xFF, 0xFE].isPrefixOf bytes then some (.double true, 2)
  else if [0xEF, 0xBB, 0xBF].isPrefixOf bytes then some (.narrow, 3)
  else none

/-- The encoding that the zeros among the first bytes tell. -/
def guessed : List UInt8 → Encoding
  | a :: b :: c :: d :: _ =>
    if a = 0 then (if b = 0 then .quadruple false else .double false)
    else if b = 0 then (if c = 0 && d = 0 then .quadruple true else .double true)
    else .narrow
  | [a, b] => if a = 0 then .double false else if b = 0 then .double true else .narrow
  | _ => .narrow

/-- The units of a text, of so many bytes each; nothing if a last one is not complete. -/
def units? (lowFirst : Bool) (size : Nat) (unit : List UInt8) : List UInt8 → Option (List Nat)
  | [] => if unit.isEmpty then some [] else none
  | b :: rest =>
    if unit.length + 1 < size then units? lowFirst size (b :: unit) rest
    else
      let latestFirst := b :: unit
      let ordered := if lowFirst then latestFirst else latestFirst.reverse
      let n := ordered.foldl (fun n b => 256 * n + b.toNat) 0
      (units? lowFirst size [] rest).map (n :: ·)

/-- The characters of units of two bytes. -/
def joinedChars : List Nat → List Char
  | m :: n :: rest =>
    if isHighUnit m && isLowUnit n then
      Char.ofNat (0x10000 + (m - 0xD800) * 0x400 + (n - 0xDC00)) :: joinedChars rest
    else unitChar m :: joinedChars (n :: rest)
  | [n] => [unitChar n]
  | [] => []

/-- The characters of units of four bytes. -/
def wideChars? (ns : List Nat) : Option (List Char) :=
  if ns.all (· < 0x110000) then some (ns.map unitChar) else none

/-- Writes the replacement character for halves of characters, which take three bytes each. -/
def withoutHalves : List UInt8 → List UInt8
  | 0xED :: b :: c :: rest =>
    if 0xA0 ≤ b && 0x80 ≤ c && b < 0xC0 && c < 0xC0 then 0xEF :: 0xBF :: 0xBD :: withoutHalves rest
    else 0xED :: withoutHalves (b :: c :: rest)
  | b :: rest => b :: withoutHalves rest
  | [] => []

/-- The text of bytes. -/
def decode? (e : Encoding) (bytes : List UInt8) : Option String :=
  match e with
  | .narrow => String.fromUTF8? ⟨(withoutHalves bytes).toArray⟩
  | .double lowFirst => (units? lowFirst 2 [] bytes).map fun ns => String.ofList (joinedChars ns)
  | .quadruple lowFirst =>
    ((units? lowFirst 4 [] bytes).bind wideChars?).map String.ofList

end Encoding

/-- The JSON text of bytes in any of the encodings. -/
def textOfBytes? (bytes : List UInt8) : Option String :=
  match Encoding.marked? bytes with
  | some (e, size) => e.decode? (bytes.drop size)
  | none => (Encoding.guessed bytes).decode? bytes

end Reroll.Json
