import Reroll.Json.Reader

/-!
# Percent signs in addresses

Characters that a part of an address cannot hold are written by their bytes, each one as a percent
sign and two hexadecimal digits. What is written so already stays as it is.
-/

namespace Reroll.Percent

/-- Letters and digits of ASCII. -/
def isAsciiAlnum (c : Char) : Bool :=
  ('a' ≤ c && c ≤ 'z') || ('A' ≤ c && c ≤ 'Z') || ('0' ≤ c && c ≤ '9')

/-- Characters that stand for themselves in every part of an address. -/
def isUnreserved (c : Char) : Bool :=
  isAsciiAlnum c || c == '-' || c == '.' || c == '_' || c == '~'

/-- Visible characters of ASCII and the blank. -/
def isVisible (c : Char) : Bool := ' ' ≤ c && c ≤ '~'

/-- A byte as a percent sign and two capital hexadecimal digits. -/
def byte (b : UInt8) : List Char :=
  let digit (n : Nat) : Char := if n < 10 then Char.ofNat (0x30 + n) else Char.ofNat (0x37 + n)
  ['%', digit (b.toNat / 16), digit (b.toNat % 16)]

/-- Two hexadecimal digits come first. -/
def startsWithPair (cs : List Char) : Bool :=
  (cs.take 2).length == 2 && (cs.take 2).all fun d => (Json.hexValue? d).isSome

/-- Writes characters other than the unreserved and the safe ones by their bytes. -/
def quoted (safe : Char → Bool) : List Char → List Char
  | [] => []
  | c :: cs =>
    if isUnreserved c || safe c || (c == '%' && startsWithPair cs) then c :: quoted safe cs
    else (String.ofList [c]).toUTF8.toList.flatMap byte ++ quoted safe cs

/-- The bytes that a text of ASCII characters stands for. -/
def bytesOf : List Char → List UInt8
  | '%' :: a :: b :: rest =>
    match Json.hexValue? a, Json.hexValue? b with
    | some m, some n => UInt8.ofNat (16 * m + n) :: bytesOf rest
    | _, _ => UInt8.ofNat '%'.toNat :: bytesOf (a :: b :: rest)
  | c :: rest => UInt8.ofNat c.toNat :: bytesOf rest
  | [] => []
termination_by cs => cs.length

/-- The character that bytes are, if they are a single one. -/
def onlyChar? (bytes : List UInt8) : Option Char :=
  match (String.fromUTF8? ⟨bytes.toArray⟩).map String.toList with
  | some [c] => some c
  | _ => none

/-- The character at the start of bytes, with the number of its bytes. -/
def firstChar? (bytes : List UInt8) : Option (Char × Nat) :=
  [1, 2, 3, 4].findSome? fun n => (onlyChar? (bytes.take n)).map fun c => (c, n)

/-- Bytes that some character starts with. -/
def startsChar (bytes : List UInt8) : Bool :=
  [0x80, 0xBF].any fun more =>
    [1, 2, 3].any fun n => (onlyChar? (bytes ++ List.replicate n more)).isSome

/-- The number of bytes at the start that are given up together when they are no character: as
many as some character starts with. -/
def spoiledSize (bytes : List UInt8) : Nat :=
  if startsChar (bytes.take 3) then (bytes.take 3).length
  else if startsChar (bytes.take 2) then (bytes.take 2).length
  else 1

/-- Reads bytes as text after `skip` bytes already read; what is no text becomes the replacement
character. -/
def lenientText (skip : Nat) : List UInt8 → List Char
  | [] => []
  | b :: rest =>
    match skip with
    | k + 1 => lenientText k rest
    | 0 =>
      match firstChar? (b :: rest) with
      | some (c, n) => c :: lenientText (n - 1) rest
      | none => '\uFFFD' :: lenientText (spoiledSize (b :: rest) - 1) rest

/-- The text that an ASCII text with percent signs stands for. -/
def unquoted (cs : List Char) : List Char := lenientText 0 (bytesOf cs)

end Reroll.Percent
