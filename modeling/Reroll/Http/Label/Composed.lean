import Reroll.Http.Label.Accent

/-!
# Composed text

A text is composed when its letters are one character with the marks on them wherever there is such
a character, and other marks stand in their order. To compose a text, its characters are taken
apart, the marks are put in order, and each mark that nothing separates from a letter is put on it.
A syllable that is written in one character stands for itself, as its letters are in no label.
-/

namespace Reroll.Label

/-- The letter and the marks that a character consists of; `fuel` bounds the number of marks. -/
def apartFrom : Nat → Nat → List Nat
  | 0, c => [c]
  | fuel + 1, c =>
    match letterAndMark? c with
    | some (letter, mark) => apartFrom fuel letter ++ [mark]
    | none => [c]

/-- The letter and the marks that a character consists of. There are at most three of them. -/
def apart (c : Nat) : List Nat := apartFrom 3 c

/-- Puts a character in front of a text; as a mark it goes behind those with an earlier place. -/
def inPlace (c : Nat) : List Nat → List Nat
  | [] => [c]
  | d :: rest =>
    if 0 < markPlace d && markPlace d < markPlace c then d :: inPlace c rest else c :: d :: rest

/-- A letter with the marks behind it that could not be put on it, the latest one first. -/
structure Marked where
  letter : Nat
  marks : List Nat := []

/-- The characters of a letter and its marks. -/
def Marked.chars (m : Marked) : List Nat := m.letter :: m.marks.reverse

/-- Nothing stands between the letter and a character with the given place behind its marks. -/
def Marked.reaches (m : Marked) (place : Nat) : Bool :=
  match m.marks with
  | [] => true
  | last :: _ => markPlace last < place

/-- Puts characters on the letter before them where they make one character with it. -/
def together (m : Marked) : List Nat → List Nat
  | [] => m.chars
  | c :: rest =>
    match if m.reaches (markPlace c) then accented? m.letter c else none with
    | some both => together { m with letter := both } rest
    | none =>
      if markPlace c = 0 then m.chars ++ together { letter := c } rest
      else together { m with marks := c :: m.marks } rest

/-- The composed text of the same letters and marks. A mark in front of all letters is taken for a
letter. -/
def composed (cs : List Nat) : List Nat :=
  match (cs.flatMap apart).foldr inPlace [] with
  | [] => []
  | c :: rest => together { letter := c } rest

/-- The text is composed. -/
def isComposed (cs : List Char) : Bool :=
  let codes := cs.map Char.toNat
  codes.all (· < 0x80) || composed codes == codes

end Reroll.Label
