/-!
# International labels in ASCII

A label of a host name may hold characters beyond ASCII. It is then written as its ASCII characters,
a hyphen if there are any, and the digits of numbers that say which other characters go where. The
numbers are differences, written with digits to the base 36 that follow each other without marks; a
bias that adapts to the numbers seen so far tells where each one ends.
-/

namespace Reroll.Punycode

/-- The number of different digits. -/
def base : Nat := 36

/-- The letter or figure for a digit. -/
def digit (d : Nat) : Char := if d < 26 then Char.ofNat (0x61 + d) else Char.ofNat (0x30 + d - 26)

/-- The least digit that goes on at a place, which the bias shifts between 1 and 26. -/
def threshold (bias place : Nat) : Nat :=
  if place ≤ bias then 1 else if bias + 26 ≤ place then 26 else place - bias

theorem one_le_threshold (bias place : Nat) : 1 ≤ threshold bias place := by
  unfold threshold
  split
  · exact Nat.le_refl 1
  · split <;> omega

/-- The digits of a number from a place on, the lowest one first. -/
def digitsFrom (bias place n : Nat) : List Char :=
  let t := threshold bias place
  if n < t then [digit n]
  else digit (t + (n - t) % (base - t)) :: digitsFrom bias (place + base) ((n - t) / (base - t))
termination_by n
decreasing_by
  have ht := one_le_threshold bias place
  have hle : (n - threshold bias place) / (base - threshold bias place) ≤ n - threshold bias place :=
    Nat.div_le_self _ _
  omega

/-- Divides by 35 until at most 455 remain, and adds a base for each time. -/
def settle (bias delta : Nat) : Nat :=
  if 455 < delta then settle (bias + base) (delta / 35) else bias + 36 * delta / (delta + 38)
termination_by delta
decreasing_by omega

/-- The bias after a number; the first number is taken as much too large. -/
def adapted (delta placed : Nat) (first : Bool) : Nat :=
  let delta := if first then delta / 700 else delta / 2
  settle 0 (delta + delta / placed)

/-- How far the encoding has come: what is written, latest first, the difference so far, the bias
and the number of characters placed. -/
structure Progress where
  written : List Char := []
  delta : Nat := 0
  bias : Nat := 72
  placed : Nat

/-- Passes a character of the label while those with a code are placed. -/
def pass (plain code : Nat) (p : Progress) (c : Char) : Progress :=
  if c.toNat < code then { p with delta := p.delta + 1 }
  else if c.toNat = code then
    { written := (digitsFrom p.bias base p.delta).reverse ++ p.written
      delta := 0
      bias := adapted p.delta (p.placed + 1) (p.placed = plain)
      placed := p.placed + 1 }
  else p

/-- Places the characters with each of the codes, which ascend; those below `next` are placed. -/
def place (label : List Char) (plain next : Nat) (p : Progress) : List Nat → Progress
  | [] => p
  | code :: codes =>
    let p := { p with delta := p.delta + (code - next) * (p.placed + 1) }
    let p := label.foldl (pass plain code) p
    place label plain (code + 1) { p with delta := p.delta + 1 } codes

/-- The different numbers of a list in ascending order. -/
def ascending (ns : List Nat) : List Nat := (ns.mergeSort (· ≤ ·)).eraseDups

/-- A label in ASCII. -/
def encode (label : List Char) : List Char :=
  let plain := label.filter fun c => c.toNat < 0x80
  let codes := ascending ((label.map Char.toNat).filter fun n => 0x80 ≤ n)
  let numbers := (place label plain.length 0x80 { placed := plain.length } codes).written.reverse
  if plain.isEmpty then numbers else plain ++ '-' :: numbers

/-! ### Reading -/

/-- The value of a digit, a small letter or figure. -/
def digitValue? (c : Char) : Option Nat :=
  if 'a' ≤ c && c ≤ 'z' then some (c.toNat - 0x61)
  else if '0' ≤ c && c ≤ '9' then some (c.toNat - 0x30 + 26)
  else none

/-- How far the decoding has come: the characters placed, the place behind the latest one, its code
and the bias, and of the number being read its value, the weight of its next digit and the place of
that digit. -/
structure Reading where
  placed : List Char
  index : Nat := 0
  code : Nat := 0x80
  bias : Nat := 72
  isFirst : Bool := true
  value : Nat := 0
  weight : Nat := 1
  place : Nat := base

/-- Reads a digit. The last one of a number tells where the next character goes and which it is. -/
def Reading.next? (r : Reading) (c : Char) : Option Reading := do
  let d ← digitValue? c
  let least := threshold r.bias r.place
  let value := r.value + d * r.weight
  if least ≤ d then
    return { r with value, weight := r.weight * (base - least), place := r.place + base }
  let room := r.placed.length + 1
  let code := r.code + (r.index + value) / room
  let index := (r.index + value) % room
  if 0x10FFFF < code then none
  else
    return {
      placed := r.placed.insertIdx index (Char.ofNat code)
      index := index + 1
      code
      bias := adapted value room r.isFirst
      isFirst := false }

/-- The label that is written in ASCII; its plain characters end at the last hyphen. A number that
lacks its last digit leaves no label. -/
def decode? (label : List Char) : Option (List Char) :=
  let digits := (label.reverse.takeWhile (· != '-')).reverse
  let plain := label.take (label.length - digits.length - 1)
  match digits.foldlM Reading.next? { placed := plain } with
  | some r => if r.place = base then some r.placed else none
  | none => none

end Reroll.Punycode
