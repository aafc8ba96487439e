import Reroll.Document.Value

/-!
# The order of members

A set keeps no order of its own. Numbers are shown in the order of their seats: a number has its
seat at its remainder by the number of seats, or at a later one when that is taken. The remainder
is that of a residue modulo a prime, so that equal numbers of different kinds have one seat, and
fractions have one at all. Members that are not numbers stay as they were written.
-/

namespace Reroll.Members

/-- The prime by which residues are taken. -/
def modulus : Nat := Nat.pow 2 61 - 1

/-- The residue of a number, whose sign it keeps. Halving is doubling sixty times. -/
def residue? (v : Value) : Option Int :=
  match v.number?.bind Number.magnitude? with
  | none => none
  | some .lowest => some (-314159)
  | some .highest => some 314159
  | some (.value q) =>
    let halvings := q.den.log2 % 61
    let size : Int := (q.num.natAbs * Nat.pow 2 (61 - halvings) % modulus : Nat)
    some (if 0 ≤ q.num then size else if size = 1 then -2 else -size)

/-- The number of seats for `n` members: eight, or more than twice as many as members. -/
def seats (n : Nat) : Nat := if n < 5 then 8 else Nat.pow 2 ((2 * n).log2 + 1)

/-- Seats a member at the first free seat from a position on, among ten as long as there are so
many, else elsewhere. The higher digits of the residue, five at a time, decide where. -/
def seat (v : Value) (table : Array (Option Value)) (i rest : Nat) :
    Nat → Array (Option Value)
  | 0 => table
  | fuel + 1 =>
    let near := List.range (if i + 9 < table.size then 10 else 1)
    match near.find? fun k => (table[i + k]?).any Option.isNone with
    | some k => table.setIfInBounds (i + k) (some v)
    | none => seat v table ((5 * i + 1 + rest / 32) % table.size) (rest / 32) fuel

/-- Seats a member by its residue, which is read as a word of 64 digits. After thirteen moves the
position runs through all seats. -/
def seatBy (table : Array (Option Value)) (m : Value × Int) : Array (Option Value) :=
  let word := (m.2.emod (Nat.pow 2 64)).toNat
  seat m.1 table (word % table.size) word (table.size + 14)

/-- The members of a set in order. -/
def inOrder (items : List Value) : List Value :=
  match items.mapM residue? with
  | none => items
  | some residues =>
    let empty := Array.replicate (seats items.length) none
    (((items.zip residues).foldl seatBy empty).toList).filterMap id

end Reroll.Members
