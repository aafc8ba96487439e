/-!
# The exact value of a double

A finite double is a whole number times a power of two. Everything that must be exact about
doubles, such as comparing them with whole numbers, rounding them or writing them in decimal,
goes through this form.
-/

namespace Reroll.Decimal

/-- What a double stands for; a finite one is `±mantissa * 2 ^ exponent`. -/
inductive Binary where
  | nan
  | infinite (negative : Bool)
  | finite (negative : Bool) (mantissa : Nat) (exponent : Int)
  deriving DecidableEq, Repr

/-- The parts of the 64 bits of a double: sign, eleven bits of exponent, 52 bits of fraction. -/
def Binary.ofBits (bits : Nat) : Binary :=
  let negative := decide (bits / Nat.pow 2 63 % 2 = 1)
  let biased : Nat := bits / Nat.pow 2 52 % Nat.pow 2 11
  let fraction : Nat := bits % Nat.pow 2 52
  if biased = 2047 then
    if fraction = 0 then .infinite negative else .nan
  else if biased = 0 then .finite negative fraction (-1074)
  else .finite negative (Nat.pow 2 52 + fraction) ((biased : Int) - 1075)

/-- The parts of a double. -/
def Binary.ofFloat (x : Float) : Binary := .ofBits x.toBits.toNat

/-- A power of two as a fraction. -/
def twoPow (e : Int) : Rat :=
  if 0 ≤ e then (Nat.pow 2 e.toNat : Rat) else mkRat 1 (Nat.pow 2 (-e).toNat)

/-- The value of a finite double. -/
def Binary.toRat? : Binary → Option Rat
  | .finite negative m e =>
    let size := (m : Rat) * twoPow e
    some (if negative then -size else size)
  | _ => none

/-- A fraction rounded to the nearest whole number, a half to the even one. -/
def roundHalfEven (q : Rat) : Int :=
  let low := q.floor
  let rest := q - (low : Rat)
  if rest < mkRat 1 2 then low
  else if mkRat 1 2 < rest then low + 1
  else if low % 2 = 0 then low
  else low + 1

/-- A fraction without its fractional part. -/
def truncate (q : Rat) : Int := if q < 0 then -(-q).floor else q.floor

end Reroll.Decimal
