import Reroll.Decimal.Binary

/-!
# Shortest decimal digits

The shortest digits of a positive double are the fewest decimal digits that read back as the
same double; among equally short ones the nearest to the double, and of two equally near ones
the even one. All arithmetic is on natural numbers.
-/

namespace Reroll.Decimal

/-- The numbers that read as one double: between `low` and `high`, all over `den`. -/
structure Interval where
  low : Nat
  value : Nat
  high : Nat
  den : Nat
  closed : Bool

/-- The interval around `m * 2 ^ e`: halfway to the neighbours, closed when `m` is even. -/
def Interval.around (m : Nat) (e : Int) : Interval :=
  let below := if m = Nat.pow 2 52 && -1074 < e then 1 else 2
  let scale := e - 2
  let up := Nat.pow 2 scale.toNat
  { low := (4 * m - below) * up
    value := 4 * m * up
    high := (4 * m + 2) * up
    den := Nat.pow 2 (-scale).toNat
    closed := m % 2 = 0 }

/-- `c * 10 ^ p` compared with `n / den`, both multiplied up to natural numbers. -/
def scaled (c : Nat) (p : Int) (n den : Nat) : Nat × Nat :=
  (c * Nat.pow 10 p.toNat * den, n * Nat.pow 10 (-p).toNat)

/-- The decimal `c * 10 ^ p` lies in the interval. -/
def Interval.holds (i : Interval) (c : Nat) (p : Int) : Bool :=
  let above := scaled c p i.low i.den
  let under := scaled c p i.high i.den
  if i.closed then above.2 ≤ above.1 && under.1 ≤ under.2
  else above.2 < above.1 && under.1 < under.2

/-- The nearest of two neighbouring decimals that both lie in the interval. -/
def Interval.nearer (i : Interval) (c : Nat) (p : Int) : Nat :=
  let lower := scaled c p i.value i.den
  let upper := scaled (c + 1) p i.value i.den
  let down := lower.2 - lower.1
  let up := upper.1 - upper.2
  if down < up then c else if up < down then c + 1 else if c % 2 = 0 then c else c + 1

/-- The exponent `d` with `10 ^ d ≤ n / den < 10 ^ (d + 1)`, looked for upwards from a bound. -/
def decimalExponentFrom (n den : Nat) : Nat → Int → Int
  | 0, d => d
  | fuel + 1, d =>
    let next := scaled 1 (d + 1) n den
    if next.1 ≤ next.2 then decimalExponentFrom n den fuel (d + 1) else d

/-- The decimal exponent of the value `n / den` of a double. -/
def decimalExponent (n den : Nat) : Int :=
  let bits : Int := (n.log2 : Int) - (den.log2 : Int)
  decimalExponentFrom n den 4 ((bits - 1) * 30103 / 100000 - 2)

/-- Tries one more digit at a time; `digits` digits suffice when none are left to try. -/
def shortestFrom (i : Interval) (d : Int) : Nat → Nat → Nat × Int
  | 0, digits =>
    let p := d - digits + 1
    (i.value * Nat.pow 10 (-p).toNat / (i.den * Nat.pow 10 p.toNat), p)
  | tries + 1, digits =>
    let p := d - digits + 1
    let c := i.value * Nat.pow 10 (-p).toNat / (i.den * Nat.pow 10 p.toNat)
    match i.holds c p, i.holds (c + 1) p with
    | true, true => (i.nearer c p, p)
    | true, false => (c, p)
    | false, true => (c + 1, p)
    | false, false => shortestFrom i d tries (digits + 1)

/-- The shortest decimal `c * 10 ^ p` that reads back as the positive double `m * 2 ^ e`. -/
def shortest (m : Nat) (e : Int) : Nat × Int :=
  let i := Interval.around m e
  shortestFrom i (decimalExponent i.value i.den) 17 1

end Reroll.Decimal
