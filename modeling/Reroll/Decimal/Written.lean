import Reroll.Decimal.Shortest

/-!
# Written doubles

Messages write a double with its shortest digits: positional from `10 ^ -4` up to but not
including `10 ^ 16`, always with a fraction, and otherwise with an exponent of at least two
digits.
-/

namespace Reroll.Decimal

/-- The most digits of a whole number that are written or read. -/
def digitLimit : Nat := 4300

/-- The decimal digits of a natural number. -/
def digitsOf (n : Nat) : List Char := Nat.toDigits 10 n

/-- Digits with the point after `whole` of them, zeros filling the gaps. -/
def positional (digits : List Char) (whole : Int) : List Char :=
  if whole ≤ 0 then
    '0' :: '.' :: List.replicate (-whole).toNat '0' ++ digits
  else
    let n := whole.toNat
    if digits.length ≤ n then
      digits ++ List.replicate (n - digits.length) '0' ++ ['.', '0']
    else digits.take n ++ '.' :: digits.drop n

/-- Digits with the point after the first one and an exponent. -/
def withExponent (digits : List Char) (exponent : Int) : List Char :=
  let size := digitsOf exponent.natAbs
  let padded := if size.length < 2 then '0' :: size else size
  let fraction := if digits.length ≤ 1 then [] else '.' :: digits.drop 1
  digits.take 1 ++ fraction ++ 'e' :: (if exponent < 0 then '-' else '+') :: padded

/-- The text of a positive double. -/
def writtenPositive (m : Nat) (e : Int) : List Char :=
  let (c, p) := shortest m e
  let all := digitsOf c
  let digits := (all.reverse.dropWhile (· == '0')).reverse
  let exponent := p + all.length - 1
  if -4 ≤ exponent && exponent < 16 then positional digits (exponent + 1)
  else withExponent digits exponent

/-- The text of a double. -/
def writtenFloat (x : Float) : String :=
  match Binary.ofFloat x with
  | .nan => "nan"
  | .infinite negative => if negative then "-inf" else "inf"
  | .finite negative m e =>
    let size := if m = 0 then ['0', '.', '0'] else writtenPositive m e
    String.ofList (if negative then '-' :: size else size)

end Reroll.Decimal
