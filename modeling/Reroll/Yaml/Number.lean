import Reroll.Document.Convert
import Reroll.Text.Lower
import Reroll.Text.Search

/-!
# Numbers in YAML

Whole numbers are written in base ten, two, eight or sixteen, or as a sum of sixties with colons;
decimals likewise in base ten or as a sum of sixties. Underscores may stand anywhere.
-/

namespace Reroll.Yaml

/-- Why a text that is tagged as a number is none. -/
inductive NumberError where
  | empty
  | conversion (e : ConversionError)

namespace Digits

/-- The value of a digit in bases up to thirty-six. -/
def valueOf? (c : Char) : Option Nat :=
  let small := Decimal.asciiLower c
  if 'a' ≤ small && small ≤ 'z' then some (small.toNat - 0x57) else Text.digitValue? c

/-- The letter that may follow a zero in front of digits of a base. -/
def baseLetter? (base : Nat) : Option Char :=
  if base = 2 then some 'b' else if base = 8 then some 'o' else if base = 16 then some 'x' else none

/-- Digits without the mark of their base. -/
def withoutMark (base : Nat) (cs : List Char) : List Char :=
  match cs with
  | '0' :: c :: rest => if baseLetter? base = some (Decimal.asciiLower c) then rest else cs
  | _ => cs

/-- The number written by digits of a base. -/
def number? (base : Nat) (cs : List Char) : Option Nat :=
  if cs.isEmpty then none
  else
    cs.foldl
      (fun n c => n.bind fun n => (valueOf? c).bind fun d =>
        if d < base then some (base * n + d) else none) (some 0)

/-- Reads a whole number in a base, naming the text when it is refused. -/
def readIn (base : Nat) (cs : List Char) : Except ConversionError Int :=
  let (negative, body) := Decimal.takeSign (Decimal.stripNumber cs)
  match number? base (withoutMark base body) with
  | some n => .ok (if negative then -(n : Int) else n)
  | none => .error (Decimal.refused base (Text.quoted (String.ofList cs)))

end Digits

/-- The sign of a number and what follows it; the text without underscores is not empty. -/
def takeNumberSign (text : List Char) : Except NumberError (Bool × List Char) :=
  match text.filter (· != '_') with
  | [] => .error .empty
  | c :: cs => .ok (c == '-', if c == '-' || c == '+' then cs else c :: cs)

/-- Reads a whole number in base ten. -/
def wholeOf (cs : List Char) : Except ConversionError Int :=
  Decimal.intOfText (Text.quoted (String.ofList cs)) cs

/-- Reads a whole number without sign. -/
def readUnsignedInt (body : List Char) : Except NumberError Int :=
  match body with
  | [] => .error .empty
  | ['0'] => .ok 0
  | '0' :: 'b' :: digits => (Digits.readIn 2 digits).mapError .conversion
  | '0' :: 'x' :: digits => (Digits.readIn 16 digits).mapError .conversion
  | '0' :: _ => (Digits.readIn 8 body).mapError .conversion
  | _ =>
    if body.contains ':' then
      match (Text.splitOn [':'] body).mapM wholeOf with
      | .error e => .error (.conversion e)
      | .ok parts => .ok (parts.foldl (fun n d => 60 * n + d) 0)
    else (wholeOf body).mapError .conversion

/-- Reads a whole number. -/
def readInt (text : String) : Except NumberError Int := do
  let (negative, body) ← takeNumberSign text.toList
  let n ← readUnsignedInt body
  return if negative then -n else n

/-- Reads a decimal in base ten. -/
def decimalOf (cs : List Char) : Except NumberError Float :=
  match Decimal.readFloat cs with
  | some x => .ok x
  | none => .error (.conversion (.badFloat (Text.quoted (String.ofList cs))))

/-- The sum of parts, the last one first, each worth sixty times the one before. The weights are
whole numbers, and one that is too large for a double is a fault. -/
def sumOfSixties (weight : Nat) (sum : Float) : List Float → Except NumberError Float
  | [] => .ok sum
  | x :: rest =>
    match Decimal.floatOfInt? weight with
    | none => .error (.conversion .hugeInteger)
    | some w => sumOfSixties (weight * 60) (sum + x * w) rest

/-- Reads a decimal without sign. -/
def readUnsignedFloat (body : List Char) : Except NumberError Float :=
  if body = ".inf".toList then .ok (1.0 / 0.0)
  else if body = ".nan".toList then .ok (0.0 / 0.0)
  else if body.contains ':' then do
    let parts ← (Text.splitOn [':'] body).mapM decimalOf
    sumOfSixties 1 0.0 parts.reverse
  else decimalOf body

/-- Reads a decimal. -/
def readDecimal (text : String) : Except NumberError Float := do
  let (negative, body) ← takeNumberSign (Text.lower text.toList)
  let x ← readUnsignedFloat body
  return if negative then -x else x

end Reroll.Yaml
