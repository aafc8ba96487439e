import Reroll.Number
import Reroll.Text.Digit
import Reroll.Text.Space

/-!
# Reading numbers

Whole numbers and doubles are read from text with blanks around them, a sign, digits of any
script and single underscores between digits. A whole number of more than 4300 digits is
refused; a double is the nearest one to the decimal written.
-/

namespace Reroll.Decimal

/-- Blanks that may surround a number: all but the ASCII separators. -/
def isNumberBlank (c : Char) : Bool :=
  Text.isSpace c && !(0x1C ≤ c.toNat && c.toNat ≤ 0x1F)

/-- Text without the blanks around a number. -/
def stripNumber (cs : List Char) : List Char :=
  ((cs.dropWhile isNumberBlank).reverse.dropWhile isNumberBlank).reverse

/-- A sign and what follows it. -/
def takeSign : List Char → Bool × List Char
  | '-' :: cs => (true, cs)
  | '+' :: cs => (false, cs)
  | cs => (false, cs)

/-- What a text says as a whole number. -/
inductive WholeReading where
  | whole (i : Int)
  | malformed
  | tooLong (digits : Nat)
  deriving DecidableEq

/-- The leading digits and the rest; `none` when underscores are misplaced among them. -/
def takeDigits (afterDigit : Bool) : List Char → Option (List Char × List Char)
  | [] => some ([], [])
  | c :: cs =>
    if Text.isDigit c then (takeDigits true cs).map fun r => (c :: r.1, r.2)
    else if c = '_' then
      match cs with
      | [] => none
      | d :: _ => if afterDigit && Text.isDigit d then takeDigits false cs else none
    else some ([], c :: cs)

/-- Reads a whole number. -/
def readWhole (cs : List Char) : WholeReading :=
  let (negative, body) := takeSign (stripNumber cs)
  match takeDigits false body with
  | none => .malformed
  | some (digits, rest) =>
    if digitLimit < digits.length then .tooLong digits.length
    else if digits.isEmpty || !rest.isEmpty then .malformed
    else
      let n : Int := Text.digitsValue digits
      .whole (if negative then -n else n)

/-- The double nearest to `digits * 10 ^ exponent`. -/
def nearestDouble (digits : Nat) (exponent : Int) : Float :=
  if digits = 0 then 0.0
  else
    let size := (toString digits).length + exponent
    if 400 < size then Float.ofScientific 1 false 400
    else if size < -400 then 0.0
    else Float.ofScientific digits (exponent < 0) exponent.natAbs

/-- Underscores stand between two digits only; without them the text is read as it is. -/
def dropUnderscores (afterDigit : Bool) : List Char → Option (List Char)
  | [] => some []
  | c :: cs =>
    if c = '_' then
      match cs with
      | [] => none
      | d :: _ => if afterDigit && Text.isDigit d then dropUnderscores false cs else none
    else (dropUnderscores (Text.isDigit c) cs).map (c :: ·)

/-- The digits of an exponent with its sign; absent exponents are zero. -/
def readExponent : List Char → Option Int
  | [] => some 0
  | e :: cs =>
    if e = 'e' || e = 'E' then
      let (negative, digits) := takeSign cs
      if digits.isEmpty || !digits.all Text.isDigit then none
      else
        let n : Int := Text.digitsValue digits
        some (if negative then -n else n)
    else none

/-- The letters of ASCII made small. -/
def asciiLower (c : Char) : Char :=
  if 'A' ≤ c && c ≤ 'Z' then Char.ofNat (c.toNat + 32) else c

/-- The words that stand for doubles without digits. -/
def readNamed (cs : List Char) : Option Float :=
  let name := String.ofList (cs.map asciiLower)
  if name = "inf" || name = "infinity" then some (1.0 / 0.0)
  else if name = "nan" then some (0.0 / 0.0)
  else none

/-- A decimal without sign. -/
def readUnsigned (cs : List Char) : Option Float :=
  let whole := cs.takeWhile Text.isDigit
  let rest := cs.dropWhile Text.isDigit
  let fraction :=
    match rest with
    | '.' :: more => more.takeWhile Text.isDigit
    | _ => []
  let tail :=
    match rest with
    | '.' :: more => more.dropWhile Text.isDigit
    | _ => rest
  if whole.isEmpty && fraction.isEmpty then none
  else
    (readExponent tail).map fun e =>
      nearestDouble (Text.digitsValue (whole ++ fraction)) (e - fraction.length)

/-- A double by its sign and its size. -/
def readSigned (cs : List Char) : Option (Bool × Float) :=
  let (negative, size) := takeSign cs
  ((readNamed size).orElse fun _ => readUnsigned size).map fun x => (negative, x)

/-- Reads a double with its sign. -/
def readReal (cs : List Char) : Option Number :=
  ((dropUnderscores false (stripNumber cs)).bind readSigned).map fun r => .signed r.1 r.2

/-- Reads a double. -/
def readFloat (cs : List Char) : Option Float :=
  ((dropUnderscores false (stripNumber cs)).bind readSigned).map fun r => if r.1 then -r.2 else r.2

/-- The double nearest to a whole number, unless it is too large for one. -/
def floatOfInt? (i : Int) : Option Float :=
  let x := nearestDouble i.natAbs 0
  if x.isInf then none else some (if i < 0 then -x else x)

end Reroll.Decimal
