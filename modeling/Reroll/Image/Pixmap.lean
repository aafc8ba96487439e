import Reroll.Image.Basic

/-!
# Portable pixmaps

The binary portable formats: a mark, the width, the height and the greatest sample as decimal
numbers between blanks and comments, one more character, and the samples row by row. A gray pixmap
is read as a colored image whose three samples agree; samples of two bytes keep the first.
-/

namespace Reroll.Image

/-- A character that may stand between the numbers of a header. -/
def isHeaderBlank (b : UInt8) : Bool := b == 32 || (9 ≤ b && b ≤ 13)

/-- A decimal digit. -/
def isHeaderDigit (b : UInt8) : Bool := 48 ≤ b && b ≤ 57

/-- Leaves out blanks, and comments from a number sign to the end of the line. -/
def skipHeader (inComment : Bool) : List UInt8 → List UInt8
  | [] => []
  | b :: rest =>
    if inComment then skipHeader (b != 10 && b != 13) rest
    else if b == 35 then skipHeader true rest
    else if isHeaderBlank b then skipHeader false rest
    else b :: rest

/-- The greatest number that a header may hold. -/
def headerLimit : Nat := Nat.pow 2 31 - 1

/-- Reads a number and the one character after it. -/
def readHeaderNumber (bytes : List UInt8) : Option (Nat × List UInt8) :=
  let bytes := skipHeader false bytes
  let digits := bytes.takeWhile isHeaderDigit
  let value := digits.foldl (fun n b => 10 * n + (b.toNat - 48)) 0
  if digits.isEmpty || headerLimit < value then none
  else some (value, bytes.drop (digits.length + 1))

/-- The first byte of every two. -/
def everySecond : List UInt8 → List UInt8
  | a :: _ :: rest => a :: everySecond rest
  | rest => rest

/-- The pixels of a file with one sample for each channel, in the order blue, green, red. -/
def turned (colored : Bool) : List UInt8 → List UInt8
  | [] => []
  | a :: rest =>
    if colored then
      match rest with
      | b :: c :: rest => c :: b :: a :: turned colored rest
      | _ => []
    else a :: a :: a :: turned colored rest

/-- Reads a binary pixmap, if the bytes are one and all samples are there. -/
def ofPixmap? (bytes : List UInt8) : Option Image :=
  match bytes with
  | 80 :: kind :: blank :: rest =>
    if !(kind == 53 || kind == 54) || !isHeaderBlank blank then none
    else do
      let (width, rest) ← readHeaderNumber (blank :: rest)
      let (height, rest) ← readHeaderNumber rest
      let (greatest, rest) ← readHeaderNumber rest
      if width = 0 || height = 0 || greatest = 0 || 65535 < greatest then none
      else
        let colored := kind == 54
        let wide := 255 < greatest
        let count := width * height * (if colored then 3 else 1) * (if wide then 2 else 1)
        let body := rest.take count
        if body.length < count then none
        else
          some { height, width, colored := true
                 samples := (turned colored (if wide then everySecond body else body)).toArray }
  | _ => none

end Reroll.Image
