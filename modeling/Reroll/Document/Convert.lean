import Reroll.Document.Shown
import Reroll.Decimal.Read

/-!
# Converting values to numbers

Whole numbers come from numbers, which lose their fraction, and from text; doubles come from
numbers and from text. Everything else is refused with a reason.
-/

namespace Reroll

/-- Why a value is no number of the kind asked for. -/
inductive ConversionError where
  | badInteger (base : Nat) (shown : String)
  | tooManyDigits (digits : Nat)
  | unwritable
  | notInteger (kind : String)
  | infiniteInteger
  | nanInteger
  | badFloat (shown : String)
  | notFloat (kind : String)
  | hugeInteger
  deriving DecidableEq

namespace ConversionError

/-- The wording about a number with too many digits. -/
def limitMessage (detail : String) : String :=
  "Exceeds the limit (" ++ toString Decimal.digitLimit ++ " digits) for integer string conversion" ++
    detail ++ "; use sys.set_int_max_str_digits() to increase the limit"

/-- The wording of a refusal. -/
def message : ConversionError → String
  | .badInteger base shown => "invalid literal for int() with base " ++ toString base ++ ": " ++ shown
  | .tooManyDigits digits => limitMessage (": value has " ++ toString digits ++ " digits")
  | .unwritable => limitMessage ""
  | .notInteger kind =>
    "int() argument must be a string, a bytes-like object or a real number, not '" ++ kind ++ "'"
  | .infiniteInteger => "cannot convert float infinity to integer"
  | .nanInteger => "cannot convert float NaN to integer"
  | .badFloat shown => "could not convert string to float: " ++ shown
  | .notFloat kind => "float() argument must be a string or a real number, not '" ++ kind ++ "'"
  | .hugeInteger => "int too large to convert to float"

/-- The value has the right kind but lies outside the range of the result. -/
def isOverflow : ConversionError → Bool
  | .infiniteInteger => true
  | .hugeInteger => true
  | _ => false

/-- The value has the wrong kind altogether. -/
def isKindError : ConversionError → Bool
  | .notInteger _ => true
  | .notFloat _ => true
  | _ => false

end ConversionError

namespace Decimal

/-- The most characters of a refused text that a message about whole numbers shows. -/
def shownLimit : Nat := 200

/-- The refusal of a text as a whole number. -/
def refused (base : Nat) (shown : String) : ConversionError :=
  .badInteger base (String.ofList (shown.toList.take shownLimit))

/-- Reads a whole number from text, naming the text when it is refused. -/
def intOfText (shown : String) (cs : List Char) : Except ConversionError Int :=
  match readWhole cs with
  | .whole i => .ok i
  | .malformed => .error (refused 10 shown)
  | .tooLong digits => .error (.tooManyDigits digits)

/-- A double without its fraction, or rounded by the given rule. -/
def intOfFloat (round : Rat → Int) (x : Float) : Except ConversionError Int :=
  match Binary.ofFloat x with
  | .nan => .error .nanInteger
  | .infinite _ => .error .infiniteInteger
  | b =>
    match b.toRat? with
    | some q => .ok (round q)
    | none => .error .nanInteger

end Decimal

namespace Number

/-- The number as a double. -/
def toFloat : Number → Except ConversionError Float
  | .float x => .ok x
  | .int i =>
    match Decimal.floatOfInt? i with
    | some x => .ok x
    | none => .error .hugeInteger
  | .minusNaN => .ok (0.0 / 0.0)

/-- The nearest whole number, a half to the even one. -/
def rounded : Number → Except ConversionError Int
  | .int i => .ok i
  | .float x => Decimal.intOfFloat Decimal.roundHalfEven x
  | .minusNaN => .error .nanInteger

end Number

namespace Value

/-- The value in the notation of literals, unless a number in it is too long to be written. -/
def written (v : Value) : Except ConversionError String :=
  if v.isWritable then .ok v.shown else .error .unwritable

/-- The plain form of the value, unless a number in it is too long to be written. -/
def writtenPlain (v : Value) : Except ConversionError String :=
  if v.isWritable then .ok v.plain else .error .unwritable

/-- The value as a whole number. -/
def toInt : Value → Except ConversionError Int
  | .num (.int i) => .ok i
  | .num (.float x) => Decimal.intOfFloat Decimal.truncate x
  | .num .minusNaN => .error .nanInteger
  | .bool b => .ok (if b then 1 else 0)
  | .text s => Decimal.intOfText (Text.quoted s) s.toList
  | .bytes bs => Decimal.intOfText (shownBytes bs) (bs.map fun b => Char.ofNat b.toNat)
  | v => .error (.notInteger v.fullKindName)

/-- The value as a double, which keeps its sign even when it is a NaN. -/
def toReal : Value → Except ConversionError Number
  | .num (.int i) => (Number.int i).toFloat.map .float
  | .num n => .ok n
  | .bool b => .ok (.float (if b then 1.0 else 0.0))
  | .text s =>
    match Decimal.readReal s.toList with
    | some n => .ok n
    | none => .error (.badFloat (Text.quoted s))
  | .bytes bs =>
    match Decimal.readReal (bs.map fun b => Char.ofNat b.toNat) with
    | some n => .ok n
    | none => .error (.badFloat (shownBytes bs))
  | v => .error (.notFloat v.fullKindName)

/-- The value as a double. -/
def toFloat (v : Value) : Except ConversionError Float := v.toReal.bind Number.toFloat

end Value

end Reroll
