import Reroll.Text.Search
import Reroll.Yaml.Timestamp

/-!
# Tags

The tag of a node says what value it stands for. A plain scalar without a tag has the first tag
whose notation it follows: truth values, numbers, times, null, and the marks for merged mappings
and default values. Everything else is text.
-/

namespace Reroll.Yaml

/-- What a node stands for. -/
inductive Tag where
  | null
  | bool
  | int
  | float
  | binary
  | timestamp
  | omap
  | pairs
  | set
  | str
  | seq
  | map
  | merge
  | value
  | other
  deriving DecidableEq, Repr

namespace Tag

/-- What the names of the usual tags start with. -/
def usualStart : String := "tag:yaml.org,2002:"

/-- The usual tags by the ends of their names. -/
def usual : List (String × Tag) :=
  [("null", .null), ("bool", .bool), ("int", .int), ("float", .float), ("binary", .binary),
    ("timestamp", .timestamp), ("omap", .omap), ("pairs", .pairs), ("set", .set), ("str", .str),
    ("seq", .seq), ("map", .map), ("merge", .merge), ("value", .value)]

/-- The tag with the given full name. -/
def ofName (name : String) : Tag :=
  ((usual.find? fun u => usualStart ++ u.1 == name).map Prod.snd).getD .other

/-! ### Notations of plain scalars -/

/-- A truth value in small letters, capitalized or in capitals. -/
def isBool (cs : List Char) : Bool :=
  ["yes", "Yes", "YES", "no", "No", "NO", "true", "True", "TRUE", "false", "False", "FALSE", "on",
    "On", "ON", "off", "Off", "OFF"].contains (String.ofList cs)

/-- A tilde or the word for null. -/
def isNull (cs : List Char) : Bool := ["~", "null", "Null", "NULL"].contains (String.ofList cs)

/-- A digit or an underscore. -/
def isDigitOrGap (c : Char) : Bool := c.isDigit || c == '_'

/-- The text behind a sign, if there is one. -/
def unsigned : List Char → List Char
  | '+' :: cs => cs
  | '-' :: cs => cs
  | cs => cs

/-- Nonempty and of characters that satisfy `p` only. -/
def isRun (p : Char → Bool) (cs : List Char) : Bool := !cs.isEmpty && cs.all p

/-- A digit and then digits and underscores. -/
def isDigits : List Char → Bool
  | [] => false
  | c :: cs => c.isDigit && cs.all isDigitOrGap

/-- A number of minutes or seconds: one digit, or two up to 59. -/
def isSixty : List Char → Bool
  | [a] => a.isDigit
  | [a, b] => '0' ≤ a && a ≤ '5' && b.isDigit
  | _ => false

/-- A whole number in one of five notations. -/
def isInt (cs : List Char) : Bool :=
  match unsigned cs with
  | [] => false
  | '0' :: rest =>
    match rest with
    | [] => true
    | 'b' :: digits => isRun (fun c => c == '0' || c == '1' || c == '_') digits
    | 'x' :: digits => isRun (fun c => (Json.hexValue? c).isSome || c == '_') digits
    | digits => digits.all fun c => ('0' ≤ c && c ≤ '7') || c == '_'
  | body =>
    match Text.splitOn [':'] body with
    | [whole] => isDigits whole
    | whole :: parts => isDigits whole && parts.all isSixty
    | [] => false

/-- The end of a decimal after its point: digits, underscores and an exponent with a sign. -/
def isFraction (cs : List Char) : Bool :=
  match cs.dropWhile isDigitOrGap with
  | [] => true
  | e :: sign :: digits =>
    (e == 'e' || e == 'E') && (sign == '+' || sign == '-') && isRun Char.isDigit digits
  | _ => false

/-- Hours, minutes and seconds before the point, the hours possibly alone. -/
def isSixtySum (cs : List Char) : Bool :=
  match Text.splitOn [':'] cs with
  | whole :: parts => isDigits whole && parts.all isSixty
  | [] => false

/-- A decimal with a point: digits before it or behind it, or a sum of sixties before it. -/
def isFloat (cs : List Char) : Bool :=
  let body := unsigned cs
  let whole := body.takeWhile (· != '.')
  match body.dropWhile (· != '.') with
  | [] => false
  | _ :: fraction =>
    let name := String.ofList fraction
    if whole.isEmpty then
      ["inf", "Inf", "INF"].contains name ||
        (body.length == cs.length &&
          (["nan", "NaN", "NAN"].contains name ||
            (fraction.head?.any Char.isDigit && isFraction fraction)))
    else if whole.contains ':' then isSixtySum whole && fraction.all isDigitOrGap
    else isDigits whole && isFraction fraction

/-- A date, or a date with a time. -/
def isTimestamp (cs : List Char) : Bool :=
  match Stamp.ofText? cs with
  | none => false
  | some t => t.time.isSome || cs.length == 10

/-- The tag of a plain scalar. -/
def ofPlain (text : String) : Tag :=
  let cs := Stamp.withoutBreak text.toList
  if isBool cs then .bool
  else if isFloat cs then .float
  else if isInt cs then .int
  else if cs == ['<', '<'] then .merge
  else if text.isEmpty || isNull cs then .null
  else if isTimestamp cs then .timestamp
  else if cs == ['='] then .value
  else .str

end Tag

end Reroll.Yaml
