import Reroll.Document.Value
import Reroll.Text.Quoted

/-!
# Shown values

Messages show a value in the notation of literals: texts in quotes, lists in brackets, mappings
in braces. A text on its own, and a date, also have a plain form without decoration.
-/

namespace Reroll

/-- A number with at least `width` digits. -/
def padded (width n : Nat) : String :=
  let digits := toString n
  String.ofList (List.replicate (width - digits.length) '0') ++ digits

namespace Date

/-- Year, month and day with dashes. -/
def text (d : Date) : String := padded 4 d.year ++ "-" ++ padded 2 d.month ++ "-" ++ padded 2 d.day

end Date

namespace Moment

/-- Hours and minutes of a distance from universal time, with a sign. -/
def offsetText (minutes : Int) : String :=
  (if minutes < 0 then "-" else "+") ++ padded 2 (minutes.natAbs / 60) ++ ":" ++
    padded 2 (minutes.natAbs % 60)

/-- Date and time, the fraction only when there is one. -/
def text (m : Moment) : String :=
  m.date.text ++ " " ++ padded 2 m.hour ++ ":" ++ padded 2 m.minute ++ ":" ++ padded 2 m.second ++
    (if m.micro = 0 then "" else "." ++ padded 6 m.micro) ++
    (match m.offset with
      | none => ""
      | some o => offsetText o)

/-- A distance from universal time as whole days and the seconds beyond them. -/
def shownOffset (minutes : Int) : String :=
  if minutes = 0 then "datetime.timezone.utc"
  else
    let seconds := minutes * 60
    let days := seconds.fdiv 86400
    let rest := seconds.fmod 86400
    let parts := (if days = 0 then [] else ["days=" ++ toString days]) ++
      (if rest = 0 then [] else ["seconds=" ++ toString rest])
    "datetime.timezone(datetime.timedelta(" ++ String.intercalate ", " parts ++ "))"

/-- The parts of a moment, without the trailing zeros of its time. -/
def shown (m : Moment) : String :=
  let time :=
    if m.micro ≠ 0 then [m.hour, m.minute, m.second, m.micro]
    else if m.second ≠ 0 then [m.hour, m.minute, m.second]
    else [m.hour, m.minute]
  let parts := ([m.date.year, m.date.month, m.date.day] ++ time).map toString
  let zone :=
    match m.offset with
    | none => []
    | some o => ["tzinfo=" ++ shownOffset o]
  "datetime.datetime(" ++ String.intercalate ", " (parts ++ zone) ++ ")"

end Moment

/-- A byte inside quotes. -/
def shownByte (quote : Char) (b : UInt8) : List Char :=
  let c := Char.ofNat b.toNat
  if c = quote || c = '\\' then ['\\', c]
  else if c = '\n' then ['\\', 'n']
  else if c = '\r' then ['\\', 'r']
  else if c = '\t' then ['\\', 't']
  else if 0x20 ≤ b.toNat && b.toNat < 0x7F then [c]
  else '\\' :: 'x' :: Text.hexPadded 2 b.toNat

/-- Bytes in quotes, with a mark in front. -/
def shownBytes (bs : List UInt8) : String :=
  let quote := Text.quoteFor (bs.map fun b => Char.ofNat b.toNat)
  String.ofList ('b' :: quote :: bs.flatMap (shownByte quote) ++ [quote])

namespace Value

/-- What stands for a collection inside itself. -/
def ellipsis : Value → String
  | .map _ => "\x7b...\x7d"
  | _ => "[...]"

mutual

/-- A value in the notation of literals, inside the given knots. -/
def shownIn (knots : List (Nat × String)) : Value → String
  | .null => "None"
  | .bool b => if b then "True" else "False"
  | .num n => n.text
  | .text s => Text.quoted s
  | .list items => "[" ++ String.intercalate ", " (shownAll knots items) ++ "]"
  | .map fields => "\x7b" ++ String.intercalate ", " (shownFields knots fields) ++ "\x7d"
  | .date d => "datetime.date(" ++ String.intercalate ", " ([d.year, d.month, d.day].map toString) ++ ")"
  | .moment m => m.shown
  | .bytes bs => shownBytes bs
  | .set items =>
    if items.isEmpty then "set()"
    else "\x7b" ++ String.intercalate ", " (shownAll knots items) ++ "\x7d"
  | .pair a b => "(" ++ shownIn knots a ++ ", " ++ shownIn knots b ++ ")"
  | .knot number v =>
    match knots.lookup number with
    | some mark => mark
    | none => shownIn ((number, ellipsis v) :: knots) v
  | .again number => (knots.lookup number).getD ""

/-- Values in the notation of literals. -/
def shownAll (knots : List (Nat × String)) : List Value → List String
  | [] => []
  | v :: rest => shownIn knots v :: shownAll knots rest

/-- Fields with a colon between key and value. -/
def shownFields (knots : List (Nat × String)) : List (Value × Value) → List String
  | [] => []
  | (k, v) :: rest => (shownIn knots k ++ ": " ++ shownIn knots v) :: shownFields knots rest

end

/-- A value in the notation of literals. -/
def shown (v : Value) : String := v.shownIn []

mutual

/-- No whole number in the value is too long to be written. -/
def isWritable : Value → Bool
  | .num n => n.isWritable
  | .list items => areWritable items
  | .map fields => fieldsWritable fields
  | .set items => areWritable items
  | .pair a b => isWritable a && isWritable b
  | .knot _ v => isWritable v
  | _ => true

/-- No whole number in the values is too long to be written. -/
def areWritable : List Value → Bool
  | [] => true
  | v :: rest => isWritable v && areWritable rest

/-- No whole number in the fields is too long to be written. -/
def fieldsWritable : List (Value × Value) → Bool
  | [] => true
  | (k, v) :: rest => isWritable k && isWritable v && fieldsWritable rest

end

/-- The plain form of a value: a text as it is, a date without decoration. -/
def plain : Value → String
  | .text s => s
  | .date d => d.text
  | .moment m => m.text
  | v => v.shown

end Value

end Reroll
