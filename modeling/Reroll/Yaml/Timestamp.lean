import Reroll.Document.Value
import Reroll.Json.Reader

/-!
# Timestamps

A date has dashes; a time may follow after a `T` or blanks, with a fraction and a distance from
universal time. The parts must make up a day of the calendar and a time of the day.
-/

namespace Reroll.Yaml

/-- Why parts make up no timestamp. -/
inductive StampError where
  | year (n : Nat)
  | month
  | day
  | hour
  | minute
  | second
  | offset (minutes : Int)

/-- The written parts of a time. -/
structure StampTime where
  hour : Nat
  minute : Nat
  second : Nat
  fraction : List Char
  offset : Option Int

/-- The written parts of a timestamp. -/
structure Stamp where
  year : Nat
  month : Nat
  day : Nat
  time : Option StampTime

namespace Stamp

/-- Text without a line feed at its end. -/
def withoutBreak (cs : List Char) : List Char :=
  if cs.getLast? == some '\n' then cs.dropLast else cs

/-- A number of `least` up to `most` digits at the start. -/
def takeNumber (least most : Nat) (cs : List Char) : Option (Nat × List Char) :=
  let digits := (cs.take most).takeWhile Char.isDigit
  if digits.length < least then none
  else some (Text.digitsValue digits, cs.drop digits.length)

/-- What follows a given character. -/
def after (c : Char) : List Char → Option (List Char)
  | [] => none
  | d :: cs => if d = c then some cs else none

/-- A blank or a tab. -/
def isBlank (c : Char) : Bool := c == ' ' || c == '\t'

/-- Hours and minutes of a distance from universal time; the minutes may be missing. -/
def distance? (cs : List Char) : Option Int := do
  let (hours, rest) ← takeNumber 1 2 cs
  match rest with
  | [] => some (60 * hours : Nat)
  | ':' :: more =>
    let (minutes, rest) ← takeNumber 2 2 more
    if rest.isEmpty then some (60 * hours + minutes : Nat) else none
  | _ => none

/-- The end of a time: a distance from universal time, in minutes, or nothing. -/
def offset? (cs : List Char) : Option (Option Int) :=
  if cs.isEmpty then some none
  else
    match cs.dropWhile isBlank with
    | ['Z'] => some (some 0)
    | '+' :: rest => (distance? rest).map some
    | '-' :: rest => (distance? rest).map fun m => some (-m)
    | _ => none

/-- The digits after a point, if there is one, and the rest. -/
def takeFraction : List Char → List Char × List Char
  | '.' :: cs => (cs.takeWhile Char.isDigit, cs.dropWhile Char.isDigit)
  | cs => ([], cs)

/-- A time with everything that follows it. -/
def time? (cs : List Char) : Option StampTime := do
  let (hour, rest) ← takeNumber 1 2 cs
  let (minute, rest) ← takeNumber 2 2 (← after ':' rest)
  let (second, rest) ← takeNumber 2 2 (← after ':' rest)
  let (fraction, rest) := takeFraction rest
  let offset ← offset? rest
  return { hour, minute, second, fraction, offset }

/-- The parts of a timestamp. -/
def ofText? (text : List Char) : Option Stamp := do
  let (year, rest) ← takeNumber 4 4 (withoutBreak text)
  let (month, rest) ← takeNumber 1 2 (← after '-' rest)
  let (day, rest) ← takeNumber 1 2 (← after '-' rest)
  match rest with
  | [] => return { year, month, day, time := none }
  | c :: more =>
    if c = 'T' || c = 't' then return { year, month, day, time := some (← time? more) }
    else if isBlank c then
      return { year, month, day, time := some (← time? (more.dropWhile isBlank)) }
    else none

/-- The day of the calendar. -/
def date (t : Stamp) : Except StampError Date :=
  if t.year = 0 then .error (.year t.year)
  else if t.month = 0 || 12 < t.month then .error .month
  else if t.day = 0 || Date.daysIn t.year t.month < t.day then .error .day
  else .ok ⟨t.year, t.month, t.day⟩

/-- The first six digits of a fraction, as millionths. -/
def millionths (digits : List Char) : Nat :=
  let kept := digits.take 6
  Text.digitsValue kept * Nat.pow 10 (6 - kept.length)

/-- The moment of a day. -/
def moment (d : Except StampError Date) (t : StampTime) : Except StampError Moment := do
  match t.offset with
  | some o => if 24 * 60 ≤ o.natAbs then throw (.offset o)
  | none => pure ()
  let date ← d
  if 23 < t.hour then throw .hour
  if 59 < t.minute then throw .minute
  if 59 < t.second then throw .second
  return { date, hour := t.hour, minute := t.minute, second := t.second
           micro := millionths t.fraction, offset := t.offset }

/-- The value of a timestamp. -/
def value (t : Stamp) : Except StampError Value :=
  match t.time with
  | none => t.date.map .date
  | some time => (moment t.date time).map .moment

end Stamp

namespace StampError

/-- A length of time in whole days and the seconds beyond them. -/
def lengthText (minutes : Int) : String :=
  let days := (minutes * 60).fdiv 86400
  let seconds := (minutes * 60).fmod 86400
  let parts := (if days = 0 then [] else ["days=" ++ toString days]) ++
    (if seconds = 0 then [] else ["seconds=" ++ toString seconds])
  "datetime.timedelta(" ++ (if parts.isEmpty then "0" else String.intercalate ", " parts) ++ ")"

/-- The wording of the reason. -/
def message : StampError → String
  | .year n => "year " ++ toString n ++ " is out of range"
  | .month => "month must be in 1..12"
  | .day => "day is out of range for month"
  | .hour => "hour must be in 0..23"
  | .minute => "minute must be in 0..59"
  | .second => "second must be in 0..59"
  | .offset minutes =>
    "offset must be a timedelta strictly between -timedelta(hours=24) and timedelta(hours=24), not " ++
      lengthText minutes ++ "."

end StampError

end Reroll.Yaml
