import Reroll.Decimal.Read
import Reroll.Document.Value
import Reroll.Text.Lower
import Reroll.Text.Search
import Reroll.Text.Space

/-!
# When files of records are replaced

A file of records is replaced when it is as large as a size, as old as a length of time, at a
frequency or at a time of a day, and old files are kept for a length of time. All of these are
given as texts. Here it is only checked that they say something.
-/

namespace Reroll

/-- Why a text says nothing about the replacement of files. -/
inductive RotationError where
  | unclear (purpose text : String)
  | invalid (part whole text : String)
  | kind (name : String)
  | none
  | manyDays (days : Int)
  | tooManyDays
  | endless
  | notNumber
  deriving DecidableEq

namespace RotationError

/-- The wording of the reason. -/
def message : RotationError → String
  | .unclear purpose text => "Cannot parse " ++ purpose ++ " from: '" ++ text ++ "'"
  | .invalid part whole text =>
    "Invalid " ++ part ++ " while parsing " ++ whole ++ ": '" ++ text ++ "'"
  | .kind name => "Cannot infer rotation for objects of type: '" ++ name ++ "'"
  | .none => "Must provide at least one rotation condition"
  | .manyDays days => "days=" ++ toString days ++ "; must have magnitude <= 999999999"
  | .tooManyDays => "Python int too large to convert to C int"
  | .endless => "cannot convert float infinity to integer"
  | .notNumber => "cannot convert float NaN to integer"

/-- The text is understood but lies outside the range of lengths of time. -/
def isOverflow : RotationError → Bool
  | .manyDays _ => true
  | .tooManyDays => true
  | .endless => true
  | _ => false

end RotationError

namespace Log.Rotation

/-- A character as letters are compared, without regard to case. -/
def folded (c : Char) : Char := if c = '\u017f' then 's' else Text.lowerChar c

/-- A character of a figure. -/
def isFigure (c : Char) : Bool :=
  c == 'e' || c == 'E' || c == '+' || c == '-' || c == '.' || Text.isDigit c

/-- A letter of a unit. -/
def isLetter (c : Char) : Bool := 'a' ≤ folded c && folded c ≤ 'z'

/-- A figure as a double. -/
def amount (whole : String) (cs : List Char) : Except RotationError Float :=
  match Decimal.readFloat cs with
  | some x => .ok x
  | none => .error (.invalid "float value" whole (String.ofList cs))

/-! ### Sizes -/

/-- The ends of sizes: a power or none, a mark for powers of 1024 or none, and bits or bytes. -/
def isSizeUnit (cs : List Char) : Bool :=
  let small := cs.map folded
  let rest := if small.head?.any fun c => "kmgtpezy".toList.contains c then small.drop 1 else small
  rest == ['b'] || rest == ['i', 'b'] || small == ['i', 'b']

/-- The figure of a size, the longest one before an end. -/
def sizeFigure? (cs : List Char) : Option (List Char) :=
  let figure := cs.takeWhile isFigure
  ((List.range figure.length).reverse.find? fun k =>
    isSizeUnit ((cs.drop (k + 1)).dropWhile Text.isSpace)).map fun k => cs.take (k + 1)

/-! ### Lengths of time -/

/-- The names of the units, with the seconds in them. -/
def units : List (List String × Float) :=
  [(["y", "year", "years"], 31536000), (["month", "months"], 2628000),
    (["w", "week", "weeks"], 604800), (["d", "day", "days"], 86400),
    (["h", "hour", "hours"], 3600), (["min", "mins", "minute", "minutes"], 60),
    (["s", "sec", "secs", "second", "seconds"], 1), (["ms", "millisecond", "milliseconds"], 0.001),
    (["us", "microsecond", "microseconds"], 0.000001)]

/-- The figures of a length of time with their units, separated by blanks and commas. Each figure is
the longest with a unit behind it that leaves such parts behind that. -/
def parts? : Nat → List Char → Option (List (List Char × List Char))
  | 0, _ => none
  | fuel + 1, cs =>
    (List.range (cs.takeWhile isFigure).length).reverse.findSome? fun k =>
      let behind := (cs.drop (k + 1)).dropWhile Text.isSpace
      let unit := behind.takeWhile isLetter
      let rest := (behind.drop unit.length).dropWhile fun c => Text.isSpace c || c == ','
      if unit.isEmpty then none
      else if rest.isEmpty then some [(cs.take (k + 1), unit)]
      else (parts? fuel rest).map ((cs.take (k + 1), unit) :: ·)

/-- The seconds of the parts of a length of time. -/
def seconds (total : Float) : List (List Char × List Char) → Except RotationError Float
  | [] => .ok total
  | (figure, unit) :: rest =>
    match amount "duration" figure with
    | .error e => .error e
    | .ok x =>
      match units.find? fun u => u.1.contains (String.ofList (unit.map folded)) with
      | none => .error (.invalid "unit value" "duration" (String.ofList unit))
      | some u => seconds (total + x * u.2) rest

/-- The number of days in a length of time is below a milliard. -/
def checkDays (total : Float) : Except RotationError Unit :=
  match Decimal.Binary.ofFloat total with
  | .nan => .error .notNumber
  | .infinite _ => .error .endless
  | b =>
    let days := ((b.toRat?.getD 0) / 86400).floor
    if days.natAbs ≤ 999999999 then .ok ()
    else if -(Nat.pow 2 31 : Int) ≤ days && days < (Nat.pow 2 31 : Int) then .error (.manyDays days)
    else .error .tooManyDays

/-- The text is a length of time. -/
def isLength (cs : List Char) : Except RotationError Bool :=
  match parts? (cs.length + 1) cs with
  | none => .ok false
  | some ps =>
    match seconds 0 ps with
    | .error e => .error e
    | .ok total => (checkDays total).map fun _ => true

/-! ### Frequencies and times of a day -/

/-- A word for how often. -/
def isFrequency (cs : List Char) : Bool :=
  ["hourly", "daily", "weekly", "monthly", "yearly"].contains (String.ofList (Text.lower cs))

/-- A day of the week by its name or number; a number has to be one of the seven. -/
def isDay (whole : List Char) : Except RotationError Bool :=
  let cs := Text.lower (Text.strip whole)
  let name := String.ofList cs
  if ["monday", "tuesday", "wednesday", "thursday", "friday", "saturday", "sunday"].contains name
  then .ok true
  else
    match cs with
    | 'w' :: digits =>
      if digits.isEmpty || !digits.all Text.isDigit then .ok false
      else if Text.digitsValue digits < 7 then .ok true
      else .error (.invalid "day" "daytime" (String.ofList whole))
    | _ => .ok false

/-- One or two digits with a value between two bounds. -/
def isPart (low high : Nat) (cs : List Char) : Bool :=
  !cs.isEmpty && cs.length ≤ 2 && cs.all Text.isDigit && low ≤ Text.digitsValue cs &&
    Text.digitsValue cs ≤ high

/-- Seconds, possibly with up to six places. -/
def areSeconds (cs : List Char) : Bool :=
  match Text.splitOn ['.'] cs with
  | [whole] => isPart 0 59 whole
  | [whole, places] =>
    isPart 0 59 whole && !places.isEmpty && places.length ≤ 6 && places.all Char.isDigit
  | _ => false

/-- A time of a day, of which minutes and seconds may be left out. In halves of the day minutes do
not stand without seconds, and a blank goes before the name of the half. -/
def isClock (cs : List Char) : Bool :=
  let figures := cs.takeWhile fun c => Text.isDigit c || c == '.' || c == ':'
  let fields := Text.splitOn [':'] figures
  if figures.length == cs.length then
    match fields with
    | [h] => isPart 0 23 h
    | [h, m] => isPart 0 23 h && isPart 0 59 m
    | [h, m, s] => isPart 0 23 h && isPart 0 59 m && areSeconds s
    | _ => false
  else if (cs.drop figures.length).head?.any Text.isSpace then
    match fields with
    | [h] => isPart 1 12 h
    | [h, m, s] => isPart 1 12 h && isPart 0 59 m && areSeconds s
    | _ => false
  else false

/-- The text has the characters of a time of a day. -/
def looksLikeClock (cs : List Char) : Bool :=
  let rest := cs.dropWhile fun c => Text.isDigit c || c == '.' || c == ':'
  let half := String.ofList ((rest.dropWhile Text.isSpace).map folded)
  rest.length < cs.length && (half == "" || half == "am" || half == "pm")

/-- A time of a day; a text that looks like one has to be one. -/
def isTime (whole : List Char) : Except RotationError Bool :=
  let cs := Text.strip whole
  if !looksLikeClock cs then .ok false
  else if isClock cs then .ok true
  else .error (.invalid "time" "daytime" (String.ofList whole))

/-- The text before and behind the first word "at" between blanks. -/
def aroundAt? (before : List Char) : List Char → Option (List Char × List Char)
  | [] => none
  | c :: cs =>
    let behind := (c :: cs).dropWhile Text.isSpace
    match behind with
    | a :: t :: s :: rest =>
      if Text.isSpace c && folded a == 'a' && folded t == 't' && Text.isSpace s then
        some (before.reverse, rest.dropWhile Text.isSpace)
      else aroundAt? (c :: before) cs
    | _ => none

/-- A day, a time of a day, or both with "at" between them. -/
def isDayTime (cs : List Char) : Except RotationError Bool :=
  match aroundAt? [] cs with
  | some (day, time) => do
    if !(← isDay day) then throw (.invalid "day" "daytime" (String.ofList day))
    if !(← isTime time) then throw (.invalid "time" "daytime" (String.ofList time))
    return true
  | none => do
    let day ← isDay cs
    let time ← isTime cs
    return day || time

/-! ### Checks -/

/-- A text says when files are replaced. -/
def checkText (text : String) : Except RotationError Unit := do
  let cs := Text.strip text.toList
  match sizeFigure? cs with
  | some figure => discard (amount "size" figure)
  | none =>
    if !(← isLength cs) && !isFrequency cs && !(← isDayTime cs) then
      throw (.unclear "rotation" text)

mutual

/-- A value says when files are replaced: null never, a number at a size, and a list at any of
several conditions. -/
def check : Value → Except RotationError Unit
  | .null => .ok ()
  | .bool _ => .ok ()
  | .num _ => .ok ()
  | .text s => checkText s
  | .list [] => .error .none
  | .list (v :: rest) => checkAll (v :: rest)
  | v => .error (.kind v.kindName)

/-- Every value says when files are replaced. -/
def checkAll : List Value → Except RotationError Unit
  | [] => .ok ()
  | v :: rest => do
    check v
    checkAll rest

end

/-- A text says how long old files are kept. -/
def checkRetention (text : String) : Except RotationError Unit := do
  if !(← isLength (Text.strip text.toList)) then throw (.unclear "retention" text)

end Log.Rotation

end Reroll
