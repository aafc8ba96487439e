import Reroll.Number

/-!
# Documents

A document is read from a configuration file, a catalog file or a response. Its values are the
usual ones of such formats; dates, bytes, sets and pairs come from tagged or plain scalars of
configuration files only. Mappings keep the order of their fields. A collection of a configuration
file may contain itself; such a one is tied into a knot, which is opened when it is looked into.
-/

namespace Reroll

/-- A day of the calendar. -/
structure Date where
  year : Nat
  month : Nat
  day : Nat
  deriving DecidableEq, Repr

namespace Date

/-- The number of days of the years before the given one. -/
def daysBeforeYear (year : Nat) : Nat :=
  let y := year - 1
  365 * y + y / 4 - y / 100 + y / 400

/-- A year with a day more than others. -/
def isLeap (year : Nat) : Bool := year % 4 == 0 && (year % 100 != 0 || year % 400 == 0)

/-- The number of days of a month. -/
def daysIn (year month : Nat) : Nat :=
  if month = 2 then (if isLeap year then 29 else 28)
  else if [4, 6, 9, 11].contains month then 30
  else 31

/-- The number of the day, counted from the start of the first year. -/
def ordinal (d : Date) : Nat :=
  daysBeforeYear d.year + ((List.range d.month).drop 1).foldl (fun n m => n + daysIn d.year m) d.day

end Date

/-- A time of a day, with its distance from universal time in minutes if known. -/
structure Moment where
  date : Date
  hour : Nat
  minute : Nat
  second : Nat
  micro : Nat
  offset : Option Int
  deriving DecidableEq, Repr

namespace Moment

/-- The minutes since the start of the first year in universal time. -/
def universalMinutes (m : Moment) (offset : Int) : Int :=
  ((m.date.ordinal * 24 + m.hour) * 60 + m.minute : Nat) - offset

/-- The same moment: with known distances from universal time the instants are compared, without
them the parts. -/
def same (a b : Moment) : Bool :=
  match a.offset, b.offset with
  | some o, some p =>
    a.universalMinutes o == b.universalMinutes p && a.second == b.second && a.micro == b.micro
  | _, _ => a == b

end Moment

/-- A value of a document. A knot is a collection that contains itself: inside it, its number stands
for it again. -/
inductive Value where
  | null
  | bool (b : Bool)
  | num (n : Number)
  | text (s : String)
  | list (items : List Value)
  | map (fields : List (Value × Value))
  | date (d : Date)
  | moment (m : Moment)
  | bytes (bs : List UInt8)
  | set (items : List Value)
  | pair (first second : Value)
  | knot (number : Nat) (collection : Value)
  | again (number : Nat)

namespace Value

/-- A whole number as a value. -/
def int (i : Int) : Value := .num (.int i)

/-- The name of the kind of a value, as messages about lookups use it. -/
def kindName : Value → String
  | .null => "NoneType"
  | .bool _ => "bool"
  | .num (.int _) => "int"
  | .num (.float _) => "float"
  | .num .minusNaN => "float"
  | .text _ => "str"
  | .list _ => "list"
  | .map _ => "dict"
  | .date _ => "date"
  | .moment _ => "datetime"
  | .bytes _ => "bytes"
  | .set _ => "set"
  | .pair _ _ => "tuple"
  | .knot _ v => v.kindName
  | .again _ => ""

/-- The name of the kind of a value, as messages about operations use it. -/
def fullKindName : Value → String
  | .date _ => "datetime.date"
  | .moment _ => "datetime.datetime"
  | v => v.kindName

/-- A value that counts as given: neither null, false, zero nor empty. -/
def truthy : Value → Bool
  | .null => false
  | .bool b => b
  | .num n => !n.isZero
  | .text s => !s.isEmpty
  | .list items => !items.isEmpty
  | .map fields => !fields.isEmpty
  | .date _ => true
  | .moment _ => true
  | .bytes bs => !bs.isEmpty
  | .set items => !items.isEmpty
  | .pair _ _ => true
  | .knot _ v => v.truthy
  | .again _ => true

mutual

/-- Puts a knot in the places where its number stands for it. -/
def tie (number : Nat) (whole : Value) : Value → Value
  | .again n => if n = number then whole else .again n
  | .knot n v => if n = number then .knot n v else .knot n (tie number whole v)
  | .list items => .list (tieAll number whole items)
  | .map fields => .map (tieFields number whole fields)
  | .pair a b => .pair (tie number whole a) (tie number whole b)
  | v => v

/-- Puts a knot in its places within values. -/
def tieAll (number : Nat) (whole : Value) : List Value → List Value
  | [] => []
  | v :: rest => tie number whole v :: tieAll number whole rest

/-- Puts a knot in its places within fields; keys hold none. -/
def tieFields (number : Nat) (whole : Value) : List (Value × Value) → List (Value × Value)
  | [] => []
  | (k, v) :: rest => (k, tie number whole v) :: tieFields number whole rest

end

/-- The value with its own parts in sight: a knot is replaced by the collection, whose parts hold
the knot again. -/
def opened : Value → Value
  | .knot number v => tie number (.knot number v) v
  | v => v

/-- The value is null. -/
def isNull : Value → Bool
  | .null => true
  | _ => false

/-- A number, with the truth values as one and zero. -/
def number? : Value → Option Number
  | .num n => some n
  | .bool b => some (.int (if b then 1 else 0))
  | _ => none

/-- Two values are the same key of a mapping; numbers are compared by value, and all NaNs are one
key. -/
def sameKey : Value → Value → Bool
  | .null, .null => true
  | .text a, .text b => a == b
  | .date a, .date b => a == b
  | .moment a, .moment b => a.same b
  | .bytes a, .bytes b => a == b
  | .pair a b, .pair c d => sameKey a c && sameKey b d
  | a, b =>
    match a.number?, b.number? with
    | some m, some n => m.same n || (m.isNaN && n.isNaN)
    | _, _ => false

/-- The first field of a mapping with the given key. -/
def lookup (key : String) : List (Value × Value) → Option Value
  | [] => none
  | (k, v) :: rest =>
    match k with
    | .text s => if s = key then some v else lookup key rest
    | _ => lookup key rest

/-- Sets a field of a mapping: an old field keeps its place, a new one comes last. -/
def insert (key : Value) (value : α) : List (Value × α) → List (Value × α)
  | [] => [(key, value)]
  | (k, v) :: rest =>
    if k.sameKey key then (k, value) :: rest else (k, v) :: insert key value rest

/-- The fields of a mapping written one after the other; the last of equal keys wins. -/
def collect (fields : List (Value × α)) : List (Value × α) :=
  fields.foldl (fun done f => insert f.1 f.2 done) []

/-- The field of a mapping with the given name, null when there is none. -/
def get (fields : List (Value × Value)) (key : String) : Value := (lookup key fields).getD .null

/-- The first of the named fields that is present and not null. -/
def firstGiven? (fields : List (Value × Value)) : List String → Option Value
  | [] => none
  | key :: keys =>
    match get fields key with
    | .null => firstGiven? fields keys
    | v => some v

/-- The first of the named fields that is present and not null, or null. -/
def firstGiven (fields : List (Value × Value)) (keys : List String) : Value :=
  (firstGiven? fields keys).getD .null

/-- The first value when it counts as given, otherwise the second. -/
def orElse (a b : Value) : Value := if a.truthy then a else b

end Value

end Reroll
