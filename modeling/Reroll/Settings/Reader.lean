import Reroll.Json.Reader
import Reroll.Settings.EnvFile
import Reroll.Settings.Field

/-!
# Reading settings

Settings are given directly, by environment variables or by an environment file, in this order of
precedence. Numbers and truth values may be given as texts; a list of texts in a variable is
written in JSON. All values that do not fit are reported together.
-/

namespace Reroll.Settings

/-- Why a value does not fit a setting. -/
inductive Misfit where
  | wholeText
  | wholeSize
  | wholeFraction
  | notFinite
  | wholeKind
  | realText
  | realKind
  | flagText
  | flagKind
  | textKind
  | listKind
  deriving DecidableEq

/-- The code of a reason. -/
def Misfit.code : Misfit → String
  | .wholeText => "int_parsing"
  | .wholeSize => "int_parsing_size"
  | .wholeFraction => "int_from_float"
  | .notFinite => "finite_number"
  | .wholeKind => "int_type"
  | .realText => "float_parsing"
  | .realKind => "float_type"
  | .flagText => "bool_parsing"
  | .flagKind => "bool_type"
  | .textKind => "string_type"
  | .listKind => "list_type"

/-- A value that does not fit, and where it stands. -/
structure Problem where
  place : String
  reason : Misfit

/-- A problem in one line. -/
def Problem.text (p : Problem) : String := p.place ++ ": " ++ p.reason.code

/-- Problems are told in the order of their places. -/
def Problem.before (p q : Problem) : Bool :=
  decide (p.place < q.place) || (p.place == q.place && decide (p.reason.code ≤ q.reason.code))

/-! ### Numbers in texts -/

/-- Blanks that may surround a number. -/
def isSpace (c : Char) : Bool := Text.isSpace c && !(0x1C ≤ c.toNat && c.toNat ≤ 0x1F)

/-- Text without the blanks around it. -/
def trim (cs : List Char) : List Char :=
  ((cs.dropWhile isSpace).reverse.dropWhile isSpace).reverse

/-- Two underscores stand side by side. -/
def hasDoubleGap : List Char → Bool
  | '_' :: '_' :: _ => true
  | _ :: cs => hasDoubleGap cs
  | [] => false

/-- The text without single underscores inside it; others stay. -/
def withoutGaps (cs : List Char) : List Char :=
  if cs.head? == some '_' || cs.getLast? == some '_' || hasDoubleGap cs then cs
  else cs.filter (· != '_')

/-- The text behind the zeros in front, underscores among them; the last zero before a point or the
end stays, and a minus may follow the zeros. Other texts start with a digit. -/
def withoutZeros? (cs : List Char) : Option (List Char) :=
  match cs with
  | [] => none
  | c :: rest =>
    if c = '0' then behind c rest
    else if c.isDigit then some cs
    else none
where
  /-- What stays behind zeros and underscores, the last of which is given. -/
  behind (last : Char) : List Char → Option (List Char)
    | [] => some [last]
    | c :: rest =>
      if c = '0' || c = '_' then behind c rest
      else if c = '-' || c.isDigit then some (c :: rest)
      else if c = '.' then some (last :: c :: rest)
      else none

/-- The text before a fraction of zeros, one at least. -/
def withoutFraction (cs : List Char) : List Char :=
  let fraction := (cs.dropWhile (· != '.')).drop 1
  if !fraction.isEmpty && fraction.all (· == '0') then cs.takeWhile (· != '.') else cs

/-- A whole number cleaned of blanks, a plus, zeros in front, a fraction of zeros and underscores. A
minus in front stays. -/
def cleaned? (cs : List Char) : Option (List Char) :=
  let (sign, body) :=
    match trim cs with
    | '+' :: rest => ([], if rest.head? == some '-' then [] else rest)
    | '-' :: rest => (['-'], rest)
    | body => ([], body)
  (withoutZeros? body).map fun body => withoutGaps (sign ++ withoutFraction body)

/-- A whole number of plain digits: no zero in front, a minus at most. -/
def plainWhole (cs : List Char) : Except Misfit Int :=
  let (negative, digits) :=
    match cs with
    | '-' :: rest => (true, rest)
    | _ => (false, cs)
  let run := digits.takeWhile Char.isDigit
  if Decimal.digitLimit < run.length && digits.head? != some '0' then
    .error .wholeSize
  else if run.isEmpty || run.length < digits.length || (digits.head? == some '0' && 1 < run.length) then
    .error .wholeText
  else
    let n : Int := Text.digitsValue run
    .ok (if negative then -n else n)

/-- A whole number, which may need some cleaning. Only one that needs none is found too large. -/
def wholeOfText (s : String) : Except Misfit Int :=
  match plainWhole s.toList with
  | .ok n => .ok n
  | .error .wholeSize => .error .wholeSize
  | .error _ =>
    match (cleaned? s.toList).map plainWhole with
    | some (.ok n) => .ok n
    | _ => .error .wholeText

/-- A double without underscores or blanks. -/
def plainReal? (cs : List Char) : Option Number :=
  if cs.all fun c => c.toNat < 0x80 then (Decimal.readSigned cs).map fun r => .signed r.1 r.2 else none

/-- A double, with single underscores anywhere inside it. -/
def realOfText? (s : String) : Option Number :=
  (plainReal? (trim s.toList)).or (plainReal? (withoutGaps s.toList))

/-- A truth value by one of its names, in any case. -/
def flagOfText? (s : String) : Option Bool :=
  let small := String.ofList (s.toList.map Decimal.asciiLower)
  if ["1", "t", "true", "y", "yes", "on"].contains small then some true
  else if ["0", "f", "false", "n", "no", "off"].contains small then some false
  else none

/-- A whole number of 64 bits with a sign. -/
def isSmall (i : Int) : Bool := -(Nat.pow 2 63 : Int) ≤ i && i < (Nat.pow 2 63 : Int)

/-- A double without fraction as a whole number; only smaller ones than two to the 63rd are taken. -/
def wholeOfReal (n : Number) : Except Misfit Int :=
  match n.magnitude? with
  | some (.value q) =>
    if q.den != 1 then .error .wholeFraction
    else if q.num.natAbs < Nat.pow 2 63 then .ok q.num
    else .error .wholeSize
  | _ => .error .notFinite

/-- A whole number from a value. -/
def readWhole : Value → Except Misfit Int
  | .num (.int i) => .ok i
  | .num n => wholeOfReal n
  | .bool b => .ok (if b then 1 else 0)
  | .text s => wholeOfText s
  | _ => .error .wholeKind

/-- A double from a value. -/
def readReal : Value → Except Misfit Number
  | .text s => (realOfText? s).elim (.error .realText) .ok
  | v => v.toReal.mapError fun _ => .realKind

/-- A truth value from a value; zero and one will do. -/
def readFlag : Value → Except Misfit Bool
  | .bool b => .ok b
  | .text s => (flagOfText? s).elim (.error .flagText) .ok
  | .num n =>
    match readWhole (.num n) with
    | .ok i => if i = 0 then .ok false else if i = 1 then .ok true
      else .error (if isSmall i then .flagText else .flagKind)
    | .error _ => .error .flagKind
  | _ => .error .flagKind

/-- The items of a list that are no texts. -/
def itemProblems (place : String) (i : Nat) : List Value → List Problem
  | [] => []
  | .text _ :: rest => itemProblems place (i + 1) rest
  | _ :: rest =>
    ⟨place ++ "." ++ toString i, .textKind⟩ :: itemProblems place (i + 1) rest

/-- The value that fits a field, or what does not fit. -/
def Field.fit (f : Field) (v : Value) : Except (List Problem) Value :=
  let one (r : Except Misfit Value) : Except (List Problem) Value :=
    r.mapError fun m => [⟨f.name, m⟩]
  match f.kind with
  | .text =>
    match v with
    | .text t => .ok (.text t)
    | _ => one (.error .textKind)
  | .whole => one ((readWhole v).map .int)
  | .real => one ((readReal v).map .num)
  | .flag => one ((readFlag v).map .bool)
  | .texts =>
    match v with
    | .list items =>
      let problems := itemProblems f.name 0 items
      if problems.isEmpty then .ok v else .error problems
    | _ => one (.error .listKind)

/-- Why settings are not read: a variable is no JSON, or values do not fit. -/
inductive ReadError where
  | unreadable
  | invalid (problems : List Problem)

namespace ReadError

/-- The problems in order. -/
def message : ReadError → String
  | .unreadable => ""
  | .invalid problems => String.intercalate "; " ((problems.mergeSort Problem.before).map Problem.text)

end ReadError

/-- What the names of variables start with. -/
def variableStart : String := "autocraft_"

/-- The last thing given under a name. Names have no case. -/
def lastNamed? (name : String) (given : List (String × α)) : Option α :=
  (given.reverse.find? fun v => String.ofList (Text.lower v.1.toList) == name).map Prod.snd

/-- The text that variables give a setting. -/
def textFor? (environment : List (EnvFile.Assignment String)) (f : Field) : Option String :=
  (lastNamed? (variableStart ++ f.name) environment).bind id

/-- The value that variables give a setting; a null list is none. -/
def variableValue? (environment : List (EnvFile.Assignment String)) (f : Field) :
    Except ReadError (Option Value) :=
  match textFor? environment f with
  | none => .ok none
  | some t =>
    if f.kind = .texts then
      match Json.read t with
      | .error _ => .error .unreadable
      | .ok .null => .ok none
      | .ok v => .ok (some v)
    else .ok (some (.text t))

/-- The value given for a setting. Variables and file are both looked at, so a list that is no
JSON is reported even when something else takes precedence. -/
def givenValue? (direct : List (String × Value))
    (environment file : List (EnvFile.Assignment String)) (f : Field) :
    Except ReadError (Option Value) := do
  let fromVariables ← variableValue? environment f
  let fromFile ← variableValue? file f
  return (lastNamed? f.name direct).or (fromVariables.or fromFile)

/-- Sets the given fields one after the other and gathers what does not fit. -/
def readFields (s : Settings) (problems : List Problem) :
    List (Field × Option Value) → Settings × List Problem
  | [] => (s, problems)
  | (_, none) :: rest => readFields s problems rest
  | (f, some v) :: rest =>
    match f.fit v with
    | .ok v => readFields (f.put v s) problems rest
    | .error more => readFields s (problems ++ more) rest

/-- Reads settings from values given directly, variables and the text of an environment file. -/
def read (direct : List (Value × Value)) (environment : List (String × String)) (file : String) :
    Except ReadError Settings := do
  let direct := direct.map fun d => (d.1.textOrEmpty, d.2)
  let environment := environment.map fun v => (v.1, some v.2)
  let assigned := EnvFile.read environment file
  let given ← fields.mapM fun f => (givenValue? direct environment assigned f).map fun v => (f, v)
  match readFields {} [] given with
  | (s, []) => return s
  | (_, problems) => throw (.invalid problems)

end Reroll.Settings
