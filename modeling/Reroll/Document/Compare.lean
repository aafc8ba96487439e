import Reroll.Document.Value

/-!
# Comparing values

Limits and lengths of time may be taken on trust from outside. Only numbers, the truth values among
them, have an order and can be reckoned with; other values are reported by their kinds when they are
used like numbers.
-/

namespace Reroll

/-- Why values cannot be used like numbers. -/
inductive OperandError where
  | unordered (sign left right : String)
  | unfit (sign left right : String)
  | unjoined (left right : String)
  deriving DecidableEq

/-- The wording of the reason. -/
def OperandError.message : OperandError → String
  | .unordered sign left right =>
    "'" ++ sign ++ "' not supported between instances of '" ++ left ++ "' and '" ++ right ++ "'"
  | .unfit sign left right =>
    "unsupported operand type(s) for " ++ sign ++ ": '" ++ left ++ "' and '" ++ right ++ "'"
  | .unjoined left right =>
    "can only concatenate " ++ left ++ " (not \"" ++ right ++ "\") to " ++ left

/-- A relation by size. -/
inductive Relation where
  | below
  | atMost
  | above
  | atLeast
  deriving DecidableEq, Repr

namespace Relation

/-- The sign of a relation. -/
def sign : Relation → String
  | .below => "<"
  | .atMost => "<="
  | .above => ">"
  | .atLeast => ">="

/-- The relation holds between two numbers. -/
def holds (r : Relation) (a b : Number) : Bool :=
  match r with
  | .below => a.lt b
  | .atMost => a.lt b || a.same b
  | .above => b.lt a
  | .atLeast => b.lt a || a.same b

end Relation

/-- The relation holds between two values. -/
def Value.related (a : Value) (r : Relation) (b : Value) : Except OperandError Bool :=
  match a.number?, b.number? with
  | some m, some n => .ok (r.holds m n)
  | _, _ => .error (.unordered r.sign a.fullKindName b.fullKindName)

/-- A value that a double is to be added to must be a number. Texts and lists take only their like. -/
def Value.addend (v : Value) : Except OperandError Number :=
  match v.number?, v with
  | some n, _ => .ok n
  | none, .text _ => .error (.unjoined v.fullKindName "float")
  | none, .list _ => .error (.unjoined v.fullKindName "float")
  | none, _ => .error (.unfit "+" v.fullKindName "float")

end Reroll
