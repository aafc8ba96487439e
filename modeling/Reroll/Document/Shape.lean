import Reroll.Document.Value

/-!
# Values of the wrong shape

Some readers take a value on trust and use it as a text or a list. A value that does not allow
that is reported by its kind and the operation it lacks.
-/

namespace Reroll

/-- What a value was used for in vain. -/
inductive ShapeError where
  | lacks (kind operation : String)
  | notIterable (kind : String)
  | notContainer (kind : String)
  | notPath (kind : String)
  | notPart (kind : String)
  deriving DecidableEq

namespace ShapeError

/-- The wording of the report. -/
def message : ShapeError → String
  | .lacks kind operation => "'" ++ kind ++ "' object has no attribute '" ++ operation ++ "'"
  | .notIterable kind => "'" ++ kind ++ "' object is not iterable"
  | .notContainer kind => "argument of type '" ++ kind ++ "' is not iterable"
  | .notPath kind => "expected str, bytes or os.PathLike object, not " ++ kind
  | .notPart kind => "'in <string>' requires string as left operand, not " ++ kind

end ShapeError

namespace Value

/-- The value as a text that is about to undergo an operation; what counts as absent is empty. Bytes
know the operations of texts. -/
def textFor (operation : String) (v : Value) : Except ShapeError String :=
  if v.truthy then
    match v with
    | .text s => .ok s
    | .bytes bs => .ok (String.ofList (bs.map fun b => Char.ofNat b.toNat))
    | v => .error (.lacks v.fullKindName operation)
  else .ok ""

/-- A text as it is; other values are empty. -/
def textOrEmpty : Value → String
  | .text s => s
  | _ => ""

/-- The value as the text of a path, if it counts as given. -/
def pathText? (v : Value) : Except ShapeError (Option String) :=
  if v.truthy then
    match v with
    | .text s => .ok (some s)
    | v => .error (.notPath v.fullKindName)
  else .ok none

/-- The items of a value that is walked through: a mapping gives its keys, a text its characters. -/
def walk : Value → Except ShapeError (List Value)
  | .list items => .ok items
  | .set items => .ok items
  | .map fields => .ok (fields.map Prod.fst)
  | .text s => .ok (s.toList.map fun c => .text (String.ofList [c]))
  | .bytes bs => .ok (bs.map fun b => .int b.toNat)
  | .pair a b => .ok [a, b]
  | v => .error (.notIterable v.fullKindName)

end Value

end Reroll
