/-!
# Sets of code points as ranges

A character class beyond ASCII is a sorted array of disjoint inclusive ranges, searched by
halving.
-/

namespace Reroll.Text

/-- Sorted, disjoint, inclusive ranges of code points. -/
abbrev Ranges := Array (Nat × Nat)

/-- The range that holds a code point, searched between two positions. -/
def Ranges.findBetween? (t : Ranges) (c lo hi : Nat) : Option (Nat × Nat) :=
  if lo < hi then
    let mid := (lo + hi) / 2
    match t[mid]? with
    | none => none
    | some r =>
      if c < r.1 then t.findBetween? c lo mid
      else if r.2 < c then t.findBetween? c (mid + 1) hi
      else some r
  else none
termination_by hi - lo

/-- The range that holds a code point. -/
def Ranges.find? (t : Ranges) (c : Nat) : Option (Nat × Nat) := t.findBetween? c 0 t.size

/-- Some range holds the code point. -/
def Ranges.contains (t : Ranges) (c : Nat) : Bool := (t.find? c).isSome

end Reroll.Text
