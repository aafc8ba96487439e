import Reroll.Ranking.Run

/-!
# Merging runs

Two neighbouring runs are merged from the end at which the shorter of them lies. One of the two is
favoured in ties, the left one when the merge goes forward. The heads are compared in turns until
one run has won often enough in a row; then whole stretches are taken in leaps, as long as leaps
are long. How often is enough rises when leaps stop to pay and falls while they do.

Runs wait in a pile and are merged with their neighbours by the place of their common boundary
among the halves, quarters, eighths, … of the whole.
-/

namespace Reroll.Ranking

variable {α : Type}

/-- A merge under way. The elements taken are held last first. -/
structure Merging (α : Type) where
  favoured : List α
  other : List α
  taken : List α
  /-- Wins in a row after which leaps begin. -/
  patience : Nat

namespace Merging

/-- The elements not yet taken. -/
def remaining (m : Merging α) : Nat := m.favoured.length + m.other.length

/-- Nothing is left to compare: the last favoured element goes behind all the others. -/
def isOver (m : Merging α) : Bool := m.other.isEmpty || m.favoured.length ≤ 1

/-- The merged elements of a merge that is over. -/
def result (m : Merging α) : List α := m.taken.reverse ++ m.other ++ m.favoured

/-- Takes favoured elements. -/
def takeFavoured (m : Merging α) (k : Nat) : Merging α :=
  { m with favoured := m.favoured.drop k, taken := (m.favoured.take k).reverse ++ m.taken }

/-- Takes elements of the other run. -/
def takeOther (m : Merging α) (k : Nat) : Merging α :=
  { m with other := m.other.drop k, taken := (m.other.take k).reverse ++ m.taken }

/-- The number of elements in front that pass a test. In a merge from the end the elements are in
reverse, and the boundary is sought from the other side. -/
def lead (fromEnd : Bool) (p : α → Bool) (l : List α) : Nat :=
  let size := l.length
  if fromEnd then
    size - boundary (testAt l.reverse.toArray fun x => !p x) size (size - 1)
  else boundary (testAt l.toArray p) size 0

/-- What the next comparison is made for: turns, with the wins in a row of each run, or leaps. -/
inductive Phase where
  | turns (favouredWins otherWins : Nat)
  | leaps
deriving DecidableEq

/-- Takes the favoured elements that the head of the other run does not overtake, then that head.
The number of favoured elements is returned. -/
def leapFavoured (fromEnd : Bool) (overtakes : α → α → Bool) (m : Merging α) :
    Merging α × Nat :=
  match m.other with
  | [] => (m, 0)
  | b :: _ =>
    let k := lead fromEnd (fun a => !overtakes b a) m.favoured
    let moved := m.takeFavoured k
    (if moved.isOver then moved else moved.takeOther 1, k)

/-- Takes the elements of the other run that overtake the favoured head, then that head. The number
of elements of the other run is returned. -/
def leapOther (fromEnd : Bool) (overtakes : α → α → Bool) (m : Merging α) : Merging α × Nat :=
  match m.favoured with
  | [] => (m, 0)
  | a :: _ =>
    let k := lead fromEnd (fun b => overtakes b a) m.other
    let moved := m.takeOther k
    (if moved.isOver then moved else moved.takeFavoured 1, k)

/-- A leap in each run, the favoured one first unless the merge goes from the end, and whether one
of them was long. -/
def leapBoth (fromEnd : Bool) (overtakes : α → α → Bool) (m : Merging α) : Merging α × Bool :=
  let first := if fromEnd then leapOther fromEnd overtakes else leapFavoured fromEnd overtakes
  let second := if fromEnd then leapFavoured fromEnd overtakes else leapOther fromEnd overtakes
  let (half, k) := first m
  if half.isOver then (half, false)
  else
    let (whole, j) := second half
    (whole, decide (7 ≤ k ∨ 7 ≤ j))

/-- Finishes a merge: the elements and the patience at its end. -/
def run (fromEnd : Bool) (overtakes : α → α → Bool) : Nat → Phase → Merging α → List α × Nat
  | 0, _, m => (m.result, m.patience)
  | fuel + 1, phase, m =>
    if m.isOver then (m.result, m.patience)
    else
      match phase, m.favoured, m.other with
      | .turns favouredWins otherWins, a :: _, b :: _ =>
        if overtakes b a then
          run fromEnd overtakes fuel
            (if otherWins + 1 < m.patience then .turns 0 (otherWins + 1) else .leaps)
            (m.takeOther 1)
        else
          run fromEnd overtakes fuel
            (if favouredWins + 1 < m.patience then .turns (favouredWins + 1) 0 else .leaps)
            (m.takeFavoured 1)
      | _, _, _ =>
        let (next, long) := leapBoth fromEnd overtakes m
        if next.isOver then (next.result, next.patience)
        else if long then
          run fromEnd overtakes fuel .leaps { next with patience := max 1 (next.patience - 1) }
        else run fromEnd overtakes fuel (.turns 0 0) { next with patience := next.patience + 1 }

end Merging

/-- Merges two runs, neither of them empty, that start and end with elements that have to move. -/
def mergeForward (before : α → α → Bool) (patience : Nat) (left right : List α) :
    List α × Nat :=
  Merging.run false before (left.length + right.length) (.turns 0 0)
    ((⟨left, right, [], patience⟩ : Merging α).takeOther 1)

/-- The same from the end, where the right run is favoured. -/
def mergeFromEnd (before : α → α → Bool) (patience : Nat) (left right : List α) :
    List α × Nat :=
  let (merged, after) :=
    Merging.run true (fun b a => before a b) (left.length + right.length) (.turns 0 0)
      ((⟨right.reverse, left.reverse, [], patience⟩ : Merging α).takeOther 1)
  (merged.reverse, after)

/-- Merges neighbouring runs. What lies in front of the right run's head and behind the left run's
last element stays where it is. -/
def mergeNeighbours (before : α → α → Bool) (patience : Nat) (left right : Array α) :
    Array α × Nat :=
  match right[0]?, left.back? with
  | some head, some last =>
    let kept := boundary (testAt left fun x => !before head x) left.size 0
    if left.size ≤ kept then (left ++ right, patience)
    else
      let moved := boundary (testAt right fun x => before x last) right.size (right.size - 1)
      if moved = 0 then (left ++ right, patience)
      else
        let a := left.toList.drop kept
        let b := right.toList.take moved
        let (merged, after) :=
          if a.length ≤ b.length then mergeForward before patience a b
          else mergeFromEnd before patience a b
        (left.take kept ++ merged.toArray ++ right.drop moved, after)
  | _, _ => (left ++ right, patience)

/-- A run that waits to be merged: its elements, and the depth at which halving the whole parts it
from its right neighbour. -/
structure Pending (α : Type) where
  items : Array α
  depth : Nat := 0

/-- The runs that wait, the last first, and the patience. -/
structure Pile (α : Type) where
  runs : List (Pending α) := []
  patience : Nat := 7

/-- The number of halvings after which two points of a whole, given in half steps, are told apart
by the half in which they lie. -/
def depthBetween (size : Nat) : Nat → Nat → Nat → Nat
  | 0, _, _ => 1
  | fuel + 1, p, q =>
    if size ≤ p then 1 + depthBetween size fuel (2 * (p - size)) (2 * (q - size))
    else if size ≤ q then 1
    else 1 + depthBetween size fuel (2 * p) (2 * q)

/-- Merges the last runs while the boundary between them lies deeper than the next one. -/
def settle (before : α → α → Bool) (depth : Nat) (last : Array α) (patience : Nat) :
    List (Pending α) → Pile α
  | [] => { runs := [⟨last, depth⟩], patience }
  | r :: rest =>
    if depth < r.depth then
      let (merged, after) := mergeNeighbours before patience r.items last
      settle before depth merged after rest
    else { runs := ⟨last, depth⟩ :: r :: rest, patience }

/-- Lays the next run on the pile. The whole has `size` elements, of which `start` lie below the
run. -/
def Pile.push (before : α → α → Bool) (size start : Nat) (run : Array α) (pile : Pile α) :
    Pile α :=
  match pile.runs with
  | [] => { pile with runs := [⟨run, 0⟩] }
  | top :: rest =>
    let p := 2 * (start - top.items.size) + top.items.size
    let depth := depthBetween size (2 * size) p (p + top.items.size + run.size)
    let settled := settle before depth top.items pile.patience rest
    { settled with runs := ⟨run, 0⟩ :: settled.runs }

/-- Merges what waits, from the top, into one run. The second run goes with the third when that is
shorter than the first. -/
def collapse (before : α → α → Bool) (patience : Nat) : List (Pending α) → Array α
  | [] => #[]
  | [r] => r.items
  | [r, s] => (mergeNeighbours before patience s.items r.items).1
  | r :: s :: t :: rest =>
    if t.items.size < r.items.size then
      let (merged, after) := mergeNeighbours before patience t.items s.items
      collapse before after (r :: ⟨merged, t.depth⟩ :: rest)
    else
      let (merged, after) := mergeNeighbours before patience s.items r.items
      collapse before after (⟨merged, s.depth⟩ :: t :: rest)
termination_by runs => runs.length

/-- Piles up the runs of a list. -/
def pileRuns (before : α → α → Bool) (atLeast size : Nat) :
    Nat → Nat → Pile α → List α → Pile α
  | 0, _, pile, _ => pile
  | _, _, pile, [] => pile
  | fuel + 1, start, pile, l =>
    let (run, rest) := nextRun before atLeast l
    pileRuns before atLeast size fuel (start + run.size) (pile.push before size start run) rest

/-- Ranks a list by merging its runs. -/
def sort (before : α → α → Bool) (l : List α) : List α :=
  let size := l.length
  let pile := pileRuns before (shortestRun size 0) size size 0 {} l
  (collapse before pile.patience pile.runs).toList

end Reroll.Ranking
