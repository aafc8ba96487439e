/-!
# Runs and places

Ranking by runs works for any comparison `before`, also one that is no order: the comparisons
made, and so the result, are fixed by the rules here. A run is a stretch that is in order
already. A short run is made longer by inserting the elements that follow it at the place that
halving finds. A boundary in a run is found by strides that double, then by halving.
-/

namespace Reroll.Ranking

/-- The first position between two at which the test fails, found by halving. -/
def bisect (p : Nat → Bool) (lo hi : Nat) : Nat :=
  if lo < hi then
    if p ((lo + hi) / 2) then bisect p ((lo + hi) / 2 + 1) hi else bisect p lo ((lo + hi) / 2)
  else lo
termination_by hi - lo

/-- Strides 1, 3, 7, … while the test holds, up to a limit: the last stride that passed and the
one after it. -/
def strides (p : Nat → Bool) (limit last next : Nat) : Nat × Nat :=
  if next < limit then
    if p next then strides p limit next (2 * next + 1) else (last, next)
  else (last, limit)
termination_by limit - next

/-- The first of the positions below `size` at which the test fails, sought outwards from a
position. -/
def boundary (p : Nat → Bool) (size start : Nat) : Nat :=
  if p start then
    let (last, next) := strides (fun k => p (start + k)) (size - start) 0 1
    bisect p (start + last + 1) (start + next)
  else
    let (last, next) := strides (fun k => !p (start - k)) (start + 1) 0 1
    bisect p (start + 1 - next) (start - last)

variable {α : Type}

/-- The test on the element at a position. -/
def testAt (xs : Array α) (p : α → Bool) (i : Nat) : Bool :=
  match xs[i]? with
  | some x => p x
  | none => false

/-- Counts on while each element comes before the last one, or while none does. -/
def runLength (before : α → α → Bool) (falling : Bool) (last : α) (count : Nat) : List α → Nat
  | [] => count
  | x :: rest =>
    if before x last == falling then runLength before falling x (count + 1) rest else count

/-- The number of elements in front that are in order already, strictly falling or never falling,
and whether they fall. -/
def leadingRun (before : α → α → Bool) : List α → Nat × Bool
  | x :: y :: rest => (runLength before (before y x) y 2 rest, before y x)
  | l => (l.length, false)

/-- Inserts an element into a run, behind those it does not come before. -/
def insert (before : α → α → Bool) (run : Array α) (x : α) : Array α :=
  run.insertIdxIfInBounds (bisect (testAt run fun y => !before x y) 0 run.size) x

/-- The run in front, made as long as it should be at least if there are enough elements, and the
elements behind it. -/
def nextRun (before : α → α → Bool) (atLeast : Nat) (l : List α) : Array α × List α :=
  let (size, falls) := leadingRun before l
  let run := if falls then (l.take size).reverse else l.take size
  let added := (l.drop size).take (atLeast - size)
  (added.foldl (insert before) run.toArray, l.drop (size + added.length))

/-- Halves a size until it is below 64, and adds one if a remainder was lost. -/
def shortestRun (size lost : Nat) : Nat :=
  if size < 64 then size + lost else shortestRun (size / 2) (max lost (size % 2))
termination_by size

end Reroll.Ranking
