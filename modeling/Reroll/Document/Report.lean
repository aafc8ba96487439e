/-!
# Reading with a report

A reader of documents goes on after a problem, so that all problems are reported at once. It gives
a value together with the problems found, in order; only a fault ends it early.
-/

namespace Reroll

/-- A value and the problems found on the way to it. -/
structure Checked (π α : Type) where
  problems : List π
  value : α

/-- A reader's outcome: a fault, or a value with the problems found. -/
def Report (ε π α : Type) : Type := Except ε (Checked π α)

namespace Report

/-- A value without problems. -/
def good (a : α) : Report ε π α := .ok ⟨[], a⟩

/-- A value after a problem. -/
def noted (p : π) (a : α) : Report ε π α := .ok ⟨[p], a⟩

/-- The end of reading. -/
def fault (e : ε) : Report ε π α := .error e

/-- Reads on with the value; the problems add up. -/
def andThen (r : Report ε π α) (f : α → Report ε π β) : Report ε π β :=
  match r with
  | .error e => .error e
  | .ok a =>
    match f a.value with
    | .error e => .error e
    | .ok b => .ok ⟨a.problems ++ b.problems, b.value⟩

instance : Monad (Report ε π) where
  pure := good
  bind := andThen

/-- The result of a step that may fault but reports nothing. -/
def ofExcept (r : Except ε α) : Report ε π α :=
  match r with
  | .error e => .error e
  | .ok a => good a

/-- Reads items in order, each with its position from `i` on, and leaves out what is none. -/
def collect (f : α → Nat → Report ε π (Option β)) (i : Nat) : List α → Report ε π (List β)
  | [] => good []
  | a :: rest => andThen (f a i) fun b => andThen (collect f (i + 1) rest) fun bs => good (b.toList ++ bs)

end Report

end Reroll
