import Reroll.Plan.Source

/-!
# A shelf of plans

Plans are asked for by name. A plan that was read from a file is kept until the file changes, so
asking again gives the same edition. A file that cannot be read is reported and gives no plan.
-/

namespace Reroll

/-- A plan on the shelf, the place of its file and when that file was changed. -/
structure ShelvedPlan where
  place : List String
  changed : Int
  edition : Nat
  plan : Plan

/-- The plans read from files below a base directory; editions are numbered as they are read. -/
structure Shelf where
  base : Path
  plans : List ShelvedPlan := []
  editions : Nat := 0

/-- What asking for a plan gives: a plan or none, or the fault that ended the reading, with the
shelf afterwards and what the operator is told. -/
structure Taken where
  result : Except PlanSourceError (Option ShelvedPlan)
  shelf : Shelf
  log : List LogRecord

namespace Shelf

/-- The suffixes of plan files, the preferred one first. -/
def suffixes : List String := [".yaml", ".yml", ".json"]

/-- The first of some paths where something is. -/
def firstPresent (files : Files) : List Path → Except FileError (Option Path)
  | [] => .ok none
  | p :: rest =>
    match files.isPresent p with
    | .error e => .error e
    | .ok true => .ok (some p)
    | .ok false => firstPresent files rest

/-- Where the plan with a name is: a path with a suffix stands for itself, other names for a file
below the base directory. -/
def resolve (h : Shelf) (files : Files) (name : String) : Except FileError (Option Path) :=
  let p := Path.ofText name
  if suffixes.contains p.lowerSuffix then firstPresent files [p]
  else firstPresent files (suffixes.map fun suffix => h.base.join (.ofText (name ++ suffix)))

/-- What the operator is told about a file that gives no plan; other faults are not expected. -/
def complaints? (p : Path) : PlanSourceError → Option (List LogRecord)
  | .text .malformed => some [⟨.error, "config parse failed: " ++ p.text⟩]
  | .problems ps =>
    some (ps.map fun q => ⟨.error, "config invalid [" ++ p.name ++ "]: " ++ q.message⟩)
  | .file e => some [⟨.error, "config read failed: " ++ p.text ++ ": " ++ e.message⟩]
  | .fault (.known (.file e)) =>
    some [⟨.error, "config read failed: " ++ p.text ++ ": " ++ e.message⟩]
  | _ => none

/-- Puts a plan on the shelf as the newest edition, in place of an older one of the same file. -/
def keep (h : Shelf) (place : List String) (changed : Int) (plan : Plan) : ShelvedPlan × Shelf :=
  let entry : ShelvedPlan := { place, changed, edition := h.editions, plan }
  (entry, { h with
    plans := entry :: h.plans.filter fun e => e.place != place
    editions := h.editions + 1 })

/-- Reads the plan of a file and puts it on the shelf. -/
def read (h : Shelf) (s : Settings) (files : Files) (p : Path) (place : List String)
    (changed : Int) : Taken :=
  match Plan.ofFile s files p with
  | .ok plan =>
    let (entry, shelf) := h.keep place changed plan
    ⟨.ok (some entry), shelf, [⟨.info, "craft config loaded: " ++ p.text⟩]⟩
  | .error e =>
    match complaints? p e with
    | some log => ⟨.ok none, h, log⟩
    | none => ⟨.error e, h, []⟩

/-- The kept plan of a file that has not changed since. -/
def kept? (h : Shelf) (place : List String) (changed : Int) : Option ShelvedPlan :=
  (h.plans.find? fun e => e.place == place).filter fun e => e.changed == changed

/-- Asks for the plan with a name. -/
def take (h : Shelf) (s : Settings) (files : Files) (name : String) : Taken :=
  match h.resolve files name with
  | .error e => ⟨.error (.file e), h, []⟩
  | .ok none => ⟨.ok none, h, [⟨.warning, "craft config not found: " ++ name⟩]⟩
  | .ok (some p) =>
    match files.place p, files.changed p with
    | .ok place, .ok changed =>
      match h.kept? place changed with
      | some entry => ⟨.ok (some entry), h, []⟩
      | none => h.read s files p place changed
    | .error e, _ => ⟨.error (.file e), h, []⟩
    | _, .error e => ⟨.error (.file e), h, []⟩

/-- Empties the shelf. -/
def clear (h : Shelf) : Shelf := { h with plans := [] }

end Shelf

end Reroll
