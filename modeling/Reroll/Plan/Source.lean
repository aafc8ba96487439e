import Reroll.Plan.Reader
import Reroll.Yaml.Reader

/-!
# Plan files

A plan file is YAML text, which includes JSON. The names of files in it are relative to its own
directory.
-/

namespace Reroll

/-- Why a plan file is not read. -/
inductive PlanSourceError where
  | file (e : FileError)
  | text (f : Yaml.Fault)
  | fault (f : PlanFault)
  | problems (ps : List PlanProblem)

namespace Plan

/-- Reads a plan file. -/
def ofFile (s : Settings) (files : Files) (p : Path) : Except PlanSourceError Plan :=
  match files.read p with
  | .error e => .error (.file e)
  | .ok bytes =>
    match Yaml.read bytes with
    | .error f => .error (.text f)
    | .ok doc =>
      match read s files (some p.parent) doc with
      | .error f => .error (.fault f)
      | .ok (.error ps) => .error (.problems ps)
      | .ok (.ok plan) => .ok plan

end Plan

end Reroll
