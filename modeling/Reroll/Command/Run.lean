import Reroll.Command.Reader
import Reroll.Modifier.Match
import Reroll.Plan.Source

/-!
# Running commands

A command reads files and may download the catalog. It ends with an exit code and the lines it
wrote, or with a fault that it does not handle.
-/

namespace Reroll

/-- What a command does not handle. -/
inductive CommandFault where
  | plan (e : PlanSourceError)
  | number (e : ConversionError)
  | shape (e : ShapeError)
  | fetch (e : Catalog.FetchError)
  | file (e : FileError)

/-- How a command ends: its exit code or a fault, its output, the files afterwards and the requests
it made. -/
structure Ending where
  code : Except CommandFault Nat
  output : String := ""
  files : Files
  requests : List Http.Request := []

namespace CommandFault

/-- The wording of a fault. -/
def message : CommandFault → String
  | .plan (.file e) => e.message
  | .plan (.text f) => f.message
  | .plan (.fault f) => f.message
  | .plan _ => ""
  | .number e => e.message
  | .shape e => e.message
  | .fetch e => e.message
  | .file e => e.message

end CommandFault

namespace Command

/-- Ends with a code after some lines. -/
def done (files : Files) (code : Nat) (lines : List String) : Ending where
  code := .ok code
  output := String.join (lines.map fun l => l ++ "\n")
  files := files

/-- Ends with a fault. -/
def failed (files : Files) (f : CommandFault) : Ending where
  code := .error f
  files := files

/-- The line about a plan that is in order. -/
def praise (p : Plan) (maxAttempts : String) : String :=
  "ok: " ++ toString p.graph.nodes.length ++ " nodes, " ++ toString p.graph.edges.length ++
    " edges, max_attempts=" ++ maxAttempts ++ ", known_mods=" ++
    (p.known.map fun c => toString c.size).getD "off"

/-- Checks the plan in a file. -/
def checkPlan (s : Settings) (files : Files) (p : Path) : Ending :=
  match files.isPresent p with
  | .error e => failed files (.plan (.file e))
  | .ok false => done files 1 ["not found: " ++ p.text]
  | .ok true =>
    match Plan.ofFile s files p with
    | .ok plan =>
      match plan.maxAttempts.written with
      | .ok maxAttempts => done files 0 [praise plan maxAttempts]
      | .error e => failed files (.number e)
    | .error (.text .malformed) => done files 1 ["parse error: " ++ Yaml.Fault.malformed.message]
    | .error (.problems ps) => done files 1 (ps.map fun q => "error: " ++ q.message)
    | .error e => failed files (.plan e)

/-- A line as it is given on the command line. -/
def lineOf (text : String) : Line where
  text
  canonical := Canonical.canonical text
  confidence := .float 100.0

/-- Tries a target on lines. A bound makes the value matter. -/
def tryTarget (s : Settings) (files : Files) (pattern : String) (low high : Option Int)
    (lines : List String) : Ending :=
  let ranged := low.isSome || high.isSome
  match Spec.make (Text.stripped pattern) (low.map .int) (high.map .int) ranged with
  | .error e => done files 1 ["error: " ++ e.message]
  | .ok spec =>
    match s.exclusion with
    | .error e => failed files (.shape e)
    | .ok exclusion =>
      match Match.find (lines.map lineOf) [spec] exclusion with
      | .error (.number e) => failed files (.number e)
      | .error (.shape e) => failed files (.shape e)
      | .ok none => done files 1 ["no match for " ++ spec.describe]
      | .ok (some m) => done files 0 ["match: " ++ m.line.text]

/-- A text that is given and not empty, or a default. -/
def given (t : Option String) (default : Value) : Value := (Value.text (t.getD "")).orElse default

/-- Writes a downloaded catalog. -/
def keep (files : Files) (c : Catalog) (out : Path) : Ending :=
  if c.size = 0 then done files 1 ["no modifiers fetched"]
  else
    match c.save files out with
    | .error e => failed files (.file e)
    | .ok files =>
      done files 0 ["saved " ++ toString c.size ++ " modifier families to " ++ out.text]

/-- Downloads the catalog into a file. -/
def fetchCatalog (s : Settings) (replies : Nat → Http.Reply) (files : Files) (out : Path)
    (url group : Option String) : Ending :=
  let f := Catalog.fetch replies 0 (given url s.catalogUrl) (given group s.catalogGroup)
  let ending :=
    match f.catalog with
    | .error e => failed files (.fetch e)
    | .ok c => keep files c out
  { ending with requests := f.requests }

/-- Runs a command. -/
def run (s : Settings) (replies : Nat → Http.Reply) (files : Files) : Command → Ending
  | .validate p => checkPlan s files p
  | .probe pattern low high lines => tryTarget s files pattern low high lines
  | .download out url group => fetchCatalog s replies files out url group

/-- How to use the program. -/
def usage : String :=
  "usage: autocraft [-h] \x7bvalidate,match,fetch-mods\x7d ...\n"

/-- Runs a command line; one that is not understood ends with code two. -/
def runLine (s : Settings) (replies : Nat → Http.Reply) (files : Files) (args : List String) :
    Ending :=
  match read args with
  | .ok c => c.run s replies files
  | .error .help => { code := .ok 0, output := usage, files }
  | .error .wrong => { code := .ok 2, files }

end Command

end Reroll
