import Reroll.Command.Run
import Reroll.Settings.Reader

/-!
# The program

Reads the settings and the files that a command asks for, runs the command, writes its file and
its output. Only files below the working directory are seen. There is no connection to download
from, so every request fails.
-/

namespace Reroll.Main

/-- The variables of the environment that set something. -/
def environment : IO (List (String × String)) := do
  let names := Settings.fields.map fun f => (Settings.variableStart ++ f.name).toUpper
  let found ← names.mapM fun name => do
    return (← IO.getEnv name).map fun value => (name, value)
  return found.filterMap id

/-- The text of a file, or nothing if it cannot be read. -/
def textOrNothing (name : String) : IO String := do
  try IO.FS.readFile name catch _ => return ""

/-- Takes a file or directory into the tree if it is there. -/
def take (files : Files) (p : Path) : IO Files := do
  if p.isAbsolute then return files
  let here ← IO.currentDir
  let real := here / p.text
  let files := match files.makeDirectories p.parent with
    | .ok f => f
    | .error _ => files
  if ← real.isDir then
    return (files.makeDirectories p).toOption.getD files
  else if ← real.pathExists then
    return (files.write p (← IO.FS.readBinFile real)).toOption.getD files
  else return files

/-- The files that a command reads or replaces. -/
def gather (c : Command) : IO Files := do
  match c with
  | .validate p =>
    let files ← take {} p
    let named := do
      let bytes ← (files.read p).toOption
      let doc ← (Yaml.read bytes).toOption
      Plan.knownFile? (some p.parent) doc
    match named with
    | some q => take files q
    | none => return files
  | .download out _ _ => take {} out
  | _ => return {}

/-- Writes the file that a command leaves. -/
def leave (c : Command) (e : Ending) : IO Unit := do
  match c with
  | .download out _ _ =>
    match e.code, e.files.read out with
    | .ok 0, .ok bytes =>
      IO.FS.createDirAll out.parent.text
      IO.FS.writeBinFile out.text bytes
    | _, _ => return
  | _ => return

/-- Writes the output; a fault is told on the error channel. -/
def finish (e : Ending) : IO UInt32 := do
  IO.print e.output
  match e.code with
  | .ok n => return n.toUInt32
  | .error f =>
    IO.eprintln f.message
    return 1

end Reroll.Main

open Reroll in
/-- Runs a command line. -/
def main (args : List String) : IO UInt32 := do
  match Settings.read [] (← Main.environment) (← Main.textOrNothing ".env") with
  | .error e =>
    IO.eprintln e.message
    return 1
  | .ok s =>
    let replies : Nat → Http.Reply := fun _ => .failure "ConnectError"
    match Command.read args with
    | .error _ => Main.finish (Command.runLine s replies {} args)
    | .ok c =>
      let e := c.run s replies (← Main.gather c)
      Main.leave c e
      Main.finish e
