import Reroll.Command.Argument
import Reroll.Decimal.Read
import Reroll.Files.Path

/-!
# Reading commands

A command line names a command, its options and its words. Whatever does not fit is a usage error;
asking for help ends the reading at once.
-/

namespace Reroll

/-- What the command line asks for: to check a plan, to try a target on lines, or to download the
catalog. -/
inductive Command where
  | validate (file : Path)
  | probe (pattern : String) (low high : Option Int) (lines : List String)
  | download (out : Path) (url group : Option String)

/-- Why a command line gives no command. -/
inductive Usage where
  | help
  | wrong
  deriving DecidableEq, Repr

/-- How many words a command takes. -/
inductive WordCount where
  | zero
  | one
  | many
  deriving DecidableEq, Repr

namespace Command

/-- How far the words have been read: none yet, right after one, or past them. -/
inductive Phase where
  | waiting
  | gathering
  | past
  deriving DecidableEq, Repr

/-- The value of an option: a text, or a whole number where one is asked for. -/
inductive OptionValue where
  | text (t : String)
  | whole (i : Int)
  deriving DecidableEq, Repr

/-- The options and words of a command; `stray` tells that something did not fit. -/
structure Gathered where
  options : List (String × OptionValue) := []
  words : List String := []
  phase : Phase := .waiting
  stray : Bool := false

namespace Gathered

/-- Takes one more word. Words that belong together stand side by side. -/
def takeWord (g : Gathered) (count : WordCount) (text : String) : Gathered :=
  match count, g.phase with
  | .one, .waiting => { g with words := [text], phase := .past }
  | .many, .waiting => { g with words := [text], phase := .gathering }
  | .many, .gathering => { g with words := g.words ++ [text] }
  | _, _ => { g with stray := true }

/-- An option ends a row of words. -/
def interrupt (g : Gathered) : Gathered :=
  if g.phase = .gathering then { g with phase := .past } else g

/-- Passes the double dash, which must stand among words. -/
def passSeparator (g : Gathered) (count : WordCount) : Gathered :=
  match count, g.phase with
  | .zero, _ => { g with stray := true }
  | .many, .past => { g with stray := true }
  | _, _ => g

/-- The last value given for an option. -/
def value? (g : Gathered) (name : String) : Option OptionValue :=
  (g.options.find? fun o => o.1 == name).map Prod.snd

/-- The text given for an option. -/
def text? (g : Gathered) (name : String) : Option String :=
  match g.value? name with
  | some (.text t) => some t
  | _ => none

/-- The whole number given for an option. -/
def whole? (g : Gathered) (name : String) : Option Int :=
  match g.value? name with
  | some (.whole i) => some i
  | _ => none

end Gathered

/-- The options whose value is a whole number. -/
def wholeOptions : List String := ["min", "max"]

/-- The value of an option. -/
def optionValue (name text : String) : Except Usage OptionValue :=
  if wholeOptions.contains name then
    match Decimal.readWhole text.toList with
    | .whole i => .ok (.whole i)
    | _ => .error .wrong
  else .ok (.text text)

/-- Takes an option with its value. -/
def takeOption (g : Gathered) (name text : String) : Except Usage Gathered :=
  (optionValue name text).map fun v => { g.interrupt with options := (name, v) :: g.options }

/-- Gathers options and words in order. -/
def gather (count : WordCount) (g : Gathered) : List Argument → Except Usage Gathered
  | [] => .ok g
  | .word t :: rest => gather count (g.takeWord count t) rest
  | .separator :: rest => gather count (g.passSeparator count) rest
  | .unknown :: rest => gather count { g.interrupt with stray := true } rest
  | .help proper :: _ => .error (if proper then .help else .wrong)
  | .option name (some text) :: rest =>
    match takeOption g name text with
    | .ok g => gather count g rest
    | .error u => .error u
  | .option name none :: .word text :: rest =>
    match takeOption g name text with
    | .ok g => gather count g rest
    | .error u => .error u
  | .option _ none :: _ => .error .wrong

/-- Reads the arguments of a command. -/
def arguments (options : List String) (count : WordCount) (args : List String) :
    Except Usage Gathered :=
  match Argument.readAll options args with
  | .error _ => .error .wrong
  | .ok args => gather count {} args

/-- Reads a command, given its name. -/
def readNamed (name : String) (args : List String) : Except Usage (Bool × Command) :=
  match name with
  | "validate" => do
    let g ← arguments [] .one args
    match g.words with
    | [file] => return (g.stray, .validate (.ofText file))
    | _ => throw .wrong
  | "match" => do
    let g ← arguments ["mod", "min", "max"] .many args
    match g.text? "mod", g.words with
    | some pattern, line :: lines =>
      return (g.stray, .probe pattern (g.whole? "min") (g.whole? "max") (line :: lines))
    | _, _ => throw .wrong
  | "fetch-mods" => do
    let g ← arguments ["out", "url", "group"] .zero args
    match g.text? "out" with
    | some out => return (g.stray, .download (.ofText out) (g.text? "url") (g.text? "group"))
    | none => throw .wrong
  | _ => throw .wrong

/-- Reads a command line; `stray` tells that something before the command did not fit. -/
def readFrom (stray : Bool) : List String → Except Usage Command
  | [] => .error .wrong
  | a :: rest =>
    if a = "--" then .error .wrong
    else
      match Argument.read [] a with
      | .error _ => .error .wrong
      | .ok (.help proper) => .error (if proper then .help else .wrong)
      | .ok (.word name) =>
        match readNamed name rest with
        | .error u => .error u
        | .ok (late, c) => if stray || late then .error .wrong else .ok c
      | .ok _ => readFrom true rest

/-- Reads a command line. -/
def read (args : List String) : Except Usage Command := readFrom false args

end Command

end Reroll
