import Reroll.Text.Digit
import Reroll.Text.Search

/-!
# Command line arguments

An argument is a word, an option, or the double dash after which all arguments are words. Options
may be shortened as long as one name fits, and a value may be attached with an equals sign.
Negative numbers and arguments with a space are words.
-/

namespace Reroll

/-- What an argument stands for. An improper request for help has something attached to it. -/
inductive Argument where
  | word (text : String)
  | separator
  | help (proper : Bool)
  | option (name : String) (attached : Option String)
  | unknown
  deriving DecidableEq, Repr

/-- Several options fit a shortened name. -/
inductive ArgumentError where
  | ambiguous
  deriving DecidableEq, Repr

namespace Argument

/-- The option with a full name. -/
def named (name : String) (attached : Option String) : Argument :=
  if name = "help" then .help attached.isNone else .option name attached

/-- The part before the first equals sign and the part after it, if there is one. -/
def cutAttached (cs : List Char) : List Char × Option String :=
  let key := cs.takeWhile (· != '=')
  match cs.drop key.length with
  | [] => (key, none)
  | _ :: value => (key, some (String.ofList value))

/-- One digit or more and nothing else. -/
def isDigits (cs : List Char) : Bool := !cs.isEmpty && cs.all Text.isDigit

/-- The text after a dash is a number, with or without a fraction; one line end may follow. -/
def isNumber (cs : List Char) : Bool :=
  let cs := if cs.getLast? == some '\n' then cs.dropLast else cs
  let whole := cs.takeWhile Text.isDigit
  isDigits cs ||
    match cs.drop whole.length with
    | '.' :: fraction => isDigits fraction
    | _ => false

/-- An argument that is no option: some of those with a dash are words all the same. -/
def otherwise (cs : List Char) : Argument :=
  if isNumber (cs.drop 1) || cs.contains ' ' then .word (String.ofList cs) else .unknown

/-- An argument with two dashes, given what follows them. -/
def long (options : List String) (cs : List Char) : Except ArgumentError Argument :=
  let (key, attached) := cutAttached cs
  let names := "help" :: options
  match names.find? fun n => n.toList == key with
  | some n => .ok (named n attached)
  | none =>
    match names.filter fun n => key.isPrefixOf n.toList with
    | [n] => .ok (named n attached)
    | [] => .ok (otherwise ('-' :: '-' :: cs))
    | _ => .error .ambiguous

/-- What follows the short form of help is no value: further short options may. -/
def isProper (cs : List Char) : Bool :=
  match cs.dropWhile (· == 'h') with
  | '=' :: _ => false
  | '-' :: _ => false
  | _ => true

/-- An argument with one dash, given what follows it. -/
def short (cs : List Char) : Argument :=
  match cs with
  | [] => .word "-"
  | 'h' :: more => .help (isProper more)
  | _ => otherwise ('-' :: cs)

/-- Reads one argument, given the options that take a value. -/
def read (options : List String) (arg : String) : Except ArgumentError Argument :=
  match arg.toList with
  | '-' :: '-' :: cs => long options cs
  | '-' :: cs => .ok (short cs)
  | _ => .ok (.word arg)

/-- Reads all arguments. -/
def readAll (options : List String) : List String → Except ArgumentError (List Argument)
  | [] => .ok []
  | a :: rest =>
    if a = "--" then .ok (.separator :: rest.map .word)
    else
      match read options a, readAll options rest with
      | .ok a, .ok rest => .ok (a :: rest)
      | .error e, _ => .error e
      | _, .error e => .error e

end Argument

end Reroll
