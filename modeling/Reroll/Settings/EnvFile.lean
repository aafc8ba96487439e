import Reroll.Text.Space

/-!
# Environment files

A file of assignments `NAME=value`, one to a line, with comments and an optional `export` in
front. A value in quotes may hold escapes and line ends. References to other variables are
replaced; a line that is no assignment is skipped.
-/

namespace Reroll.Settings.EnvFile

/-- A line ends here. -/
def isEnd (c : Char) : Bool := c == '\n' || c == '\r'

/-- Blanks that do not end a line. -/
def isBlank (c : Char) : Bool := Text.isSpace c && !isEnd c

/-- What is left of a text. -/
abbrev Rest := List Char

/-- Skips a comment. -/
def skipComment (cs : Rest) : Rest :=
  match cs.dropWhile isBlank with
  | '#' :: rest => rest.dropWhile fun c => !isEnd c
  | _ => cs

/-- Skips the end of a line, unless something else comes first. -/
def skipEnd? (cs : Rest) : Option Rest :=
  match cs.dropWhile isBlank with
  | [] => some []
  | '\r' :: '\n' :: rest => some rest
  | c :: rest => if isEnd c then some rest else none

/-- Skips what is left of a line and its end. -/
def skipLine (cs : Rest) : Rest := (cs.dropWhile fun c => !isEnd c).drop 1

/-- Skips the word `export` when blanks follow it. -/
def skipExport (cs : Rest) : Rest :=
  let word := "export".toList
  let rest := cs.drop word.length
  if word.isPrefixOf cs && rest.head?.any isBlank then rest.dropWhile isBlank else cs

/-- A result, or the place where reading stopped. -/
abbrev Step (α : Type) := Except Rest (α × Rest)

/-- A name, in single quotes or bare; none before a comment. -/
def takeName (cs : Rest) : Step (Option String) :=
  match cs with
  | '#' :: _ => .ok (none, cs)
  | '\'' :: rest =>
    let name := rest.takeWhile (· != '\'')
    match rest.dropWhile (· != '\'') with
    | '\'' :: more => if name.isEmpty then .error cs else .ok (some (String.ofList name), more)
    | _ => .error cs
  | _ =>
    let bare (c : Char) : Bool := c != '=' && c != '#' && !Text.isSpace c
    let name := cs.takeWhile bare
    if name.isEmpty then .error cs else .ok (some (String.ofList name), cs.dropWhile bare)

/-- The characters up to a quote that no backslash of its own precedes. A backslash takes the
character behind it along, which does not end the line. -/
def takeQuoted? (quote : Char) : Rest → Option (List Char × Rest)
  | [] => none
  | [c] => if c = quote then some ([], []) else none
  | c :: d :: rest =>
    if c = '\\' then
      if d = '\n' then none else (takeQuoted? quote rest).map fun r => (c :: d :: r.1, r.2)
    else if c = quote then some ([], d :: rest)
    else (takeQuoted? quote (d :: rest)).map fun r => (c :: r.1, r.2)

/-- The character that an escape between double quotes stands for. -/
def doubleEscape? (c : Char) : Option Char :=
  if c = '\\' || c = '\'' || c = '"' then some c
  else if c = 'a' then some '\x07'
  else if c = 'b' then some '\x08'
  else if c = 'f' then some '\x0c'
  else if c = 'n' then some '\n'
  else if c = 'r' then some '\r'
  else if c = 't' then some '\t'
  else if c = 'v' then some '\x0b'
  else none

/-- The character that an escape between single quotes stands for. -/
def singleEscape? (c : Char) : Option Char := if c = '\\' || c = '\'' then some c else none

/-- Replaces escapes; a backslash before anything else stays. -/
def unescape (escape? : Char → Option Char) : List Char → List Char
  | [] => []
  | [c] => [c]
  | c :: d :: rest =>
    if c = '\\' then
      match escape? d with
      | some e => e :: unescape escape? rest
      | none => c :: unescape escape? (d :: rest)
    else c :: unescape escape? (d :: rest)

/-- A bare value ends before a comment that blanks precede. -/
def untilComment : List Char → List Char
  | [] => []
  | c :: cs =>
    if Text.isSpace c && ((c :: cs).dropWhile Text.isSpace).head? == some '#' then []
    else c :: untilComment cs

/-- The value after the sign of equality. -/
def takeValue (cs : Rest) : Step (List Char) :=
  match cs with
  | [] => .ok ([], [])
  | c :: rest =>
    if c = '\'' then
      match takeQuoted? '\'' rest with
      | some (body, more) => .ok (unescape singleEscape? body, more)
      | none => .error cs
    else if c = '"' then
      match takeQuoted? '"' rest with
      | some (body, more) => .ok (unescape doubleEscape? body, more)
      | none => .error cs
    else if isEnd c then .ok ([], cs)
    else
      let line := cs.takeWhile fun c => !isEnd c
      .ok (Text.trimEnd (untilComment line), cs.dropWhile fun c => !isEnd c)

/-- What follows a name: a value after a sign of equality, or nothing. A comment that blanks
precede is no value. -/
def takeRight (cs : Rest) : Step (Option (List Char)) :=
  match cs with
  | '=' :: more =>
    let start := more.dropWhile isBlank
    if start.head? == some '#' && start.length < more.length then .ok (some [], start)
    else (takeValue start).map fun r => (some r.1, r.2)
  | _ => .ok (none, cs)

/-- A name with its value, if it has one. -/
abbrev Assignment (α : Type) := String × Option α

/-- One line: an assignment, or a mere comment. -/
def takeAssignment (cs : Rest) : Step (Option (Assignment (List Char))) :=
  match takeName (skipExport cs) with
  | .error rest => .error rest
  | .ok (name, rest) =>
    match takeRight (rest.dropWhile isBlank) with
    | .error rest => .error rest
    | .ok (value, rest) =>
      match skipEnd? (skipComment rest) with
      | some more => .ok (name.map fun n => (n, value), more)
      | none => .error (skipComment rest)

/-- All assignments in order. Each round takes a line at least, so the length of the text
suffices as `fuel`. -/
def assignmentsFrom : Nat → Rest → List (Assignment (List Char))
  | 0, _ => []
  | fuel + 1, cs =>
    match cs.dropWhile Text.isSpace with
    | [] => []
    | start =>
      match takeAssignment start with
      | .ok (some a, rest) => a :: assignmentsFrom fuel rest
      | .ok (none, rest) => assignmentsFrom fuel rest
      | .error rest => assignmentsFrom fuel (skipLine rest)

/-- A reference to a variable: its name and a default after the text `:-`. -/
def takeReference? (cs : List Char) : Option (String × String × List Char) :=
  let plain (c : Char) : Bool := c != '\x7d' && c != ':'
  let name := String.ofList (cs.takeWhile plain)
  match cs.dropWhile plain with
  | '\x7d' :: rest => some (name, "", rest)
  | ':' :: '-' :: more =>
    match more.dropWhile (· != '\x7d') with
    | '\x7d' :: rest => some (name, String.ofList (more.takeWhile (· != '\x7d')), rest)
    | _ => none
  | _ => none

/-- The text of a variable: one without a value is empty, an unknown one has the default. -/
def textOf (known : List (Assignment String)) (name default : String) : String :=
  match known.find? fun k => k.1 == name with
  | some k => k.2.getD ""
  | none => default

/-- Replaces the references in a value. -/
def expandFrom (known : List (Assignment String)) : Nat → List Char → List Char
  | 0, cs => cs
  | _ + 1, [] => []
  | fuel + 1, c :: cs =>
    match c, cs with
    | '$', '\x7b' :: rest =>
      match takeReference? rest with
      | some (name, default, more) =>
        (textOf known name default).toList ++ expandFrom known fuel more
      | none => c :: expandFrom known fuel cs
    | _, _ => c :: expandFrom known fuel cs

/-- Adds assignments, each one seeing those before it and the variables from outside. -/
def resolve (outside done : List (Assignment String)) :
    List (Assignment (List Char)) → List (Assignment String)
  | [] => done.reverse
  | (name, value) :: rest =>
    let text := value.map fun cs => String.ofList (expandFrom (done ++ outside) cs.length cs)
    resolve outside (again name text done) rest
where
  /-- The newest value of a name takes the place of the older one. -/
  again (name : String) (text : Option String) (done : List (Assignment String)) :
      List (Assignment String) :=
    if done.any fun d => d.1 == name then done.map fun d => if d.1 == name then (name, text) else d
    else (name, text) :: done

/-- Reads an environment file, given the variables from outside. A byte order mark in front is
dropped. -/
def read (outside : List (Assignment String)) (content : String) : List (Assignment String) :=
  let marked := content.toList
  let cs := Text.unifyNewlines (if marked.head? == some '\uFEFF' then marked.drop 1 else marked)
  resolve outside [] (assignmentsFrom (cs.length + 1) cs)

end Reroll.Settings.EnvFile
