import Reroll.Text.Digit
import Reroll.Text.Quoted

/-!
# Names of files of records

The name of a file of records may hold fields in braces, which are filled in when the file is made;
a brace written twice stands for itself. The only field there is a value for is the time.
-/

namespace Reroll

/-- Why the name of a file cannot be filled in. -/
inductive NamingError where
  | loneBrace (brace : Char)
  | braceInField
  | openField
  | openFormat
  | openConversion
  | noFormat
  | numbered
  | unknown (field : String)
  deriving DecidableEq

/-- The wording of the reason. -/
def NamingError.message : NamingError → String
  | .loneBrace brace => "Single '" ++ brace.toString ++ "' encountered in format string"
  | .braceInField => "unexpected '\x7b' in field name"
  | .openField => "expected '\x7d' before end of string"
  | .openFormat => "unmatched '\x7b' in format spec"
  | .openConversion => "end of string while looking for conversion specifier"
  | .noFormat => "expected ':' after conversion specifier"
  | .numbered => "Format string contains positional fields"
  | .unknown field => Text.quoted field

namespace Log.Naming

/-- Where in a name a character stands: outside of fields, in a field, between the square brackets of
one, or in its format with a number of braces to be closed. Of a field its characters are held, the
latest first. -/
inductive Place where
  | outside
  | field (read : List Char)
  | bracket (read : List Char)
  | format (depth : Nat)

/-- The fields in the rest of a name, in order, the one that is being read first. -/
def fieldsFrom : Place → List Char → Except NamingError (List String)
  | .outside, [] => .ok []
  | .outside, ['\x7b'] => .error (.loneBrace '\x7b')
  | .outside, '\x7b' :: '\x7b' :: rest => fieldsFrom .outside rest
  | .outside, '\x7b' :: rest => fieldsFrom (.field []) rest
  | .outside, '\x7d' :: '\x7d' :: rest => fieldsFrom .outside rest
  | .outside, '\x7d' :: _ => .error (.loneBrace '\x7d')
  | .outside, _ :: rest => fieldsFrom .outside rest
  | .field _, [] => .error .openField
  | .field _, '\x7b' :: _ => .error .braceInField
  | .field read, '[' :: rest => fieldsFrom (.bracket ('[' :: read)) rest
  | .field read, '\x7d' :: rest =>
    (fieldsFrom .outside rest).map (String.ofList read.reverse :: ·)
  | .field read, ':' :: rest => (fieldsFrom (.format 0) rest).map (String.ofList read.reverse :: ·)
  | .field _, ['!'] => .error .openConversion
  | .field _, ['!', _] => .error .openFormat
  | .field read, '!' :: _ :: ':' :: rest =>
    (fieldsFrom (.format 0) rest).map (String.ofList read.reverse :: ·)
  | .field read, '!' :: _ :: '\x7d' :: rest =>
    (fieldsFrom .outside rest).map (String.ofList read.reverse :: ·)
  | .field _, '!' :: _ :: _ => .error .noFormat
  | .field read, c :: rest => fieldsFrom (.field (c :: read)) rest
  | .bracket _, [] => .error .openField
  | .bracket read, ']' :: rest => fieldsFrom (.field (']' :: read)) rest
  | .bracket read, c :: rest => fieldsFrom (.bracket (c :: read)) rest
  | .format _, [] => .error .openFormat
  | .format depth, '\x7b' :: rest => fieldsFrom (.format (depth + 1)) rest
  | .format 0, '\x7d' :: rest => fieldsFrom .outside rest
  | .format (depth + 1), '\x7d' :: rest => fieldsFrom (.format depth) rest
  | .format depth, _ :: rest => fieldsFrom (.format depth) rest

/-- The fields of a name, in order. -/
def fields (name : String) : Except NamingError (List String) := fieldsFrom .outside name.toList

/-- The value that a field asks for, without the parts of the value. -/
def valueOf (field : String) : List Char := field.toList.takeWhile fun c => c != '.' && c != '['

/-- There is a value for each of the fields. -/
def checkFields : List String → Except NamingError Unit
  | [] => .ok ()
  | field :: rest =>
    let value := valueOf field
    if value.all Text.isDigit then .error .numbered
    else if String.ofList value == "time" then checkFields rest
    else .error (.unknown (String.ofList value))

/-- The name of the file of records below a directory. -/
def ofDirectory (directory : String) : String :=
  directory ++ "/autocraft_\x7btime:YYYY-MM-DD\x7d.log"

end Log.Naming

end Reroll
