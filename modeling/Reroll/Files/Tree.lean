import Reroll.Files.Path
import Reroll.Text.Quoted
import Reroll.Text.Space

/-!
# File trees

The files that a program sees are a value: directories with their entries, and files with their
bytes and the time of their last change. Operations give back the changed tree or the reason why
they fail, in the words of the system. A path is followed name by name, so the first obstacle on
the way is the reason.
-/

namespace Reroll

/-- A file or a directory. -/
inductive Entry where
  | file (bytes : ByteArray) (changed : Int)
  | directory (entries : List (String × Entry))

/-- Why an operation on files fails, with the path it was asked for. -/
inductive FileError where
  | notFound (p : Path)
  | taken (p : Path)
  | notDirectory (p : Path)
  | isDirectory (p : Path)
  | nameTooLong (p : Path)
  | nul
  | tooDeep
  deriving DecidableEq

namespace FileError

/-- The system's number and words for a failure, and the path; a path that is not even tried has
none. -/
def parts? : FileError → Option (Nat × String × Path)
  | .notFound p => some (2, "No such file or directory", p)
  | .taken p => some (17, "File exists", p)
  | .notDirectory p => some (20, "Not a directory", p)
  | .isDirectory p => some (21, "Is a directory", p)
  | .nameTooLong p => some (36, "File name too long", p)
  | .nul => none
  | .tooDeep => none

/-- The system refused the operation. -/
def isSystem (e : FileError) : Bool := e.parts?.isSome

/-- The wording of a failure. -/
def message (e : FileError) : String :=
  match e.parts?, e with
  | some (number, words, p), _ =>
    "[Errno " ++ toString number ++ "] " ++ words ++ ": " ++ Text.quoted p.text
  | none, .tooDeep => "maximum recursion depth exceeded while calling a Python object"
  | none, _ => "embedded null byte"

end FileError

namespace Entry

/-- A directory without entries. -/
def empty : Entry := .directory []

/-- The entry of a directory with a name. -/
def child? (name : String) : Entry → Option Entry
  | .directory entries => (entries.find? fun e => e.1 == name).map Prod.snd
  | .file _ _ => none

/-- Sets or removes the entry of a directory with a name. -/
def setChild (name : String) (new : Option Entry) : Entry → Entry
  | .directory entries =>
    .directory (entries.filter (fun e => e.1 != name) ++ new.toList.map fun e => (name, e))
  | .file bytes changed => .file bytes changed

/-- The entry at a place below. -/
def at? : List String → Entry → Option Entry
  | [], e => some e
  | name :: rest, e => (e.child? name).bind (at? rest)

/-- Sets or removes the entry at a place below; directories on the way are made. -/
def put (new : Option Entry) : List String → Entry → Entry
  | [], e => new.getD e
  | [name], e => e.setChild name new
  | name :: rest, e => e.setChild name (some (put new rest ((e.child? name).getD empty)))

/-- The entry is a directory. -/
def isDirectory : Entry → Bool
  | .directory _ => true
  | .file _ _ => false

end Entry

/-- The names of the working directory. -/
def workingPlace : List String := ["tmp", "run"]

/-- All files, below the root. Of what lies outside the working directory only the usual
directories are known. -/
structure Files where
  root : Entry :=
    .directory
      [("tmp", .directory [("run", .empty)]), ("bin", .empty), ("dev", .empty), ("etc", .empty),
        ("home", .empty), ("lib", .empty), ("proc", .empty), ("root", .empty), ("usr", .empty),
        ("var", .empty)]

namespace Files

/-- The most bytes of a single name. -/
def nameLimit : Nat := 255

/-- The most bytes of a whole path. -/
def pathLimit : Nat := 4095

/-- Where a path leads: the names from the root on, and what is there. -/
structure Spot where
  place : List String
  entry : Option Entry

/-- Follows names from a directory, given with those above it, the innermost one first. Only the
last name may lead to nothing. -/
def follow (p : Path) (root : Entry) (above : List (String × Entry)) :
    List String → Except FileError Spot
  | [] => .ok ⟨(above.map Prod.fst).reverse, some ((above.map Prod.snd).headD root)⟩
  | name :: rest =>
    let here := (above.map Prod.snd).headD root
    if !here.isDirectory then .error (.notDirectory p)
    else if name = ".." then follow p root (above.drop 1) rest
    else if nameLimit < name.utf8ByteSize then .error (.nameTooLong p)
    else
      match here.child? name with
      | some e => follow p root ((name, e) :: above) rest
      | none =>
        if rest.isEmpty then .ok ⟨(name :: above.map Prod.fst).reverse, none⟩
        else .error (.notFound p)

/-- The directories down to a place, the innermost one first. -/
def chain (above : List (String × Entry)) (e : Entry) : List String → List (String × Entry)
  | [] => above
  | name :: rest =>
    let next := (e.child? name).getD .empty
    chain ((name, next) :: above) next rest

/-- Where a path leads. -/
def spot (f : Files) (p : Path) : Except FileError Spot :=
  if p.hasNul then .error .nul
  else if pathLimit < p.text.utf8ByteSize then .error (.nameTooLong p)
  else follow p f.root (if p.isAbsolute then [] else chain [] f.root workingPlace) p.names

/-- What a path leads to. -/
def find (f : Files) (p : Path) : Except FileError Entry :=
  match f.spot p with
  | .error e => .error e
  | .ok s =>
    match s.entry with
    | some e => .ok e
    | none => .error (.notFound p)

/-- Something is there. Obstacles on the way mean that nothing is, save a name that is too long,
which is an error. -/
def isPresent (f : Files) (p : Path) : Except FileError Bool :=
  match f.find p with
  | .ok _ => .ok true
  | .error (.nameTooLong q) => .error (.nameTooLong q)
  | .error _ => .ok false

/-- A directory is there. -/
def isDirectory (f : Files) (p : Path) : Except FileError Bool :=
  match f.find p with
  | .ok e => .ok e.isDirectory
  | .error (.nameTooLong q) => .error (.nameTooLong q)
  | .error _ => .ok false

/-- The bytes of a file. -/
def read (f : Files) (p : Path) : Except FileError ByteArray :=
  match f.find p with
  | .error e => .error e
  | .ok (.directory _) => .error (.isDirectory p)
  | .ok (.file bytes _) => .ok bytes

/-- When a file was changed last; directories never change. -/
def changed (f : Files) (p : Path) : Except FileError Int :=
  match f.find p with
  | .error e => .error e
  | .ok (.directory _) => .ok 0
  | .ok (.file _ time) => .ok time

/-- The place that a path leads to, whether or not anything is there. -/
def place (f : Files) (p : Path) : Except FileError (List String) := (f.spot p).map Spot.place

/-- Puts an entry at a place, or removes it. -/
def put (f : Files) (place : List String) (new : Option Entry) : Files :=
  { root := f.root.put new place }

/-- Writes a file. -/
def write (f : Files) (p : Path) (bytes : ByteArray) (time : Int := 0) : Except FileError Files :=
  match f.spot p with
  | .error e => .error e
  | .ok ⟨_, some (.directory _)⟩ => .error (.isDirectory p)
  | .ok ⟨place, _⟩ => .ok (f.put place (some (.file bytes time)))

/-- Makes a single directory where nothing is. -/
def makeDirectory (f : Files) (p : Path) : Except FileError Files :=
  match f.spot p with
  | .error e => .error e
  | .ok ⟨_, some _⟩ => .error (.taken p)
  | .ok ⟨place, none⟩ => .ok (f.put place (some .empty))

/-- The outcome of making a directory, for one who is content with a directory that is there. -/
def contentWith (f : Files) (p : Path) (r : Except FileError Files) : Except FileError Files :=
  match r with
  | .ok f => .ok f
  | .error e =>
    if !e.isSystem then .error e
    else
      match f.isDirectory p with
      | .error e => .error e
      | .ok true => .ok f
      | .ok false => .error e

/-- How many missing directories in a row are made at most. -/
def depthLimit : Nat := 980

/-- Makes a directory and, where that fails for lack of one above, those above it first. -/
def makeFrom (f : Files) : Nat → Path → Except FileError Files
  | 0, _ => .error .tooDeep
  | fuel + 1, p =>
    match f.makeDirectory p with
    | .error (.notFound q) =>
      if p.names.isEmpty then .error (.notFound q)
      else
        match makeFrom f fuel p.parent with
        | .error e => .error e
        | .ok f =>
          match f.makeDirectory p with
          | .error (.notFound q) => .error (.notFound q)
          | r => f.contentWith p r
    | r => f.contentWith p r

/-- Makes a directory and those above it; one that is there already is fine. -/
def makeDirectories (f : Files) (p : Path) : Except FileError Files := f.makeFrom depthLimit p

/-- Removes a file. One that is not there is fine, a directory is not. -/
def remove (f : Files) (p : Path) : Except FileError Files :=
  match f.spot p with
  | .error (.notFound _) => .ok f
  | .error e => .error e
  | .ok ⟨_, none⟩ => .ok f
  | .ok ⟨_, some (.directory _)⟩ => .error (.isDirectory p)
  | .ok ⟨place, some (.file _ _)⟩ => .ok (f.put place none)

/-- The text of a file whose line ends are unified, if its bytes are text. -/
def textOf? (bytes : ByteArray) : Option String :=
  (String.fromUTF8? bytes).map fun s => String.ofList (Text.unifyNewlines s.toList)

end Files

end Reroll
