import Reroll.Catalog.Basic
import Reroll.Files.Tree
import Reroll.Http.Exchange
import Reroll.Json.Writer
import Reroll.Log
import Reroll.Settings.Basic

/-!
# Where catalogs come from

A catalog is read from a file, a JSON list, a dump of the stats service or one modifier to a
line, or downloaded from that service. A download that fails leaves the catalog empty, which
switches the filter off instead of blocking a run.
-/

namespace Reroll.Catalog

/-- Why a catalog file is not read. -/
inductive SourceError where
  | missing (p : Path)
  | malformed (p : Path) (f : Json.Failure)
  | file (e : FileError)
  | notText
  | unreadable (f : Json.Failure)
  | shape (e : ShapeError)

namespace SourceError

/-- The wording of the reason. -/
def message : SourceError → String
  | .missing p => "catalog file not found: " ++ p.text
  | .malformed p f => "invalid catalog JSON " ++ p.text ++ ": " ++ f.message
  | .file e => e.message
  | .notText => "catalog file is not text"
  | .unreadable f => f.message
  | .shape e => e.message

/-- The file is missing or no JSON, which callers report and get over. -/
def isExpected : SourceError → Bool
  | .missing _ => true
  | .malformed _ _ => true
  | _ => false

end SourceError

/-- The first group of a dump with the given name. -/
def groupNamed? (name : Value) : List Value → Option (List (Value × Value))
  | [] => none
  | .map fields :: rest =>
    if (Value.get fields "id").sameKey name then some fields else groupNamed? name rest
  | _ :: rest => groupNamed? name rest

/-- The text of an entry of a group, stripped; anything but a mapping has none. -/
def entryText : Value → Except ShapeError String
  | .map fields => ((Value.get fields "text").textFor "strip").map Text.stripped
  | _ => .ok ""

/-- The texts of entries, each one once, empty ones left out. -/
def entryTexts (seen : List String) : List Value → Except ShapeError (List String)
  | [] => .ok seen.reverse
  | v :: rest =>
    match entryText v with
    | .error e => .error e
    | .ok s => entryTexts (if s.isEmpty || seen.contains s then seen else s :: seen) rest

/-- The modifier texts of one group of a dump of the stats service. -/
def textsOfDump (group payload : Value) : Except ShapeError (List String) :=
  match payload with
  | .map fields =>
    match Value.get fields "result" with
    | .list groups =>
      match groupNamed? group groups with
      | none => .ok []
      | some selected => do
        let entries := Value.get selected "entries"
        entryTexts [] (← if entries.truthy then entries.walk else .ok [])
    | _ => .ok []
  | _ => .ok []

/-- The modifier texts of a JSON payload: a list as it is, else a dump. -/
def textsOfPayload (group : Value) : Value → Except ShapeError (List String)
  | .list items => .ok (items.filterMap fun v =>
      match v with
      | .text s => some s
      | _ => none)
  | payload => textsOfDump group payload

/-- The modifier texts of a file's content. -/
def textsOfContent (group : Value) (p : Path) (content : String) :
    Except SourceError (List String) :=
  if p.lowerSuffix = ".json" then
    match Json.read content with
    | .error (.problem q line column offset) =>
      .error (.malformed p (.problem q line column offset))
    | .error f => .error (.unreadable f)
    | .ok payload => (textsOfPayload group payload).mapError .shape
  else .ok ((Text.lines content.toList).map fun l => String.ofList (Text.strip l))

/-- Reads a catalog from a file. -/
def ofFile (group : Value) (files : Files) (p : Path) : Except SourceError Catalog :=
  match files.isPresent p with
  | .error e => .error (.file e)
  | .ok false => .error (.missing p)
  | .ok true =>
    match files.read p with
    | .error e => .error (.file e)
    | .ok bytes =>
      match Files.textOf? bytes with
      | none => .error .notText
      | some content => (textsOfContent group p content).map ofTexts

/-- The text of a catalog file. -/
def saved (c : Catalog) : String := Json.writtenLines c.families

/-- Writes a catalog to a file, making the directories above it. -/
def save (c : Catalog) (files : Files) (p : Path) : Except FileError Files := do
  let files ← files.makeDirectories p.parent
  files.write p c.saved.toUTF8

/-- Why a download gives not even an empty catalog. -/
inductive FetchError where
  | download (e : Http.DownloadError)
  | shape (e : ShapeError)

namespace FetchError

/-- The wording of the reason. -/
def message : FetchError → String
  | .download e => e.message
  | .shape e => e.message

end FetchError

/-- A catalog that was asked for, the requests made for it and what the operator is told. -/
structure Fetched where
  catalog : Except FetchError Catalog
  requests : List Http.Request
  log : List LogRecord

/-- Downloads the catalog of one group. -/
def fetch (replies : Nat → Http.Reply) (made : Nat) (url group : Value) : Fetched :=
  let d := Http.download replies made url
  match d.result.bind Http.readBody with
  | .error e =>
    if e.isExpected then
      { catalog := .ok empty
        requests := d.requests
        log := [⟨.error, "failed to load known mods: " ++ e.message⟩] }
    else { catalog := .error (.download e), requests := d.requests, log := [] }
  | .ok payload =>
    { catalog := ((textsOfDump group payload).map ofTexts).mapError .shape
      requests := d.requests
      log := [] }

/-- Why no catalog is loaded. -/
inductive LoadError where
  | source (e : SourceError)
  | fetch (e : FetchError)
  | shape (e : ShapeError)
  | file (e : FileError)

namespace LoadError

/-- The wording of the reason. -/
def message : LoadError → String
  | .source e => e.message
  | .fetch e => e.message
  | .shape e => e.message
  | .file e => e.message

end LoadError

/-- A catalog that was loaded, with the files afterwards. -/
structure Loaded where
  catalog : Except LoadError Catalog
  files : Files
  requests : List Http.Request
  log : List LogRecord

/-- Downloads a catalog and, if it has families, writes it to the cache file when there is to be
one. -/
def refresh (s : Settings) (replies : Nat → Http.Reply) (made : Nat) (files : Files)
    (cache : Option Path) (log : List LogRecord) : Loaded :=
  let fetched := fetch replies made s.catalogUrl s.catalogGroup
  let log := log ++ fetched.log
  match fetched.catalog, cache with
  | .error e, _ => ⟨.error (.fetch e), files, fetched.requests, log⟩
  | .ok c, none => ⟨.ok c, files, fetched.requests, log⟩
  | .ok c, some p =>
    if c.families.isEmpty then ⟨.ok c, files, fetched.requests, log⟩
    else
      match c.save files p with
      | .error e => ⟨.error (.file e), files, fetched.requests, log⟩
      | .ok files => ⟨.ok c, files, fetched.requests, log⟩

/-- The catalog of the cache file if there is one, otherwise a downloaded one. -/
def load (s : Settings) (replies : Nat → Http.Reply) (made : Nat) (files : Files) : Loaded :=
  match s.catalogCache.pathText? with
  | .error e => ⟨.error (.shape e), files, [], []⟩
  | .ok none => refresh s replies made files none []
  | .ok (some t) =>
    let p := Path.ofText t
    match files.isPresent p with
    | .error e => ⟨.error (.file e), files, [], []⟩
    | .ok false => refresh s replies made files (some p) []
    | .ok true =>
      match ofFile s.catalogGroup files p with
      | .ok c => ⟨.ok c, files, [], []⟩
      | .error e =>
        if e.isExpected then
          let notice := "ignoring known-mod cache: " ++ e.message
          refresh s replies made files (some p) [⟨.warning, notice⟩]
        else ⟨.error (.source e), files, [], []⟩

end Reroll.Catalog
