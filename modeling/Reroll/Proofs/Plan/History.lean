import Reroll.Proofs.Files.Tree
import Reroll.Proofs.Plan.Shelf

/-!
# Plans that are asked for again

Between two questions for a plan its file may be written, removed and written again. When a file
that is written gets a time that none at its place ever had, place and time tell the bytes
(`Desk.Sound`), so a plan from the shelf is what the file says. It is the plan that the file would
give now exactly when the file of known modifiers that it names, if any, gives the same catalog as
when the plan was read, and it differs from such a plan in nothing else (`Desk.asked_plan_current`).
No time is kept of the file of known modifiers, so the plan outlives it
(`Desk.removed_catalog_stays`).
-/

namespace Reroll

open Report

namespace Plan

variable {s : Settings} {files files' : Files} {base base' : Option Path} {doc : Value}
  {plan plan' : Plan}

/-! ### A document read among other files -/

/-- The catalog of the file of known modifiers that a document names, if it names one that is
read. -/
def namedCatalog (s : Settings) (files : Files) (base : Option Path) (doc : Value) :
    Option Catalog :=
  match doc.opened with
  | .map fields =>
    match (knownValue fields).opened with
    | .text name => (Catalog.ofFile s.catalogGroup files (fileNamed base name)).toOption
    | _ => none
  | _ => none

/-- A plan differs from one read elsewhere from the same document in the known modifiers alone. -/
theorem read_elsewhere (h : read s files base doc = .ok (.ok plan)) :
    read s files' base' doc = .ok (.ok plan') ↔
      plan' = { plan with known := plan'.known } ∧ ∃ fields, doc.opened = .map fields ∧
        KnownGiven s files' base' (knownValue fields) plan'.known := by
  obtain ⟨fields, hfields, hparts⟩ := read_gives.mp h
  unfold readParts at hparts
  simp only [gives_bind, gives_pure] at hparts
  obtain ⟨graph, hgraph, attempts, hattempts, delay, hdelay, targets, htargets, known, hknown,
    hplan⟩ := hparts
  obtain ⟨g, rfl, rfl⟩ := Option.map_eq_some_iff.mp hplan
  rw [read_gives]
  unfold readParts
  simp only [gives_bind, gives_pure]
  constructor
  · intro hgiven
    obtain ⟨fields', hfields', graph', hgraph', attempts', hattempts', delay', hdelay', targets',
      htargets', known', hknown', hplan'⟩ := hgiven
    cases hfields.symm.trans hfields'
    cases hgraph.unique hgraph'
    cases hattempts.unique hattempts'
    cases hdelay.unique hdelay'
    cases htargets.unique htargets'
    cases hplan'
    exact ⟨rfl, fields, hfields, gives_readKnown.mp hknown'⟩
  · intro hgiven
    obtain ⟨hplan', fields', hfields', hknown'⟩ := hgiven
    cases hfields.symm.trans hfields'
    refine ⟨fields, hfields, some g, hgraph, attempts, hattempts, delay, hdelay, targets, htargets,
      plan'.known, gives_readKnown.mpr hknown', ?_⟩
    exact congrArg some hplan'.symm

theorem knownGiven_elsewhere {fields : List (Value × Value)} {known : Option Catalog}
    (hfields : doc.opened = .map fields)
    (h : KnownGiven s files base (knownValue fields) known) :
    KnownGiven s files' base' (knownValue fields) known ↔
      namedCatalog s files' base' doc = namedCatalog s files base doc := by
  unfold KnownGiven at h ⊢
  unfold namedCatalog
  rw [hfields]
  dsimp only
  cases hv : (knownValue fields).opened with
  | text name =>
    rw [hv] at h
    obtain ⟨c, hc, rfl⟩ := h
    dsimp only
    rw [hc]
    cases Catalog.ofFile s.catalogGroup files' (fileNamed base' name) with
    | error e => exact iff_of_false nofun nofun
    | ok c' => simp [Except.toOption, eq_comm]
  | _ =>
    rw [hv] at h
    exact iff_of_true h rfl

theorem read_elsewhere_same (h : read s files base doc = .ok (.ok plan)) :
    read s files' base' doc = .ok (.ok plan) ↔
      namedCatalog s files' base' doc = namedCatalog s files base doc := by
  obtain ⟨-, fields, hfields, hknown⟩ := (read_elsewhere h).mp h
  rw [read_elsewhere h, ← knownGiven_elsewhere hfields hknown]
  constructor
  · intro hgiven
    obtain ⟨-, fields', hfields', hknown'⟩ := hgiven
    cases hfields.symm.trans hfields'
    exact hknown'
  · exact fun hknown' => ⟨rfl, fields, hfields, hknown'⟩

/-- The catalog of the file of known modifiers that a plan file with some bytes names. -/
def catalogNamedIn (s : Settings) (files : Files) (p : Path) (bytes : ByteArray) :
    Option Catalog :=
  match Yaml.read bytes with
  | .ok doc => namedCatalog s files (some p.parent) doc
  | .error _ => none

variable {p p' : Path} {bytes : ByteArray}

theorem ofFile_elsewhere (hbytes : files.read p = .ok bytes) (hbytes' : files'.read p' = .ok bytes)
    (h : ofFile s files p = .ok plan) :
    (ofFile s files' p' = .ok plan ↔
      catalogNamedIn s files' p' bytes = catalogNamedIn s files p bytes) ∧
      ∀ plan', ofFile s files' p' = .ok plan' → plan' = { plan with known := plan'.known } := by
  obtain ⟨_, doc, hread, hdoc, hplan⟩ := ofFile_eq_ok.mp h
  cases hbytes.symm.trans hread
  have hother : ∀ plan', ofFile s files' p' = .ok plan' ↔
      read s files' (some p'.parent) doc = .ok (.ok plan') := by
    intro plan'
    rw [ofFile_eq_ok]
    constructor
    · intro hgiven
      obtain ⟨_, doc', hread', hdoc', hplan'⟩ := hgiven
      cases hbytes'.symm.trans hread'
      cases hdoc.symm.trans hdoc'
      exact hplan'
    · exact fun hplan' => ⟨bytes, doc, hbytes', hdoc, hplan'⟩
  unfold catalogNamedIn
  rw [hdoc]
  exact ⟨(hother plan).trans (read_elsewhere_same hplan),
    fun plan' hplan' => ((read_elsewhere hplan).mp ((hother plan').mp hplan')).1⟩

end Plan

/-! ### Errands -/

/-- A file is written or removed, or a plan is asked for. -/
inductive Errand where
  | write (p : Path) (bytes : ByteArray) (time : Int)
  | remove (p : Path)
  | ask (name : String)

/-- The files as they are, a shelf of plans, and the files as they were before each change, the
latest first. -/
structure Desk where
  files : Files
  shelf : Shelf
  before : List Files := []

namespace Desk

variable {s : Settings} {d : Desk}

/-- The files as they are and as they were. -/
def trees (d : Desk) : List Files := d.files :: d.before

/-- The desk after a change of the files, which stay as they are when it fails. -/
def changed (d : Desk) : Except FileError Files → Desk
  | .ok files => { d with files, before := d.trees }
  | .error _ => d

/-- Asks for the plan with a name. -/
def ask (s : Settings) (d : Desk) (name : String) : Taken := d.shelf.take s d.files name

/-- The desk after an errand. -/
def step (s : Settings) (d : Desk) : Errand → Desk
  | .write p bytes time => d.changed (d.files.write p bytes time)
  | .remove p => d.changed (d.files.remove p)
  | .ask name => { d with shelf := (d.ask s name).shelf }

/-- The desk after some errands. -/
def run (s : Settings) (d : Desk) (errands : List Errand) : Desk := errands.foldl (step s) d

/-- A file that is written gets a time that none at its place ever had. -/
def dates (d : Desk) : Errand → Bool
  | .write p _ time =>
    match d.files.place p with
    | .ok place => d.trees.all fun f => (f.outline place).join.map Prod.snd != some time
    | .error _ => true
  | _ => true

/-- All files that are written on some errands get times of their own. -/
def datesAll (s : Settings) (d : Desk) : List Errand → Bool
  | [] => true
  | errand :: rest => d.dates errand && datesAll s (d.step s errand) rest

/-- A plan is what a file said that bore its place and its time. -/
def ReadIn (s : Settings) (f : Files) (p : Path) (bytes : ByteArray) (entry : ShelvedPlan) : Prop :=
  f.place p = .ok entry.place ∧ f.read p = .ok bytes ∧ f.changed p = .ok entry.changed ∧
    Plan.ofFile s f p = .ok entry.plan

/-- Directories stay what they are, place and time tell the bytes of a file, and the plans of the
shelf were read from files of the desk. -/
structure Sound (s : Settings) (d : Desk) : Prop where
  home : ∀ f ∈ d.trees, f.hasHome = true
  folders : ∀ f ∈ d.trees, ∀ place,
    f.outline place = some none ↔ d.files.outline place = some none
  told : ∀ f ∈ d.trees, ∀ g ∈ d.trees, ∀ place bytes bytes' time,
    f.outline place = some (some (bytes, time)) → g.outline place = some (some (bytes', time)) →
      bytes = bytes'
  shelved : ∀ entry ∈ d.shelf.plans, ∃ f ∈ d.trees, ∃ p bytes, ReadIn s f p bytes entry

theorem Sound.now (hd : d.Sound s) : d.files.hasHome = true := hd.home d.files List.mem_cons_self

theorem sound_start {files : Files} {base : Path} (hhome : files.hasHome = true) :
    Sound s { files, shelf := { base } } where
  home := by simpa [trees] using hhome
  folders := by simp [trees]
  told := by
    intro f hf g hg place bytes bytes' time hbytes hbytes'
    cases List.mem_singleton.mp hf
    cases List.mem_singleton.mp hg
    cases hbytes.symm.trans hbytes'
    rfl
  shelved := List.forall_mem_nil _

/-- A change of the files leaves each place as it is, or puts no directory where none was, and no
file with a time that one there ever had. -/
def Dated (d : Desk) (g : Files) : Prop :=
  ∀ place, g.outline place = d.files.outline place ∨
    d.files.outline place ≠ some none ∧ g.outline place ≠ some none ∧
      ∀ f ∈ d.trees, ∀ bytes bytes' time, g.outline place = some (some (bytes, time)) →
        f.outline place ≠ some (some (bytes', time))

theorem Dated.folder {g : Files} (hg : d.Dated g) (place : List String) :
    g.outline place = some none ↔ d.files.outline place = some none := by
  rcases hg place with heq | ⟨hold, hnew, -⟩
  · rw [heq]
  · exact iff_of_false hnew hold

theorem Dated.told {g f : Files} (hd : d.Sound s) (hg : d.Dated g) (hf : f ∈ d.trees)
    {place : List String} {bytes bytes' : ByteArray} {time : Int}
    (hnew : g.outline place = some (some (bytes, time)))
    (hold : f.outline place = some (some (bytes', time))) : bytes = bytes' := by
  rcases hg place with heq | ⟨-, -, hdated⟩
  · exact hd.told d.files List.mem_cons_self f hf place bytes bytes' time (heq.symm.trans hnew) hold
  · exact absurd hold (hdated f hf bytes bytes' time hnew)

theorem Sound.changed_ok {g : Files} (hd : d.Sound s) (hg : d.Dated g) :
    (d.changed (.ok g)).Sound s where
  home := by
    have hhome : g.hasHome = true := by
      rw [Files.hasHome_iff, hg.folder, ← Files.hasHome_iff]
      exact hd.now
    exact List.forall_mem_cons.mpr ⟨hhome, hd.home⟩
  folders := by
    refine List.forall_mem_cons.mpr ⟨fun place => Iff.rfl, fun f hf place => ?_⟩
    exact (hd.folders f hf place).trans (hg.folder place).symm
  told := by
    intro f hf f' hf' place bytes bytes' time hbytes hbytes'
    rcases List.mem_cons.mp hf with rfl | hf
    · rcases List.mem_cons.mp hf' with rfl | hf'
      · cases hbytes.symm.trans hbytes'
        rfl
      · exact hg.told hd hf' hbytes hbytes'
    · rcases List.mem_cons.mp hf' with rfl | hf'
      · exact (hg.told hd hf hbytes' hbytes).symm
      · exact hd.told f hf f' hf' place bytes bytes' time hbytes hbytes'
  shelved := by
    intro entry hentry
    obtain ⟨f, hf, hread⟩ := hd.shelved entry hentry
    exact ⟨f, List.mem_cons_of_mem _ hf, hread⟩

theorem write_dated {p : Path} {bytes : ByteArray} {time : Int} {g : Files} (hd : d.Sound s)
    (hdates : d.dates (.write p bytes time) = true) (h : d.files.write p bytes time = .ok g) :
    d.Dated g := by
  obtain ⟨place, hplace, hold, houtline⟩ := Files.write_outline hd.now h
  rw [dates, hplace] at hdates
  intro q
  rw [houtline]
  by_cases hq : q = place
  · subst hq
    refine .inr ⟨hold, by simp, fun f hf bytes₀ bytes' time' heq hother => ?_⟩
    have hnever := List.all_eq_true.mp hdates f hf
    rw [if_pos rfl] at heq
    cases heq
    rw [hother] at hnever
    simp at hnever
  · exact .inl (if_neg hq)

theorem remove_dated {p : Path} {g : Files} (hd : d.Sound s) (h : d.files.remove p = .ok g) :
    d.Dated g := by
  rcases Files.remove_outline hd.now h with rfl | ⟨place, -, hold, houtline⟩
  · exact fun q => .inl rfl
  · intro q
    rw [houtline]
    by_cases hq : q = place
    · subst hq
      exact .inr ⟨hold, by simp, by simp⟩
    · exact .inl (if_neg hq)

/-- A plan that is given was read from files of the desk that bore the place and the time of the
file that its name leads to. -/
theorem Sound.asked {name : String} {entry : ShelvedPlan} (hd : d.Sound s)
    (hask : (d.ask s name).result = .ok (some entry)) :
    ∃ p, d.shelf.resolve d.files name = .ok (some p) ∧ d.files.place p = .ok entry.place ∧
      d.files.changed p = .ok entry.changed ∧
      ∃ f ∈ d.trees, ∃ p₀ bytes, ReadIn s f p₀ bytes entry := by
  obtain ⟨p, hp, hplace, hchanged, hfrom⟩ := Shelf.take_entry hask
  refine ⟨p, hp, hplace, hchanged, ?_⟩
  rcases hfrom with hkept | hread
  · exact hd.shelved entry hkept
  · obtain ⟨bytes, doc, hbytes, -⟩ := Plan.ofFile_eq_ok.mp hread
    exact ⟨d.files, List.mem_cons_self, p, bytes, hplace, hbytes, hchanged, hread⟩

theorem Sound.with_shelf {h : Shelf} (hd : d.Sound s)
    (hshelved : ∀ entry ∈ h.plans, ∃ f ∈ d.trees, ∃ p bytes, ReadIn s f p bytes entry) :
    ({ d with shelf := h } : Desk).Sound s :=
  ⟨hd.home, hd.folders, hd.told, hshelved⟩

theorem ask_shelf {name : String} (k : ShelvedPlan) (hk : k ∈ (d.ask s name).shelf.plans) :
    k ∈ d.shelf.plans ∨ (d.ask s name).result = .ok (some k) := by
  unfold ask at hk ⊢
  rcases Shelf.take_shelf d.shelf s d.files name with
    hsame | ⟨entry, hentry, hnew⟩
  · rw [hsame] at hk
    exact .inl hk
  · rcases hnew k hk with rfl | hk
    · exact .inr hentry
    · exact .inl hk

theorem Sound.step {errand : Errand} (hd : d.Sound s) (hdates : d.dates errand = true) :
    (d.step s errand).Sound s := by
  cases errand with
  | write p bytes time =>
    rw [Desk.step]
    cases h : d.files.write p bytes time with
    | error e => exact hd
    | ok g => exact hd.changed_ok (write_dated hd hdates h)
  | remove p =>
    rw [Desk.step]
    cases h : d.files.remove p with
    | error e => exact hd
    | ok g => exact hd.changed_ok (remove_dated hd h)
  | ask name =>
    have hshelved : ∀ k ∈ (d.ask s name).shelf.plans, ∃ f ∈ d.trees, ∃ p bytes,
        ReadIn s f p bytes k := by
      intro k hk
      rcases ask_shelf k hk with hold | hnew
      · exact hd.shelved k hold
      · obtain ⟨_, _, _, _, hread⟩ := hd.asked hnew
        exact hread
    exact hd.with_shelf hshelved

theorem Sound.run {errands : List Errand} (hd : d.Sound s) (hdates : d.datesAll s errands = true) :
    (d.run s errands).Sound s := by
  induction errands generalizing d with
  | nil => exact hd
  | cons errand rest ih =>
    obtain ⟨hfirst, hrest⟩ := Bool.and_eq_true_iff.mp hdates
    exact ih (hd.step hfirst) hrest

/-- A plan that was given is what its file says: it was read from files of the desk with the bytes
that the file has now. It is the plan that the file gives now exactly when the file of known
modifiers that it names gives the same catalog as then, and no plan that the file gives now differs
from it elsewhere. -/
def Current (s : Settings) (d : Desk) (name : String) (entry : ShelvedPlan) : Prop :=
  ∃ p bytes f p₀, d.shelf.resolve d.files name = .ok (some p) ∧ d.files.read p = .ok bytes ∧
    f ∈ d.trees ∧ f.place p₀ = d.files.place p ∧ f.read p₀ = .ok bytes ∧
    Plan.ofFile s f p₀ = .ok entry.plan ∧
    (Plan.ofFile s d.files p = .ok entry.plan ↔
      Plan.catalogNamedIn s d.files p bytes = Plan.catalogNamedIn s f p₀ bytes) ∧
    ∀ plan, Plan.ofFile s d.files p = .ok plan → plan = { entry.plan with known := plan.known }

theorem Sound.current {name : String} {entry : ShelvedPlan} (hd : d.Sound s)
    (hask : (d.ask s name).result = .ok (some entry)) : d.Current s name entry := by
  obtain ⟨p, hp, hplace, hchanged, f, hf, p₀, bytes, hplace₀, hbytes₀, hchanged₀, hplan⟩ :=
    hd.asked hask
  obtain ⟨_, hplace', hthen⟩ := (Files.read_iff (hd.home f hf)).mp ⟨hbytes₀, hchanged₀⟩
  cases hplace₀.symm.trans hplace'
  -- what is there now is no directory, since it was none then
  have hnow : d.files.read p = .ok bytes := by
    rcases Files.changed_outline hd.now hplace hchanged with hdir | ⟨bytes', hfile⟩
    · rw [← hd.folders f hf, hthen] at hdir
      cases hdir
    · cases hd.told f hf d.files List.mem_cons_self _ _ _ _ hthen hfile
      exact ((Files.read_iff hd.now).mpr ⟨_, hplace, hfile⟩).1
  obtain ⟨hsame, hothers⟩ := Plan.ofFile_elsewhere hbytes₀ hnow hplan
  exact ⟨p, bytes, f, p₀, hp, hnow, hf, hplace₀.trans hplace.symm, hbytes₀, hplan, hsame, hothers⟩

theorem ask_none {name : String} (hask : ∀ entry, (d.ask s name).result ≠ .ok (some entry)) :
    d.step s (.ask name) = d := by
  rcases Shelf.take_shelf d.shelf s d.files name with
    hsame | ⟨entry, hentry, -⟩
  · rw [step, ask, hsame]
  · exact absurd hentry (hask entry)

/-- Whatever was done before, a plan that is given is what its file says, but for a file of known
modifiers that has changed since; and asking in vain changes nothing for what comes later. -/
theorem asked_plan_current (s : Settings) (files : Files) (base : Path) (errands : List Errand)
    (name : String) (hhome : files.hasHome = true)
    (hdates : ({ files, shelf := { base } } : Desk).datesAll s errands = true) :
    let d := ({ files, shelf := { base } } : Desk).run s errands
    (∀ entry, (d.ask s name).result = .ok (some entry) → d.Current s name entry) ∧
      ((∀ entry, (d.ask s name).result ≠ .ok (some entry)) →
        ∀ later, (d.step s (.ask name)).run s later = d.run s later) := by
  intro d
  have hd : d.Sound s := (sound_start hhome).run hdates
  refine ⟨fun entry => hd.current, fun hask later => ?_⟩
  rw [ask_none hask]

/-- A plan file that names a file of known modifiers, both of them written one after the other, and
the plan asked for. -/
def catalogErrands : List Errand := [
  .write (.ofText "c.yaml")
    ("nodes:\n- id: start\n  kind: start\n- id: end\n  kind: end\n" ++
      "edges:\n- source: start\n  target: end\nknown_mods: mods.txt\n").toUTF8 1,
  .write (.ofText "mods.txt") "+5 to maximum life".toUTF8 2,
  .ask "c"]

/-- The desk in an empty working directory, after some errands. -/
def after (errands : List Errand) : Desk :=
  ({ files := {}, shelf := { base := .ofText "." } } : Desk).run {} errands

theorem given_of_isSome {r : Except PlanSourceError (Option ShelvedPlan)}
    (h : r.toOption.join.isSome = true) : ∃ entry, r = .ok (some entry) := by
  cases r with
  | error e => cases h
  | ok o =>
    cases o with
    | none => cases h
    | some entry => exact ⟨entry, rfl⟩

theorem asked_again_current :
    ∃ entry, ((after catalogErrands).ask {} "c").result = .ok (some entry) ∧
      (after catalogErrands).Current {} "c" entry := by
  have hgiven : ((after catalogErrands).ask {} "c").result.toOption.join.isSome = true := by
    decide +kernel
  obtain ⟨entry, hentry⟩ := given_of_isSome hgiven
  have hcurrent := asked_plan_current {} {} (.ofText ".") catalogErrands "c" (by decide +kernel)
    (by decide +kernel)
  exact ⟨entry, hentry, hcurrent.1 entry hentry⟩

/-- The same errands, after which the file of known modifiers is removed. -/
def removalErrands : List Errand := catalogErrands ++ [.remove (.ofText "mods.txt")]

/-- A plan is still given when the file of known modifiers that it names is gone, although its own
file would be refused now. -/
theorem removed_catalog_stays :
    ({ files := {}, shelf := { base := .ofText "." } } : Desk).datesAll {} removalErrands = true ∧
      (after removalErrands).shelf.resolve (after removalErrands).files "c" =
        .ok (some (.ofText "c.yaml")) ∧
      (∃ entry, ((after removalErrands).ask {} "c").result = .ok (some entry)) ∧
      ∃ e, Plan.ofFile {} (after removalErrands).files (.ofText "c.yaml") = .error e ∧
        Shelf.complaints? (.ofText "c.yaml") e =
          some [⟨.error, "config invalid [c.yaml]: known_mods: catalog file not found: mods.txt"⟩] := by
  have hstays : (after removalErrands).shelf.resolve (after removalErrands).files "c" =
        .ok (some (.ofText "c.yaml")) ∧
      ((after removalErrands).ask {} "c").result.toOption.join.isSome = true ∧
      (match Plan.ofFile {} (after removalErrands).files (.ofText "c.yaml") with
        | .error e => Shelf.complaints? (.ofText "c.yaml") e
        | .ok _ => none) =
        some [⟨.error, "config invalid [c.yaml]: known_mods: catalog file not found: mods.txt"⟩] := by
    decide +kernel
  obtain ⟨hresolve, hgiven, hrefused⟩ := hstays
  refine ⟨by decide +kernel, hresolve, given_of_isSome hgiven, ?_⟩
  split at hrefused
  · next e he => exact ⟨e, he, hrefused⟩
  · cases hrefused

end Desk

end Reroll
