import Reroll.Catalog.Source
import Reroll.Proofs.Catalog.Family
import Reroll.Proofs.Files.Place
import Reroll.Proofs.Json.Lines

/-!
# Saved catalogs

A catalog that was saved is read with the same families, whichever reader the name of its file
selects: the lines of the list are its families between quotes and commas. So a catalog that was
cached is loaded again without a request.
-/

namespace Reroll.Catalog

open Canonical

variable {f g t : String} {fs gs texts : List String} {c : Catalog}

/-! ### Ascending order -/

theorem mem_insertSorted : g ∈ insertSorted f fs ↔ g = f ∨ g ∈ fs := by
  induction fs with
  | nil => simp [insertSorted]
  | cons h rest ih =>
    unfold insertSorted
    split
    · next heq =>
      rw [heq, List.mem_cons]
      simp
    · split
      · simp
      · rw [List.mem_cons, ih, List.mem_cons]
        exact or_left_comm

theorem insertSorted_ascending (h : fs.Pairwise (· < ·)) :
    (insertSorted f fs).Pairwise (· < ·) := by
  induction fs with
  | nil => exact List.pairwise_singleton ..
  | cons g rest ih =>
    obtain ⟨hg, hrest⟩ := List.pairwise_cons.mp h
    unfold insertSorted
    split
    · exact h
    · next hne =>
      split
      · next hlt =>
        refine List.pairwise_cons.mpr ⟨fun x hx => ?_, h⟩
        rcases List.mem_cons.mp hx with rfl | hx
        · exact hlt
        · exact String.lt_trans hlt (hg x hx)
      · next hlt =>
        have hafter : g < f := by
          by_contra hnot
          exact hne (String.le_antisymm (String.not_lt.mp hnot) (String.not_lt.mp hlt))
        refine List.pairwise_cons.mpr ⟨fun x hx => ?_, ih hrest⟩
        rcases mem_insertSorted.mp hx with rfl | hx
        · exact hafter
        · exact hg x hx

theorem insertSorted_last (h : ∀ g ∈ fs, g < f) : insertSorted f fs = fs ++ [f] := by
  induction fs with
  | nil => rfl
  | cons g rest ih =>
    obtain ⟨hg, hrest⟩ := List.forall_mem_cons.mp h
    have hne : f ≠ g := by
      rintro rfl
      exact String.lt_irrefl _ hg
    rw [insertSorted, if_neg hne, if_neg (String.lt_asymm hg), ih hrest]
    rfl

/-- The families given, each at its place. -/
def sorted (fs : List String) : List String := fs.foldl (fun fs f => insertSorted f fs) []

theorem sorted_ascending (fs : List String) : (sorted fs).Pairwise (· < ·) := by
  have hfold : ∀ start : List String, start.Pairwise (· < ·) →
      (fs.foldl (fun fs f => insertSorted f fs) start).Pairwise (· < ·) := by
    induction fs with
    | nil => exact fun start h => h
    | cons f fs ih => exact fun start h => ih _ (insertSorted_ascending h)
  exact hfold [] .nil

theorem mem_sorted : g ∈ sorted fs ↔ g ∈ fs := by
  have hfold : ∀ start,
      g ∈ fs.foldl (fun fs f => insertSorted f fs) start ↔ g ∈ start ∨ g ∈ fs := by
    induction fs with
    | nil => simp
    | cons f fs ih =>
      intro start
      rw [List.foldl_cons, ih, mem_insertSorted, List.mem_cons]
      tauto
  rw [sorted, hfold]
  simp

/-- What is in order stays as it is. -/
theorem sorted_eq_self (h : fs.Pairwise (· < ·)) : sorted fs = fs := by
  have hfold : ∀ start : List String, (start ++ fs).Pairwise (· < ·) →
      fs.foldl (fun fs f => insertSorted f fs) start = start ++ fs := by
    clear h
    induction fs with
    | nil => exact fun start _ => (List.append_nil start).symm
    | cons f fs ih =>
      intro start h
      have hlast : ∀ g ∈ start, g < f := fun g hg =>
        (List.pairwise_append.mp h).2.2 g hg f (List.mem_cons_self ..)
      have hassoc : start ++ f :: fs = start ++ [f] ++ fs := by simp
      rw [List.foldl_cons, insertSorted_last hlast, hassoc]
      rw [hassoc] at h
      exact ih _ h
  exact hfold [] h

/-! ### Catalogs of families -/

/-- The families that some texts give. -/
def familiesOf (texts : List String) : List String :=
  (texts.map family).filter fun f => !f.isEmpty

theorem families_ofTexts (texts : List String) :
    (ofTexts texts).families = sorted (familiesOf texts) := by
  have hfold : ∀ c : Catalog, (texts.foldl add c).families =
      (familiesOf texts).foldl (fun fs f => insertSorted f fs) c.families := by
    induction texts with
    | nil => exact fun c => rfl
    | cons t texts ih =>
      intro c
      rw [List.foldl_cons, ih]
      unfold add familiesOf
      dsimp only
      rw [List.map_cons]
      cases hempty : (family t).isEmpty with
      | true =>
        rw [List.filter_cons_of_neg (by simp [hempty]), if_pos rfl]
      | false =>
        rw [List.filter_cons_of_pos (by simp [hempty]), if_neg Bool.false_ne_true]
        rfl
  exact hfold empty

/-- Families in ascending order, each one its own family. -/
structure Proper (c : Catalog) : Prop where
  ascending : c.families.Pairwise (· < ·)
  families : ∀ f ∈ c.families, f.isEmpty = false ∧ IsFamily f.toList

/-- Texts that are canonical without the reserved word. -/
def Tame (texts : List String) : Prop := ∀ t ∈ texts, ¬reserved <:+: (canonical t).toList

theorem proper_ofTexts (tame : Tame texts) : Proper (ofTexts texts) := by
  refine ⟨?_, fun f hf => ?_⟩
  · rw [families_ofTexts]
    exact sorted_ascending _
  · rw [families_ofTexts, mem_sorted] at hf
    obtain ⟨hmem, hsome⟩ := List.mem_filter.mp hf
    obtain ⟨t, ht, rfl⟩ := List.mem_map.mp hmem
    have htame := tame t ht
    have hcanonical : (canonical t).toList = canonicalChars t.toList := String.toList_ofList
    have hfamily : (family t).toList = familyChars t.toList := String.toList_ofList
    rw [hcanonical] at htame
    refine ⟨by simpa using hsome, ?_⟩
    rw [hfamily]
    exact isFamily htame

theorem ofTexts_eq (proper : Proper c) (h : familiesOf texts = c.families) : ofTexts texts = c := by
  have hfamilies := families_ofTexts texts
  rw [h, sorted_eq_self proper.ascending] at hfamilies
  cases c
  exact congrArg Catalog.mk hfamilies

/-- The family of a family between quotes and commas. -/
theorem family_quoted (h : IsFamily f.toList) {before after : List Char}
    (hbefore : IsQuoting before) (hafter : IsQuoting after) :
    family (String.ofList (before ++ f.toList ++ after)) = f := by
  rw [family, String.toList_ofList, h.familyChars_quoted hbefore hafter, String.ofList_toList]

theorem family_self (h : IsFamily f.toList) : family f = f := by
  have hnone : IsQuoting [] := nofun
  have hquoted := family_quoted h hnone hnone
  rwa [List.nil_append, List.append_nil, String.ofList_toList] at hquoted

theorem isPlain_family (h : IsFamily f.toList) : ∀ c ∈ f.toList, Json.IsPlain c := by
  have hplain : ∀ c, isCanonicalChar c = true → Json.IsPlain c :=
    forall_canonical (by decide +kernel)
  intro c hc
  by_cases hmark : c = '#'
  · subst hmark
    decide
  · have hcanonical := h.template.normal.chars c (Text.mem_fill_of_mem hc hmark)
    exact hplain c hcanonical

theorem Proper.plain (proper : Proper c) : ∀ f ∈ c.families, ∀ d ∈ f.toList, Json.IsPlain d :=
  fun f hf => isPlain_family (proper.families f hf).2

/-! ### The two readers -/

/-- The texts of a file that holds a saved catalog: its families, or the lines of the list. -/
def savedTexts (p : Path) (c : Catalog) : List String :=
  if p.lowerSuffix = ".json" then c.families
  else (Text.lines c.saved.toList).map fun l => String.ofList (Text.strip l)

theorem textsOfContent_saved (proper : Proper c) (group : Value) (p : Path) :
    textsOfContent group p c.saved = .ok (savedTexts p c) := by
  have hlist : textsOfPayload group (.list (c.families.map .text)) = .ok c.families := by
    unfold textsOfPayload
    dsimp only
    rw [List.filterMap_map]
    exact congrArg Except.ok List.filterMap_some
  unfold textsOfContent savedTexts saved
  split
  · rw [Json.read_writtenLines proper.plain]
    dsimp only
    rw [hlist]
    rfl
  · rfl

theorem familiesOf_self (h : ∀ f ∈ fs, f.isEmpty = false ∧ IsFamily f.toList) :
    familiesOf fs = fs := by
  have hsame : fs.map family = fs :=
    (List.map_congr_left fun f hf => family_self (h f hf).2).trans (List.map_id fs)
  rw [familiesOf, hsame]
  exact List.filter_eq_self.mpr fun f hf => by rw [(h f hf).1]; rfl

theorem strip_item {tail : List Char} (htail : tail = ['"'] ∨ tail = ['"', ',']) :
    Text.strip (' ' :: ' ' :: '"' :: (f.toList ++ tail)) = ['"'] ++ f.toList ++ tail := by
  have hbefore : ∀ c ∈ [' ', ' '], Text.isSpace c = true := Text.forall_of_all (by decide)
  have hlast : ∀ c, (['"'] ++ f.toList ++ tail).getLast? = some c → Text.isSpace c = false := by
    intro c hc
    rw [List.getLast?_append] at hc
    rcases htail with rfl | rfl
    · cases hc
      decide
    · cases hc
      decide
  have hfirst : ∀ c, (['"'] ++ f.toList ++ tail).head? = some c → Text.isSpace c = false := by
    rintro c ⟨⟩
    decide
  have hafter : ∀ c ∈ ([] : List Char), Text.isSpace c = true := nofun
  have hstrip := Text.strip_between hbefore hafter hfirst hlast
  rwa [List.append_nil] at hstrip

theorem familiesOf_cons (t : String) (texts : List String) :
    familiesOf (t :: texts) = if (family t).isEmpty then familiesOf texts
      else family t :: familiesOf texts := by
  unfold familiesOf
  rw [List.map_cons, List.filter_cons]
  cases (family t).isEmpty <;> rfl

theorem family_item (h : IsFamily f.toList) {tail : List Char}
    (htail : tail = ['"'] ∨ tail = ['"', ',']) :
    family (String.ofList (Text.strip (' ' :: ' ' :: '"' :: (f.toList ++ tail)))) = f := by
  have hbefore : IsQuoting ['"'] := by
    intro c hc
    exact .inl (List.mem_singleton.mp hc)
  have hafter : IsQuoting tail := by
    intro c hc
    rcases htail with rfl | rfl
    · exact .inl (List.mem_singleton.mp hc)
    · simpa using hc
  rw [strip_item htail]
  exact family_quoted h hbefore hafter

/-- The lines of the items have their families: the bracket at the end has none. -/
theorem familiesOf_itemLines (h : ∀ f ∈ fs, f.isEmpty = false ∧ IsFamily f.toList) :
    familiesOf ((Json.itemLines fs).map fun l => String.ofList (Text.strip l)) = fs := by
  have hitem : ∀ {f : String} {tail : List Char} (texts : List String),
      f.isEmpty = false ∧ IsFamily f.toList → tail = ['"'] ∨ tail = ['"', ','] →
      familiesOf (String.ofList (Text.strip (' ' :: ' ' :: '"' :: (f.toList ++ tail))) :: texts) =
        f :: familiesOf texts := by
    rintro f tail texts ⟨hsome, hfamily⟩ htail
    rw [familiesOf_cons, family_item hfamily htail, hsome, if_neg Bool.false_ne_true]
  have hbracket : familiesOf [String.ofList (Text.strip [']'])] = [] := by
    decide +kernel
  induction fs with
  | nil => rfl
  | cons f fs ih =>
    obtain ⟨hf, hrest⟩ := List.forall_mem_cons.mp h
    cases fs with
    | nil =>
      rw [Json.itemLines, List.map_cons, List.map_singleton, hitem _ hf (.inl rfl), hbracket]
    | cons g fs =>
      rw [Json.itemLines, List.map_cons, hitem _ hf (.inr rfl), ih hrest]
      nofun

theorem familiesOf_savedTexts (proper : Proper c) (p : Path) :
    familiesOf (savedTexts p c) = c.families := by
  have hbracket : family (String.ofList (Text.strip ['['])) = "" := by
    decide +kernel
  have hnone : familiesOf ((Text.lines (saved ⟨[]⟩).toList).map
      fun l => String.ofList (Text.strip l)) = [] := by
    decide +kernel
  unfold savedTexts
  split
  · exact familiesOf_self proper.families
  · cases c with
    | mk families =>
      cases families with
      | nil => exact hnone
      | cons f fs =>
        have hplain := proper.plain
        rw [saved, Json.lines_writtenLines hplain, List.map_cons, familiesOf_cons, hbracket]
        exact familiesOf_itemLines proper.families

/-! ### Files that hold a catalog -/

theorem fromUTF8?_toUTF8 (s : String) : String.fromUTF8? s.toUTF8 = some s := by
  unfold String.fromUTF8?
  rw [String.toUTF8_eq_toByteArray, dif_pos s.isValidUTF8]
  rfl

theorem Proper.textOf?_saved (proper : Proper c) : Files.textOf? c.saved.toUTF8 = some c.saved := by
  rw [Files.textOf?, fromUTF8?_toUTF8, Option.map_some, saved,
    Json.unifyNewlines_writtenLines proper.plain, String.ofList_toList]

/-- The file is there and is read as the catalog. -/
def Holds (files : Files) (group : Value) (p : Path) (c : Catalog) : Prop :=
  files.isPresent p = .ok true ∧ ofFile group files p = .ok c

variable {files files' : Files} {p : Path} {s : Settings} {replies : Nat → Http.Reply} {made : Nat}

theorem Proper.holds_save (proper : Proper c) (home : files.hasHome = true) (group : Value)
    (h : c.save files p = .ok files') : Holds files' group p c := by
  unfold save at h
  cases hmade : files.makeDirectories p.parent with
  | error e =>
    rw [hmade] at h
    cases h
  | ok files =>
    rw [hmade] at h
    obtain ⟨-, hpresent, hread⟩ := Files.write_read (Files.makeDirectories_home home hmade) h
    refine ⟨hpresent, ?_⟩
    unfold ofFile
    rw [hpresent]
    dsimp only
    rw [hread]
    dsimp only
    rw [proper.textOf?_saved]
    dsimp only
    rw [textsOfContent_saved proper]
    exact congrArg Except.ok (ofTexts_eq proper (familiesOf_savedTexts proper p))

theorem load_of_holds (hcache : s.catalogCache.pathText? = .ok (some t))
    (holds : Holds files s.catalogGroup (.ofText t) c) :
    load s replies made files = ⟨.ok c, files, [], []⟩ := by
  unfold load
  rw [hcache]
  dsimp only
  rw [holds.1]
  dsimp only
  rw [holds.2]

/-- A catalog with families that was downloaded is in the cache file. -/
theorem Proper.holds_refresh (proper : Proper c) (home : files.hasHome = true)
    (families : c.families ≠ []) {log : List LogRecord}
    (h : (refresh s replies made files (some p) log).catalog = .ok c) :
    Holds (refresh s replies made files (some p) log).files s.catalogGroup p c := by
  have hsome : ¬c.families.isEmpty = true := fun h => families (List.isEmpty_iff.mp h)
  unfold refresh at h ⊢
  dsimp only at h ⊢
  cases hfetched : (fetch replies made s.catalogUrl s.catalogGroup).catalog with
  | error e =>
    rw [hfetched] at h
    cases h
  | ok d =>
    rw [hfetched] at h
    dsimp only at h ⊢
    split at h
    · next hempty =>
      cases h
      exact absurd hempty hsome
    · cases hsave : d.save files p with
      | error e =>
        rw [hsave] at h
        cases h
      | ok files' =>
        rw [hsave] at h
        cases h
        rw [if_neg hsome]
        exact proper.holds_save home s.catalogGroup hsave

/-- Whether it was read or downloaded, a catalog with families is in the cache file after it was
loaded. -/
theorem Proper.holds_load (proper : Proper c) (home : files.hasHome = true)
    (families : c.families ≠ []) (hcache : s.catalogCache.pathText? = .ok (some t))
    (h : (load s replies made files).catalog = .ok c) :
    Holds (load s replies made files).files s.catalogGroup (.ofText t) c := by
  have hrefreshed : ∀ log,
      load s replies made files = refresh s replies made files (some (.ofText t)) log →
      Holds (load s replies made files).files s.catalogGroup (.ofText t) c := by
    intro log heq
    rw [heq] at h ⊢
    exact proper.holds_refresh home families h
  cases hpresent : files.isPresent (.ofText t) with
  | error e =>
    simp only [load, hcache, hpresent] at h
    cases h
  | ok present =>
    cases present with
    | false =>
      refine hrefreshed [] ?_
      simp only [load, hcache, hpresent]
    | true =>
      cases hfile : ofFile s.catalogGroup files (.ofText t) with
      | ok d =>
        have hloaded : load s replies made files = ⟨.ok d, files, [], []⟩ :=
          load_of_holds hcache ⟨hpresent, hfile⟩
        rw [hloaded] at h ⊢
        cases h
        exact ⟨hpresent, hfile⟩
      | error e =>
        cases hexpected : e.isExpected with
        | true =>
          refine hrefreshed [⟨.warning, "ignoring known-mod cache: " ++ e.message⟩] ?_
          simp only [load, hcache, hpresent, hfile, hexpected, if_true]
        | false =>
          simp only [load, hcache, hpresent, hfile, hexpected] at h
          cases h

/-- A catalog of texts without the reserved word is read again from every file it is saved to: from
the list when the name of the file ends in ".json", else from its lines. Once it was loaded with a
cache file it is loaded again without a request, unless it has no families. -/
theorem saved_again (texts : List String) (files : Files) (tame : Tame texts)
    (home : files.hasHome = true) :
    (∀ (p : Path) (group : Value) (files' : Files), (ofTexts texts).save files p = .ok files' →
      textsOfContent group p (ofTexts texts).saved = .ok (savedTexts p (ofTexts texts)) ∧
        Holds files' group p (ofTexts texts)) ∧
      ∀ (s : Settings) (t : String) (replies replies' : Nat → Http.Reply) (made made' : Nat),
        s.catalogCache.pathText? = .ok (some t) →
        (load s replies made files).catalog = .ok (ofTexts texts) → (ofTexts texts).families ≠ [] →
        load s replies' made' (load s replies made files).files =
          ⟨.ok (ofTexts texts), (load s replies made files).files, [], []⟩ := by
  have proper := proper_ofTexts tame
  refine ⟨fun p group files' h => ?_, fun s t replies replies' made made' hcache h families => ?_⟩
  · exact ⟨textsOfContent_saved proper group p, proper.holds_save home group h⟩
  · exact load_of_holds hcache (proper.holds_load home families hcache h)

/-- The texts of two modifiers, one of them with its numbers. -/
def spellTexts : List String := ["+# to Level of all Spell Skills", "Adds 4 to 9.5 Fire Damage"]

/-- A dump with these modifiers. -/
def spellDump : ByteArray :=
  ("\x7b\"result\": [\x7b\"id\": \"explicit\", \"entries\": [" ++
    "\x7b\"text\": \"+# to Level of all Spell Skills\"\x7d, " ++
    "\x7b\"text\": \"Adds 4 to 9.5 Fire Damage\"\x7d]\x7d]\x7d").toUTF8

/-- Settings with a cache file. -/
def cacheSettings : Settings := { catalogCache := .text "mods.json" }

/-- What is loaded with them from the dump. -/
def spellLoaded : Loaded := load cacheSettings (fun _ => .response 200 [] spellDump) 0 {}

theorem spellLoaded_catalog :
    spellLoaded.requests.length = 1 ∧ spellLoaded.catalog = .ok (ofTexts spellTexts) := by
  have hfamilies : spellLoaded.requests.length = 1 ∧
      spellLoaded.catalog.toOption.map families = some (ofTexts spellTexts).families := by
    decide +kernel
  refine hfamilies.imp_right fun hfamilies => ?_
  cases hcatalog : spellLoaded.catalog with
  | error e =>
    rw [hcatalog] at hfamilies
    cases hfamilies
  | ok c =>
    rw [hcatalog] at hfamilies
    cases c
    exact congrArg (fun fs => Except.ok (Catalog.mk fs)) (Option.some.inj hfamilies)

/-- The catalog of two modifiers is read from a file of lines, and from the cache file where the
first loading downloaded it. -/
theorem saved_again_spell :
    (∃ files', (ofTexts spellTexts).save {} (.ofText "saved/mods.txt") = .ok files' ∧
      Holds files' (.text "explicit") (.ofText "saved/mods.txt") (ofTexts spellTexts)) ∧
      spellLoaded.requests.length = 1 ∧
      load cacheSettings (fun _ => .failure "offline") 1 spellLoaded.files =
        ⟨.ok (ofTexts spellTexts), spellLoaded.files, [], []⟩ := by
  have tame : Tame spellTexts := by
    unfold Tame
    decide +kernel
  have hsave : ((ofTexts spellTexts).save {} (.ofText "saved/mods.txt")).isOk = true := by
    decide +kernel
  have hagain := saved_again spellTexts {} tame (by decide)
  obtain ⟨hrequests, hcatalog⟩ := spellLoaded_catalog
  refine ⟨?_, hrequests, ?_⟩
  · cases hfiles : (ofTexts spellTexts).save {} (.ofText "saved/mods.txt") with
    | error e =>
      rw [hfiles] at hsave
      cases hsave
    | ok files' => exact ⟨files', rfl, (hagain.1 _ (.text "explicit") files' hfiles).2⟩
  · exact hagain.2 cacheSettings "mods.json" _ _ 0 1 rfl hcatalog (by decide +kernel)

end Reroll.Catalog
