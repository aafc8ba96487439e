import Mathlib.Data.List.Basic
import Reroll.Files.Tree

/-!
# What a change of the files leaves as it was

A path is followed to a place and to what is there (`spot_found`). A file that is written or removed
changes what is at its own place and nothing elsewhere (`write_outline`, `remove_outline`): a
directory counts as the same as long as it is one, whatever lies in it.
-/

namespace Reroll

namespace Entry

/-- An entry without what lies in it: the bytes and the time of a file, nothing for a directory. -/
def outline : Entry → Option (ByteArray × Int)
  | .file bytes changed => some (bytes, changed)
  | .directory _ => none

theorem isDirectory_iff {e : Entry} : e.isDirectory = true ↔ e.outline = none := by
  cases e <;> simp [isDirectory, outline]

theorem isDirectory_of_child? {name : String} {e c : Entry} (h : e.child? name = some c) :
    e.isDirectory = true := by
  cases e with
  | directory entries => rfl
  | file bytes changed => cases h

theorem outline_setChild (name : String) (new : Option Entry) (e : Entry) :
    (e.setChild name new).outline = e.outline := by
  cases e with
  | file bytes changed => rfl
  | directory entries => rfl

theorem child?_setChild_self {name : String} {new : Option Entry} {e : Entry}
    (h : e.isDirectory = true) : (e.setChild name new).child? name = new := by
  cases e with
  | file bytes changed => cases h
  | directory entries =>
    have hnone : (entries.filter fun e => e.1 != name).find? (fun e => e.1 == name) = none := by
      rw [List.find?_eq_none]
      intro x hx
      simpa using (List.mem_filter.mp hx).2
    cases new <;> simp [setChild, child?, List.find?_append, hnone]

theorem child?_setChild_other {name other : String} {new : Option Entry} {e : Entry}
    (h : other ≠ name) : (e.setChild name new).child? other = e.child? other := by
  cases e with
  | file bytes changed => rfl
  | directory entries =>
    have hkept : (entries.filter fun e => e.1 != name).find? (fun e => e.1 == other) =
        entries.find? fun e => e.1 == other := by
      rw [List.find?_filter]
      congr 1
      funext x
      by_cases hx : x.1 = other
      · simp [hx, h]
      · simp [hx]
    have hadded : (new.toList.map fun e => (name, e)).find? (fun e => e.1 == other) = none := by
      rw [List.find?_eq_none]
      intro x hx
      obtain ⟨c, -, rfl⟩ := List.mem_map.mp hx
      simpa using h.symm
    simp only [setChild, child?, List.find?_append, hkept, hadded, Option.or_none]

theorem at?_append (p q : List String) (e : Entry) :
    e.at? (p ++ q) = (e.at? p).bind (at? q) := by
  induction p generalizing e with
  | nil => rfl
  | cons name rest ih =>
    rw [List.cons_append, at?, at?, Option.bind_assoc]
    exact congrArg _ (funext ih)

/-- Nothing or a file. -/
def Leaf (o : Option Entry) : Prop := ∀ e, o = some e → e.isDirectory = false

/-- Nothing lies below. -/
def Childless (o : Option Entry) : Prop := ∀ name rest, o.bind (at? (name :: rest)) = none

theorem Leaf.childless {o : Option Entry} (h : Leaf o) : Childless o := by
  intro name rest
  cases o with
  | none => rfl
  | some e =>
    cases e with
    | file bytes changed => rfl
    | directory entries => cases h _ rfl

theorem outline_put {new : Option Entry} {parent : List String} {name : String} {e d : Entry}
    (hparent : e.at? parent = some d) (hd : d.isDirectory = true)
    (hold : Leaf (e.at? (parent ++ [name]))) (hnew : Childless new) (q : List String) :
    ((e.put new (parent ++ [name])).at? q).map outline =
      if q = parent ++ [name] then new.map outline else (e.at? q).map outline := by
  -- down the directories on the way: each one stays what it is, and below it the entry differs
  -- from before at most in the direction of the place
  induction parent generalizing e q with
  | nil =>
    have he : e = d := Option.some.inj hparent
    subst he
    change ((e.setChild name new).at? q).map outline = _
    cases q with
    | nil => rw [if_neg nofun, at?, at?, Option.map_some, Option.map_some, outline_setChild]
    | cons x rest =>
      rw [at?]
      by_cases hx : x = name
      · subst hx
        rw [child?_setChild_self hd]
        cases rest with
        | nil => cases new <;> simp [at?]
        | cons y rest =>
          have hbelow : (e.child? x).bind (at? (y :: rest)) = none := by
            refine Leaf.childless (fun c hc => hold c ?_) y rest
            rw [List.nil_append, at?, hc]
            rfl
          rw [hnew, if_neg (by simp), at?, hbelow]
      · rw [child?_setChild_other hx, if_neg (by simp [hx]), at?]
  | cons first parent ih =>
    -- the directory on the way is there already, so nothing has to be made
    obtain ⟨c, hc, hat⟩ : ∃ c, e.child? first = some c ∧ c.at? parent = some d :=
      Option.bind_eq_some_iff.mp hparent
    have hput : e.put new (first :: parent ++ [name]) =
        e.setChild first (some (c.put new (parent ++ [name]))) := by
      have hlong : ∃ x rest, parent ++ [name] = x :: rest := by
        cases parent <;> simp
      obtain ⟨x, rest, hrest⟩ := hlong
      rw [List.cons_append, hrest, put, hc, Option.getD_some]
      nofun
    have hbelow : e.at? (first :: parent ++ [name]) = c.at? (parent ++ [name]) := by
      rw [List.cons_append, at?, hc]
      rfl
    rw [hbelow] at hold
    rw [hput]
    cases q with
    | nil => rw [if_neg nofun, at?, at?, Option.map_some, Option.map_some, outline_setChild]
    | cons x rest =>
      rw [at?]
      by_cases hx : x = first
      · subst hx
        rw [child?_setChild_self (isDirectory_of_child? hc), Option.bind_some, ih hat hold, at?, hc,
          Option.bind_some]
        simp
      · rw [child?_setChild_other hx, if_neg (by simp [hx]), at?]

end Entry

namespace Files

/-! ### Following a path -/

/-- Entries of which each one lies in the next, and the last one in the root. -/
def Linked (root : Entry) : List (String × Entry) → Prop
  | [] => True
  | (name, e) :: above =>
    ((above.map Prod.snd).headD root).child? name = some e ∧ Linked root above

theorem Linked.drop {root : Entry} {above : List (String × Entry)} (h : Linked root above) :
    Linked root (above.drop 1) := by
  cases above with
  | nil => trivial
  | cons head above => exact h.2

theorem Linked.at?_eq {root : Entry} {above : List (String × Entry)} (h : Linked root above) :
    root.at? (above.map Prod.fst).reverse = some ((above.map Prod.snd).headD root) := by
  induction above with
  | nil => rfl
  | cons head above ih =>
    obtain ⟨hchild, habove⟩ := h
    rw [List.map_cons, List.reverse_cons, Entry.at?_append, ih habove, Option.bind_some, Entry.at?,
      hchild]
    rfl

/-- The place above another one holds a directory. -/
def Housed (root : Entry) (place : List String) : Prop :=
  ∃ parent name d, place = parent ++ [name] ∧ root.at? parent = some d ∧ d.isDirectory = true

theorem follow_found {p : Path} {root : Entry} {above : List (String × Entry)}
    {names place : List String} {o : Option Entry} (hlinked : Linked root above)
    (h : follow p root above names = .ok ⟨place, o⟩) :
    root.at? place = o ∧ (o = none → Housed root place) := by
  induction names generalizing above with
  | nil =>
    cases h
    exact ⟨hlinked.at?_eq, nofun⟩
  | cons name rest ih =>
    rw [follow] at h
    split at h
    · cases h
    · next hdir =>
      have hdirectory : ((above.map Prod.snd).headD root).isDirectory = true := by simpa using hdir
      split at h
      · exact ih hlinked.drop h
      · split at h
        · cases h
        · split at h
          · next e he =>
            have hnext : Linked root ((name, e) :: above) := ⟨he, hlinked⟩
            exact ih hnext h
          · next hnone =>
            split at h
            · cases h
              have hat : root.at? (name :: above.map Prod.fst).reverse = none := by
                rw [List.reverse_cons, Entry.at?_append, hlinked.at?_eq, Option.bind_some,
                  Entry.at?, hnone]
                rfl
              refine ⟨hat, fun _ => ⟨(above.map Prod.fst).reverse, name, _, ?_, hlinked.at?_eq, ?_⟩⟩
              · rw [List.reverse_cons]
              · exact hdirectory
            · cases h

theorem housed_of_file {root e : Entry} {place : List String} (hroot : root.isDirectory = true)
    (hat : root.at? place = some e) (hfile : e.isDirectory = false) : Housed root place := by
  rcases List.eq_nil_or_concat place with rfl | ⟨parent, name, rfl⟩
  · cases hat
    rw [hroot] at hfile
    cases hfile
  · rw [List.concat_eq_append, Entry.at?_append] at hat
    obtain ⟨d, hd, hchild⟩ := Option.bind_eq_some_iff.mp hat
    obtain ⟨c, hc, -⟩ := Option.bind_eq_some_iff.mp hchild
    exact ⟨parent, name, d, List.concat_eq_append .., hd, Entry.isDirectory_of_child? hc⟩

variable {f g : Files} {p : Path} {place : List String} {o : Option Entry}

/-- The working directory is there. -/
def hasHome (f : Files) : Bool := (f.root.at? workingPlace).any Entry.isDirectory

/-- What is at a place, apart from what lies in a directory there. -/
def outline (f : Files) (place : List String) : Option (Option (ByteArray × Int)) :=
  (f.root.at? place).map Entry.outline

theorem hasHome_iff : f.hasHome = true ↔ f.outline workingPlace = some none := by
  unfold hasHome outline
  cases f.root.at? workingPlace with
  | none => simp
  | some e => simp [Entry.isDirectory_iff]

theorem linked_chain {root e : Entry} {above : List (String × Entry)} {names : List String}
    (hlinked : Linked root above) (he : (above.map Prod.snd).headD root = e)
    (hat : (e.at? names).isSome = true) : Linked root (chain above e names) := by
  induction names generalizing above e with
  | nil => exact hlinked
  | cons name rest ih =>
    obtain ⟨d, hd⟩ := Option.isSome_iff_exists.mp hat
    obtain ⟨c, hc, hrest⟩ := Option.bind_eq_some_iff.mp hd
    rw [chain, hc, Option.getD_some]
    exact ih ⟨by rw [he]; exact hc, hlinked⟩ rfl (by rw [hrest]; rfl)

theorem root_isDirectory (hhome : f.hasHome = true) : f.root.isDirectory = true := by
  rw [hasHome_iff, outline, Option.map_eq_some_iff] at hhome
  obtain ⟨e, he, -⟩ := hhome
  obtain ⟨c, hc, -⟩ := Option.bind_eq_some_iff.mp he
  exact Entry.isDirectory_of_child? hc

theorem linked_start (hhome : f.hasHome = true) (p : Path) :
    Linked f.root (if p.isAbsolute then [] else chain [] f.root workingPlace) := by
  split
  · trivial
  · have hat : (f.root.at? workingPlace).isSome = true := by
      rw [hasHome_iff, outline, Option.map_eq_some_iff] at hhome
      obtain ⟨e, he, -⟩ := hhome
      rw [he]
      rfl
    exact linked_chain trivial rfl hat

theorem spot_found (hhome : f.hasHome = true) (h : f.spot p = .ok ⟨place, o⟩) :
    f.root.at? place = o ∧ (Entry.Leaf o → Housed f.root place) := by
  unfold spot at h
  split at h
  · cases h
  · split at h
    · cases h
    · obtain ⟨hat, hnone⟩ := follow_found (linked_start hhome p) h
      refine ⟨hat, fun hleaf => ?_⟩
      cases o with
      | none => exact hnone rfl
      | some e => exact housed_of_file (root_isDirectory hhome) hat (hleaf e rfl)

/-! ### Writing and removing -/

theorem outline_put {new : Option Entry} (hhome : f.hasHome = true)
    (h : f.spot p = .ok ⟨place, o⟩) (hold : Entry.Leaf o) (hnew : Entry.Childless new)
    (q : List String) :
    (f.put place new).outline q = if q = place then new.map Entry.outline else f.outline q := by
  obtain ⟨hat, hhoused⟩ := spot_found hhome h
  obtain ⟨parent, name, d, rfl, hparent, hd⟩ := hhoused hold
  exact Entry.outline_put hparent hd (by rw [hat]; exact hold) hnew q

theorem write_outline {bytes : ByteArray} {time : Int} (hhome : f.hasHome = true)
    (h : f.write p bytes time = .ok g) :
    ∃ place, f.place p = .ok place ∧ f.outline place ≠ some none ∧
      ∀ q, g.outline q = if q = place then some (some (bytes, time)) else f.outline q := by
  unfold write at h
  split at h
  · cases h
  · cases h
  · next place o hnodir hspot =>
    cases h
    have hleaf : Entry.Leaf o := by
      intro e he
      subst he
      cases e with
      | file bytes changed => rfl
      | directory entries => exact absurd rfl (hnodir entries)
    have hat := (spot_found hhome hspot).1
    refine ⟨place, by rw [Files.place, hspot]; rfl, ?_, outline_put hhome hspot hleaf ?_⟩
    · rw [outline, hat]
      cases o with
      | none => nofun
      | some e =>
        rw [Option.map_some, Ne, Option.some.injEq, ← Entry.isDirectory_iff, hleaf e rfl]
        nofun
    · exact fun _ _ => rfl

theorem remove_outline (hhome : f.hasHome = true) (h : f.remove p = .ok g) :
    g = f ∨ ∃ place, f.place p = .ok place ∧ f.outline place ≠ some none ∧
      ∀ q, g.outline q = if q = place then none else f.outline q := by
  unfold remove at h
  split at h
  · exact .inl (Except.ok.inj h).symm
  · cases h
  · exact .inl (Except.ok.inj h).symm
  · cases h
  · next place bytes changed hspot =>
    cases h
    have hleaf : Entry.Leaf (some (.file bytes changed)) := by
      rintro _ ⟨⟩
      rfl
    have hat := (spot_found hhome hspot).1
    refine .inr ⟨place, by rw [Files.place, hspot]; rfl, ?_, outline_put hhome hspot hleaf fun _ _ => rfl⟩
    rw [outline, hat]
    nofun

/-! ### Reading -/

theorem read_iff {bytes : ByteArray} {time : Int} (hhome : f.hasHome = true) :
    f.read p = .ok bytes ∧ f.changed p = .ok time ↔
      ∃ place, f.place p = .ok place ∧ f.outline place = some (some (bytes, time)) := by
  unfold read changed find Files.place
  cases hspot : f.spot p with
  | error e => exact iff_of_false nofun nofun
  | ok spot =>
    obtain ⟨place, o⟩ := spot
    have hat := (spot_found hhome hspot).1
    simp only [Except.map, Except.ok.injEq, exists_eq_left', outline, hat]
    rcases o with _ | ⟨bytes', time'⟩ | entries
    · simp
    · simp [Entry.outline]
    · simp [Entry.outline]

theorem changed_outline {time : Int} (hhome : f.hasHome = true) (hplace : f.place p = .ok place)
    (htime : f.changed p = .ok time) :
    f.outline place = some none ∨ ∃ bytes, f.outline place = some (some (bytes, time)) := by
  unfold changed find at htime
  unfold Files.place at hplace
  cases hspot : f.spot p with
  | error e =>
    rw [hspot] at hplace
    cases hplace
  | ok spot =>
    obtain ⟨place, o⟩ := spot
    rw [hspot] at hplace htime
    cases hplace
    have hat := (spot_found hhome hspot).1
    rw [outline, hat]
    rcases o with _ | ⟨bytes, time'⟩ | entries
    · cases htime
    · cases htime
      exact .inr ⟨bytes, rfl⟩
    · exact .inl rfl

end Files

end Reroll
