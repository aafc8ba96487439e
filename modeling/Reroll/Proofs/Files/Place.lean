import Reroll.Proofs.Files.Tree

/-!
# Places that last

A file that is written or removed leaves every path leading where it led, the one that was used
included (`place_again`). So a file that was written is there to be read (`write_read`), and one that
was removed is gone (`remove_absent`).
-/

namespace Reroll

namespace Files

/-- Two roots that hold the same apart from one place. -/
def SameBut (place : List String) (root root' : Entry) : Prop :=
  ∀ q, q ≠ place → (root'.at? q).map Entry.outline = (root.at? q).map Entry.outline

section Follow

variable {p : Path} {root root' : Entry} {place : List String}
variable (same : SameBut place root root') (leaf : (root.at? place).map Entry.outline ≠ some none)

include same leaf

theorem directory_again {q : List String} {d d' : Entry} (hd : root.at? q = some d)
    (hd' : root'.at? q = some d') (hdir : d.isDirectory = true) : d'.isDirectory = true := by
  have hq : q ≠ place := by
    rintro rfl
    rw [hd, Option.map_some, Entry.isDirectory_iff.mp hdir] at leaf
    exact leaf rfl
  have h := same q hq
  rw [hd, hd', Option.map_some, Option.map_some, Option.some.injEq] at h
  rw [Entry.isDirectory_iff, h, ← Entry.isDirectory_iff]
  exact hdir

omit same in
/-- What is followed over a file or over nothing ends there. -/
theorem follow_at_place {name : String} {e : Entry} {above : List (String × Entry)}
    {rest : List String} {o : Option Entry} (hlinked : Linked root ((name, e) :: above))
    (hplace : (name :: above.map Prod.fst).reverse = place)
    (h : follow p root ((name, e) :: above) rest = .ok ⟨place, o⟩) : rest = [] := by
  cases rest with
  | nil => rfl
  | cons next rest =>
    have hat := hlinked.at?_eq
    rw [List.map_cons, hplace] at hat
    have hdir : e.isDirectory = false := by
      by_contra hdir
      have hdir : e.isDirectory = true := by simpa using hdir
      rw [hat] at leaf
      exact leaf (congrArg some (Entry.isDirectory_iff.mp hdir))
    rw [follow] at h
    simp only [List.map_cons, List.headD_cons, hdir] at h
    cases h

theorem follow_again {names : List String} {o : Option Entry} {above above' : List (String × Entry)}
    (hlinked : Linked root above) (hlinked' : Linked root' above')
    (hnames : above'.map Prod.fst = above.map Prod.fst)
    (h : follow p root above names = .ok ⟨place, o⟩) :
    ∃ o', follow p root' above' names = .ok ⟨place, o'⟩ := by
  induction names generalizing above above' with
  | nil =>
    cases h
    rw [follow, hnames]
    exact ⟨_, rfl⟩
  | cons name rest ih =>
    have hhere := hlinked.at?_eq
    have hhere' := hlinked'.at?_eq
    rw [hnames] at hhere'
    rw [follow] at h ⊢
    split at h
    · cases h
    · next hdir =>
      have hdir : ((above.map Prod.snd).headD root).isDirectory = true := by simpa using hdir
      have hdir' := directory_again same leaf hhere hhere' hdir
      rw [hdir']
      simp only [Bool.not_true, Bool.false_eq_true, ite_false]
      split at h
      · next hup =>
        rw [if_pos hup]
        have hdrop : (above'.drop 1).map Prod.fst = (above.drop 1).map Prod.fst := by
          rw [List.map_drop, List.map_drop, hnames]
        exact ih hlinked.drop hlinked'.drop hdrop h
      · next hdown =>
        rw [if_neg hdown]
        split at h
        · cases h
        · next hshort =>
          rw [if_neg hshort]
          have hchild : root.at? (name :: above.map Prod.fst).reverse =
              ((above.map Prod.snd).headD root).child? name := by
            rw [List.reverse_cons, Entry.at?_append, hhere, Option.bind_some, Entry.at?]
            cases ((above.map Prod.snd).headD root).child? name <;> rfl
          have hchild' : root'.at? (name :: above.map Prod.fst).reverse =
              ((above'.map Prod.snd).headD root').child? name := by
            rw [List.reverse_cons, Entry.at?_append, hhere', Option.bind_some, Entry.at?]
            cases ((above'.map Prod.snd).headD root').child? name <;> rfl
          have hkept := same (name :: above.map Prod.fst).reverse
          rw [hchild, hchild'] at hkept
          cases he : ((above.map Prod.snd).headD root).child? name with
          | some e =>
            rw [he] at h hkept
            dsimp only at h
            have hnext : Linked root ((name, e) :: above) := ⟨he, hlinked⟩
            cases he' : ((above'.map Prod.snd).headD root').child? name with
            | some e' =>
              have hnext' : Linked root' ((name, e') :: above') := ⟨he', hlinked'⟩
              exact ih hnext hnext' (congrArg (List.cons name) hnames) h
            | none =>
              -- what is gone was at the place itself, and there the path ends
              have hplace : (name :: above.map Prod.fst).reverse = place := by
                by_contra hplace
                rw [he'] at hkept
                cases hkept hplace
              obtain rfl := follow_at_place leaf hnext hplace h
              dsimp only
              rw [hnames, hplace]
              exact ⟨none, rfl⟩
          | none =>
            rw [he] at h hkept
            dsimp only at h
            split at h
            · next hlast =>
              obtain rfl : rest = [] := List.isEmpty_iff.mp hlast
              cases h
              cases he' : ((above'.map Prod.snd).headD root').child? name with
              | some e' =>
                dsimp only
                rw [follow, List.map_cons, hnames]
                exact ⟨_, rfl⟩
              | none =>
                dsimp only
                rw [hnames]
                exact ⟨none, rfl⟩
            · cases h

end Follow

theorem chain_names (above : List (String × Entry)) (e : Entry) (names : List String) :
    (chain above e names).map Prod.fst = names.reverse ++ above.map Prod.fst := by
  induction names generalizing above e with
  | nil => rfl
  | cons name rest ih =>
    rw [chain, ih, List.map_cons, List.reverse_cons, List.append_assoc]
    rfl

section Again

variable {f g : Files} {p : Path} {place : List String} (hhome : f.hasHome = true)
variable (same : ∀ q, q ≠ place → g.outline q = f.outline q) (leaf : f.outline place ≠ some none)

include hhome same leaf

theorem home_again : g.hasHome = true := by
  rw [hasHome_iff] at hhome ⊢
  have hplace : workingPlace ≠ place := by
    rintro rfl
    exact leaf hhome
  rw [same _ hplace, hhome]

/-- A path leads where it led. -/
theorem place_again (h : f.place p = .ok place) : g.place p = .ok place := by
  have hhome' := home_again hhome same leaf
  have hstart : (if p.isAbsolute then [] else chain [] g.root workingPlace).map Prod.fst =
      (if p.isAbsolute then [] else chain [] f.root workingPlace).map Prod.fst := by
    split
    · rfl
    · rw [chain_names, chain_names]
  unfold Files.place spot at h ⊢
  split at h
  · cases h
  · next hnul =>
    rw [if_neg hnul]
    split at h
    · cases h
    · next hshort =>
      rw [if_neg hshort]
      cases hspot : follow p f.root (if p.isAbsolute then [] else chain [] f.root workingPlace)
          p.names with
      | error e =>
        rw [hspot] at h
        cases h
      | ok spot =>
        obtain ⟨q, o⟩ := spot
        rw [hspot] at h
        cases h
        obtain ⟨o', ho'⟩ := follow_again same leaf (linked_start hhome p) (linked_start hhome' p)
          hstart hspot
        rw [ho']
        rfl

end Again

variable {f g : Files} {p : Path}

theorem isPresent_place {place : List String} (hhome : f.hasHome = true)
    (hplace : f.place p = .ok place) : f.isPresent p = .ok (f.outline place).isSome := by
  unfold Files.place at hplace
  unfold isPresent find
  cases hspot : f.spot p with
  | error e =>
    rw [hspot] at hplace
    cases hplace
  | ok spot =>
    obtain ⟨q, o⟩ := spot
    rw [hspot] at hplace
    cases hplace
    have hat := (spot_found hhome hspot).1
    rw [outline, hat]
    cases o <;> rfl

/-- A file that was written can be read. -/
theorem write_read {bytes : ByteArray} {time : Int} (hhome : f.hasHome = true)
    (h : f.write p bytes time = .ok g) :
    g.hasHome = true ∧ g.isPresent p = .ok true ∧ g.read p = .ok bytes := by
  obtain ⟨place, hplace, hleaf, houtline⟩ := write_outline hhome h
  have hsame : ∀ q, q ≠ place → g.outline q = f.outline q := fun q hq => by
    rw [houtline, if_neg hq]
  have hhome' := home_again hhome hsame hleaf
  have hplace' := place_again hhome hsame hleaf hplace
  have hwritten : g.outline place = some (some (bytes, time)) := by
    rw [houtline, if_pos rfl]
  refine ⟨hhome', ?_, ((read_iff hhome').mpr ⟨place, hplace', hwritten⟩).1⟩
  rw [isPresent_place hhome' hplace', hwritten]
  rfl

/-- A file that was removed is not there any more. -/
theorem remove_absent (hhome : f.hasHome = true) (h : f.remove p = .ok g) :
    g.isPresent p = .ok false := by
  rcases remove_outline hhome h with rfl | ⟨place, hplace, hleaf, houtline⟩
  · unfold remove at h
    unfold isPresent find
    cases hspot : g.spot p with
    | error e =>
      rw [hspot] at h
      cases e <;> first | rfl | cases h
    | ok spot =>
      obtain ⟨place, o⟩ := spot
      cases o with
      | none => rfl
      | some e =>
        rw [hspot] at h
        cases e with
        | directory entries => cases h
        | file bytes time =>
          -- removing what is there changes the tree
          have hat := (spot_found hhome hspot).1
          have hleaf : Entry.Leaf (some (.file bytes time)) := by
            rintro _ ⟨⟩
            rfl
          have hnone : Entry.Childless none := fun _ _ => rfl
          have hput := outline_put hhome hspot hleaf hnone place
          rw [Except.ok.inj h, if_pos rfl, outline, hat] at hput
          cases hput
  · have hsame : ∀ q, q ≠ place → g.outline q = f.outline q := fun q hq => by
      rw [houtline, if_neg hq]
    have hhome' := home_again hhome hsame hleaf
    rw [isPresent_place hhome' (place_again hhome hsame hleaf hplace), houtline, if_pos rfl]
    rfl

theorem remove_home (hhome : f.hasHome = true) (h : f.remove p = .ok g) : g.hasHome = true := by
  rcases remove_outline hhome h with rfl | ⟨place, -, hleaf, houtline⟩
  · exact hhome
  · exact home_again hhome (fun q hq => by rw [houtline, if_neg hq]) hleaf

/-- What can be removed is no directory. -/
theorem remove_no_directory (h : f.remove p = .ok g) : f.isDirectory p = .ok false := by
  unfold remove at h
  unfold isDirectory find
  split at h
  · next hspot =>
    rw [hspot]
  · cases h
  · next hspot =>
    rw [hspot]
  · cases h
  · next hspot =>
    rw [hspot]
    rfl

/-- What cannot be removed is a directory if it is there. -/
theorem remove_fails {e : FileError} (h : f.remove p = .error e) :
    f.isPresent p = f.isDirectory p := by
  unfold remove at h
  unfold isPresent isDirectory find
  split at h
  · cases h
  · next e' hne hspot =>
    rw [hspot]
    cases e' with
    | notFound q => exact absurd rfl (hne q)
    | nameTooLong | taken | notDirectory | isDirectory | nul | tooDeep => rfl
  · cases h
  · next hspot =>
    rw [hspot]
    rfl
  · cases h

/-! ### Making directories -/

theorem makeDirectory_home (hhome : f.hasHome = true) (h : f.makeDirectory p = .ok g) :
    g.hasHome = true := by
  unfold makeDirectory at h
  split at h
  · cases h
  · cases h
  · next place hspot =>
    cases h
    have hleaf : Entry.Leaf none := by
      rintro _ ⟨⟩
    have hempty : Entry.Childless (some .empty) := fun _ _ => rfl
    have hout : f.outline place ≠ some none := by
      rw [outline, (spot_found hhome hspot).1]
      rintro ⟨⟩
    refine home_again hhome (fun q hq => ?_) hout
    rw [outline_put hhome hspot hleaf hempty, if_neg hq]

theorem contentWith_home {r : Except FileError Files} (hhome : f.hasHome = true)
    (hr : ∀ g, r = .ok g → g.hasHome = true) (h : f.contentWith p r = .ok g) :
    g.hasHome = true := by
  unfold contentWith at h
  split at h
  · next made =>
    cases h
    exact hr g rfl
  · split at h
    · cases h
    · split at h
      · cases h
      · cases h
        exact hhome
      · cases h

theorem makeDirectories_home (hhome : f.hasHome = true) (h : f.makeDirectories p = .ok g) :
    g.hasHome = true := by
  have hcontent : ∀ {f : Files} {p : Path} {g : Files}, f.hasHome = true →
      f.contentWith p (f.makeDirectory p) = .ok g → g.hasHome = true :=
    fun hhome h => contentWith_home hhome (fun _ hmade => makeDirectory_home hhome hmade) h
  unfold makeDirectories at h
  generalize depthLimit = fuel at h
  induction fuel generalizing f p g with
  | zero => cases h
  | succ fuel ih =>
    rw [makeFrom] at h
    split at h
    · split at h
      · cases h
      · split at h
        · cases h
        · next above habove =>
          split at h
          · cases h
          · exact hcontent (ih hhome habove) h
    · exact hcontent hhome h

/-- No part of a path is too long for the system, and there is no NUL in it. -/
structure Taken (p : Path) : Prop where
  plain : p.hasNul = false
  short : p.text.utf8ByteSize ≤ pathLimit
  names : ∀ name ∈ p.names, name.utf8ByteSize ≤ nameLimit

theorem follow_taken {root : Entry} {above : List (String × Entry)} {names : List String}
    {q : Path} (short : ∀ name ∈ names, name.utf8ByteSize ≤ nameLimit) :
    follow p root above names ≠ .error (.nameTooLong q) := by
  intro h
  induction names generalizing above with
  | nil => cases h
  | cons name rest ih =>
    obtain ⟨hname, hrest⟩ := List.forall_mem_cons.mp short
    rw [follow] at h
    split at h
    · cases h
    · split at h
      · exact ih hrest h
      · rw [if_neg (Nat.not_lt.mpr hname)] at h
        split at h
        · exact ih hrest h
        · split at h
          · cases h
          · cases h

/-- Whether something is there can be told of every path that the system takes. -/
theorem isPresent_taken (h : Taken p) (f : Files) : ∃ b, f.isPresent p = .ok b := by
  have hspot : ∀ q, f.spot p ≠ .error (.nameTooLong q) := by
    intro q
    unfold spot
    rw [h.plain, if_neg nofun, if_neg (Nat.not_lt.mpr h.short)]
    exact follow_taken h.names
  unfold isPresent find
  cases hf : f.spot p with
  | ok spot =>
    obtain ⟨place, o⟩ := spot
    cases o <;> exact ⟨_, rfl⟩
  | error e =>
    cases e with
    | nameTooLong q => exact absurd hf (hspot q)
    | notFound | taken | notDirectory | isDirectory | nul | tooDeep => exact ⟨_, rfl⟩

end Files

end Reroll
