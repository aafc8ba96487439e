import Mathlib.Data.List.Nodup
import Reroll.Document.Value

/-!
# Fields under other names

A mapping can be written with other keys. As long as no new key is in use already and nothing is
exchanged for two things, each field is found under its new key with the value it had under the old
one (`get_new`), nothing is left under the old keys (`get_old`) and the rest stays (`get_other`).
-/

namespace Reroll.Value

/-- A key in its new spelling; the names list the old ones with the new ones. -/
def spelt (names : List (String × String)) (key : String) : String := (names.lookup key).getD key

/-- A mapping with its keys spelt anew and its values changed, which may depend on the old keys. -/
def respell (names : List (String × String)) (change : String → Value → Value)
    (fields : List (Value × Value)) : List (Value × Value) :=
  fields.map fun f =>
    match f with
    | (.text key, v) => (.text (spelt names key), change key v)
    | f => f

/-- All old and new names are different. -/
def Proper (names : List (String × String)) : Prop :=
  (names.map Prod.fst ++ names.map Prod.snd).Nodup

instance (names : List (String × String)) : Decidable (Proper names) :=
  inferInstanceAs (Decidable (List.Nodup _))

/-- None of the new names is in use. -/
def Lacks (names : List (String × String)) (fields : List (Value × Value)) : Prop :=
  ∀ n ∈ names, lookup n.2 fields = none

variable {names : List (String × String)} {change : String → Value → Value}
variable {fields : List (Value × Value)} {key old new : String}

theorem spelt_cases (names : List (String × String)) (key : String) :
    (key, spelt names key) ∈ names ∨ key ∉ names.map Prod.fst ∧ spelt names key = key := by
  induction names with
  | nil => exact .inr ⟨List.not_mem_nil, rfl⟩
  | cons n rest ih =>
    obtain ⟨a, b⟩ := n
    by_cases hkey : key = a
    · subst hkey
      have hspelt : spelt ((key, b) :: rest) key = b := by simp [spelt]
      rw [hspelt]
      exact .inl List.mem_cons_self
    · have hspelt : spelt ((a, b) :: rest) key = spelt rest key := by
        have hbeq : (key == a) = false := by simpa using hkey
        simp only [spelt, List.lookup_cons, hbeq]
      rw [hspelt]
      rcases ih with hmem | ⟨hmem, hsame⟩
      · exact .inl (List.mem_cons_of_mem _ hmem)
      · refine .inr ⟨?_, hsame⟩
        simp only [List.map_cons, List.mem_cons, not_or]
        exact ⟨hkey, hmem⟩

theorem spelt_of_mem (proper : Proper names) (h : (old, new) ∈ names) : spelt names old = new := by
  have hfst := (List.nodup_append.mp proper).1
  rcases spelt_cases names old with hmem | ⟨hmem, -⟩
  · have hpair := List.inj_on_of_nodup_map hfst hmem h rfl
    exact congrArg Prod.snd hpair
  · exact absurd (List.mem_map_of_mem h) hmem

theorem lookup_cons_text (s : String) (v : Value) :
    lookup key ((.text s, v) :: fields) = if s = key then some v else lookup key fields := rfl

theorem lookup_cons_ne {k v : Value} (h : k ≠ .text key) :
    lookup key ((k, v) :: fields) = lookup key fields := by
  cases k with
  | text s =>
    have hne : s ≠ key := fun hs => h (congrArg Value.text hs)
    rw [lookup_cons_text, if_neg hne]
  | _ => rfl

theorem lookup_filter {p : Value × Value → Bool} (h : ∀ v, p (.text key, v) = true) :
    lookup key (fields.filter p) = lookup key fields := by
  induction fields with
  | nil => rfl
  | cons f rest ih =>
    obtain ⟨k, v⟩ := f
    by_cases hkey : k = .text key
    · subst hkey
      rw [List.filter_cons_of_pos (h v), lookup_cons_text, if_pos rfl, lookup_cons_text, if_pos rfl]
    · rw [lookup_cons_ne hkey, List.filter_cons]
      split
      · rw [lookup_cons_ne hkey, ih]
      · exact ih

/-- Only one old key leads to the new one. -/
theorem lookup_respell (h : spelt names key = new)
    (only : ∀ s, spelt names s = new → s ≠ key → lookup s fields = none) :
    lookup new (respell names change fields) = (lookup key fields).map (change key) := by
  induction fields with
  | nil => rfl
  | cons f rest ih =>
    obtain ⟨k, v⟩ := f
    cases k with
    | text s =>
      have hhead : respell names change ((.text s, v) :: rest) =
          (.text (spelt names s), change s v) :: respell names change rest := rfl
      rw [hhead, lookup_cons_text, lookup_cons_text]
      have hrest : ∀ t, spelt names t = new → t ≠ key → lookup t rest = none := by
        intro t ht hne
        have hnone := only t ht hne
        rw [lookup_cons_text] at hnone
        split at hnone
        · cases hnone
        · exact hnone
      by_cases hs : s = key
      · subst hs
        rw [if_pos h, if_pos rfl]
        rfl
      · have hnew : spelt names s ≠ new := by
          intro hnew
          have hnone := only s hnew hs
          rw [lookup_cons_text, if_pos rfl] at hnone
          cases hnone
        rw [if_neg hnew, if_neg hs]
        exact ih hrest
    | _ => exact ih only

theorem lookup_new (proper : Proper names) (lacks : Lacks names fields) (h : (old, new) ∈ names) :
    lookup new (respell names change fields) = (lookup old fields).map (change old) := by
  refine lookup_respell (spelt_of_mem proper h) fun s hs hne => ?_
  rcases spelt_cases names s with hmem | ⟨-, hsame⟩
  · have hsnd := (List.nodup_append.mp proper).2.1
    have hpair := List.inj_on_of_nodup_map hsnd hmem h hs
    exact absurd (congrArg Prod.fst hpair) hne
  · rw [← hsame, hs]
    exact lacks _ h

theorem lookup_old (proper : Proper names) (h : (old, new) ∈ names) :
    lookup old (respell names change fields) = none := by
  have hapart := (List.nodup_append.mp proper).2.2
  have hold : old ∈ names.map Prod.fst := List.mem_map_of_mem h
  have hunspelt : ∀ s, spelt names s ≠ old := by
    intro s hs
    rcases spelt_cases names s with hmem | ⟨hmem, hsame⟩
    · have hsnd : old ∈ names.map Prod.snd := List.mem_map.mpr ⟨_, hmem, hs⟩
      exact hapart old hold old hsnd rfl
    · rw [← hsame, hs] at hmem
      exact hmem hold
  induction fields with
  | nil => rfl
  | cons f rest ih =>
    obtain ⟨k, v⟩ := f
    cases k with
    | text s =>
      have hhead : respell names change ((.text s, v) :: rest) =
          (.text (spelt names s), change s v) :: respell names change rest := rfl
      rw [hhead, lookup_cons_text, if_neg (hunspelt s)]
      exact ih
    | _ => exact ih

theorem lookup_other (hold : key ∉ names.map Prod.fst) (hnew : key ∉ names.map Prod.snd) :
    lookup key (respell names change fields) = (lookup key fields).map (change key) := by
  have hspelt : ∀ s, spelt names s = key → s = key := by
    intro s hs
    rcases spelt_cases names s with hmem | ⟨-, hsame⟩
    · exact absurd (List.mem_map.mpr ⟨_, hmem, hs⟩) hnew
    · exact hsame.symm.trans hs
  have hkey : spelt names key = key := by
    rcases spelt_cases names key with hmem | ⟨-, hsame⟩
    · exact absurd (List.mem_map_of_mem hmem) hold
    · exact hsame
  exact lookup_respell hkey fun s hs hne => absurd (hspelt s hs) hne

variable (still : ∀ key, change key .null = .null)

include still

theorem get_of_lookup (h : lookup new (respell names change fields) =
      (lookup old fields).map (change old)) :
    get (respell names change fields) new = change old (get fields old) := by
  unfold get
  rw [h]
  cases lookup old fields with
  | none => exact (still old).symm
  | some v => rfl

theorem get_new (proper : Proper names) (lacks : Lacks names fields) (h : (old, new) ∈ names) :
    get (respell names change fields) new = change old (get fields old) :=
  get_of_lookup still (lookup_new proper lacks h)

theorem get_other (hold : key ∉ names.map Prod.fst) (hnew : key ∉ names.map Prod.snd) :
    get (respell names change fields) key = change key (get fields key) :=
  get_of_lookup still (lookup_other hold hnew)

omit still

theorem get_none (h : lookup key fields = none) : get fields key = .null := by
  unfold get
  rw [h]
  rfl

theorem get_lacked (lacks : Lacks names fields) (h : (old, new) ∈ names) :
    get fields new = .null :=
  get_none (lacks _ h)

theorem get_old (proper : Proper names) (h : (old, new) ∈ names) :
    get (respell names change fields) old = .null :=
  get_none (lookup_old proper h)

/-! ### The first that is given -/

section Given

variable {β : Type} (read : Value → β) {fields' : List (Value × Value)} {a b : String}
variable {keys keys' : List String}

theorem firstGiven?_skip (h : get fields key = .null) :
    firstGiven? fields (key :: keys) = firstGiven? fields keys := by
  rw [firstGiven?, h]

theorem firstGiven?_congr (hget : get fields' a = get fields b)
    (hrest : firstGiven? fields' keys = firstGiven? fields keys) :
    firstGiven? fields' (a :: keys) = firstGiven? fields (b :: keys) := by
  rw [firstGiven?, firstGiven?, hget, hrest]

theorem firstGiven?_given (h : get fields key ≠ .null) :
    firstGiven? fields (key :: keys) = some (get fields key) := by
  rw [firstGiven?]
  split
  · next hnull => exact absurd hnull h
  · rfl

/-- Two fields that are read alike and null together. -/
theorem firstGiven?_read (hnull : get fields' a = .null ↔ get fields b = .null)
    (hread : read (get fields' a) = read (get fields b))
    (hrest : (firstGiven? fields' keys').map read = (firstGiven? fields keys).map read) :
    (firstGiven? fields' (a :: keys')).map read = (firstGiven? fields (b :: keys)).map read := by
  by_cases hgiven : get fields b = .null
  · rw [firstGiven?_skip hgiven, firstGiven?_skip (hnull.mpr hgiven), hrest]
  · have hgiven' : get fields' a ≠ .null := fun h => hgiven (hnull.mp h)
    rw [firstGiven?_given hgiven, firstGiven?_given hgiven', Option.map_some, Option.map_some, hread]

/-- An exchanged name is looked for first, or last; the other spelling is not in use. -/
theorem firstGiven?_exchanged (keys : List String)
    (hnull : get fields' new = .null ↔ get fields old = .null)
    (hread : read (get fields' new) = read (get fields old)) (hold : get fields' old = .null)
    (hnew : get fields new = .null)
    (hrest : (firstGiven? fields' keys).map read = (firstGiven? fields keys).map read) :
    (firstGiven? fields' (new :: old :: keys)).map read =
        (firstGiven? fields (new :: old :: keys)).map read ∧
      (firstGiven? fields' (old :: new :: keys)).map read =
        (firstGiven? fields (old :: new :: keys)).map read := by
  rw [firstGiven?_skip hnew, firstGiven?_skip hold]
  constructor
  · refine firstGiven?_read read hnull hread ?_
    rw [firstGiven?_skip hold]
    exact hrest
  · refine firstGiven?_read read hnull hread ?_
    rw [firstGiven?_skip hnew]
    exact hrest

theorem firstGiven_read
    (h : (firstGiven? fields' keys').map read = (firstGiven? fields keys).map read) :
    read (firstGiven fields' keys') = read (firstGiven fields keys) := by
  unfold firstGiven
  cases hleft : firstGiven? fields' keys' with
  | none =>
    cases hright : firstGiven? fields keys with
    | none => rfl
    | some v => simp [hleft, hright] at h
  | some v' =>
    cases hright : firstGiven? fields keys with
    | none => simp [hleft, hright] at h
    | some v => simpa [hleft, hright] using h

end Given

end Reroll.Value
