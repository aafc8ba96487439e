import Mathlib.Data.List.Forall2
import Reroll.Document.Report

/-!
# When a reading ends early

A fault of any step ends a reading. Whether a later step faults seldom depends on what an earlier
one gave, so a reading faults when one of its steps does (`faults_bind`), and the reading of a list
when that of an item does (`faults_collect`). The problems found add up and never go away. So a
reading gives a value without a problem exactly when each of its steps does (`gives_bind`), and a
list is read without a problem exactly item by item, with nothing left out (`gives_collect`).
-/

namespace Reroll.Report

variable {ε π α β : Type} {r : Report ε π α} {f : α → Report ε π β} {a : α} {P : Prop}

/-! ### Results -/

theorem map_eq_error {g : α → β} {x : Except ε α} {e : ε} :
    x.map g = .error e ↔ x = .error e := by
  cases x with
  | error e' => simp [Except.map]
  | ok a => exact iff_of_false nofun nofun

theorem map_fails {g : α → β} {x : Except ε α} :
    (∃ e, x.map g = .error e) ↔ ∃ e, x = .error e :=
  exists_congr fun _ => map_eq_error

theorem mapError_fails {tell : ε → π} {x : Except ε α} :
    (∃ e, x.mapError tell = .error e) ↔ ∃ e, x = .error e := by
  cases x with
  | error e => exact iff_of_true ⟨_, rfl⟩ ⟨e, rfl⟩
  | ok a => exact iff_of_false nofun nofun

theorem mapError_ok {tell : ε → π} {x : Except ε α} : x.mapError tell = .ok a ↔ x = .ok a := by
  cases x with
  | error e => exact iff_of_false nofun nofun
  | ok b => simp [Except.mapError]

theorem bind_eq_ok {x : Except ε α} {g : α → Except ε β} {b : β} :
    (x >>= g) = .ok b ↔ ∃ a, x = .ok a ∧ g a = .ok b := by
  cases x with
  | error e => exact iff_of_false nofun nofun
  | ok a => simp [bind, Except.bind]

theorem mapM_eq_ok {g : α → Except ε β} {items : List α} {bs : List β} :
    items.mapM g = .ok bs ↔ List.Forall₂ (fun a b => g a = .ok b) items bs := by
  induction items generalizing bs with
  | nil => cases bs <;> simp [pure, Except.pure]
  | cons a rest ih =>
    rw [List.mapM_cons, bind_eq_ok, List.forall₂_cons_left_iff]
    simp only [bind_eq_ok, ih, pure, Except.pure, Except.ok.injEq, @eq_comm _ _ bs]
    exact exists_congr fun b => by simp

theorem mapM_fails {g : α → Except ε β} {items : List α} :
    (∃ e, items.mapM g = .error e) ↔ ∃ a ∈ items, ∃ e, g a = .error e := by
  induction items with
  | nil => simp [pure, Except.pure]
  | cons a rest ih =>
    simp only [List.mem_cons, exists_eq_or_imp, ← ih, List.mapM_cons]
    cases g a with
    | error e => simp [bind, Except.bind]
    | ok b => cases rest.mapM g <;> simp [bind, Except.bind, pure, Except.pure]

/-! ### Readings -/

/-- The reading ends with a fault. -/
def Faults (r : Report ε π α) : Prop := ∃ e, r = .error e

@[simp] theorem faults_good : ¬Faults (good a : Report ε π α) := nofun

@[simp] theorem faults_pure : ¬Faults (pure a : Report ε π α) := nofun

@[simp] theorem faults_noted {p : π} : ¬Faults (noted p a : Report ε π α) := nofun

@[simp] theorem faults_fault {e : ε} : Faults (fault e : Report ε π α) := ⟨e, rfl⟩

@[simp] theorem faults_ofExcept {x : Except ε α} :
    Faults (ofExcept x : Report ε π α) ↔ ∃ e, x = .error e := by
  cases x with
  | error e => exact iff_of_true ⟨e, rfl⟩ ⟨e, rfl⟩
  | ok a => exact iff_of_false nofun nofun

theorem faults_or_ok (r : Report ε π α) : Faults r ∨ ∃ c, r = .ok c := by
  cases r with
  | error e => exact .inl ⟨e, rfl⟩
  | ok c => exact .inr ⟨c, rfl⟩

theorem bind_of_ok {c : Checked π α} (h : r = .ok c) :
    (r >>= f) = Except.map (fun d => ⟨c.problems ++ d.problems, d.value⟩) (f c.value) := by
  subst h
  change andThen (.ok c) f = _
  unfold andThen
  dsimp only
  cases f c.value with
  | error e => rfl
  | ok d => rfl

theorem good_bind (a : α) (f : α → Report ε π β) : (good a >>= f) = f a := by
  have hgood : good a = (.ok ⟨[], a⟩ : Report ε π α) := rfl
  rw [bind_of_ok hgood]
  cases f a with
  | error e => rfl
  | ok d => rfl

theorem faults_bind_of_ok {c : Checked π α} (h : r = .ok c) :
    Faults (r >>= f) ↔ Faults (f c.value) := by
  rw [bind_of_ok h]
  exact map_fails

theorem faults_bind_of_error {e : ε} (h : r = .error e) : Faults (r >>= f) := by
  subst h
  exact ⟨e, rfl⟩

/-- A step whose faults do not depend on the value given to it adds them. -/
theorem faults_bind (h : ∀ a, Faults (f a) ↔ P) : Faults (r >>= f) ↔ Faults r ∨ P := by
  rcases faults_or_ok r with ⟨e, he⟩ | ⟨c, hc⟩
  · exact iff_of_true (faults_bind_of_error he) (.inl ⟨e, he⟩)
  · have hr : ¬Faults r := by
      rintro ⟨e, he⟩
      rw [hc] at he
      cases he
    rw [faults_bind_of_ok hc, h, or_iff_right hr]

/-- The reading ends with a fault of some kind. -/
def FaultsBy (K : ε → Prop) (r : Report ε π α) : Prop := ∃ e, r = .error e ∧ K e

@[simp] theorem faultsBy_pure {K : ε → Prop} : ¬FaultsBy K (pure a : Report ε π α) := nofun

@[simp] theorem faultsBy_noted {K : ε → Prop} {p : π} :
    ¬FaultsBy K (noted p a : Report ε π α) := nofun

/-- The first step to fault decides about the kind. -/
theorem faultsBy_bind {K : ε → Prop} :
    FaultsBy K (r >>= f) ↔ FaultsBy K r ∨ ∃ c, r = .ok c ∧ FaultsBy K (f c.value) := by
  cases r with
  | error e =>
    constructor
    · rintro ⟨_, ⟨⟩, hk⟩
      exact .inl ⟨e, rfl, hk⟩
    · rintro (⟨_, ⟨⟩, hk⟩ | ⟨c, ⟨⟩, -⟩)
      exact ⟨e, rfl, hk⟩
  | ok c =>
    have hrest : FaultsBy K (.ok c >>= f) ↔ FaultsBy K (f c.value) := by
      rw [bind_of_ok rfl]
      exact exists_congr fun e => and_congr_left' map_eq_error
    rw [hrest]
    constructor
    · intro h
      exact .inr ⟨c, rfl, h⟩
    · rintro (⟨_, ⟨⟩, -⟩ | ⟨_, ⟨⟩, h⟩)
      exact h

/-- Where all faults of a step are of the kind and those of later ones do not depend on its value,
the faults of the kind add up as others do. -/
theorem faultsBy_bind_of {K : ε → Prop} (hr : ∀ e, r = .error e → K e)
    (hf : ∀ a, FaultsBy K (f a) ↔ P) : FaultsBy K (r >>= f) ↔ Faults r ∨ P := by
  simp only [faultsBy_bind, hf]
  rcases faults_or_ok r with ⟨e, he⟩ | ⟨c, hc⟩
  · exact iff_of_true (.inl ⟨e, he, hr e he⟩) (.inl ⟨e, he⟩)
  · subst hc
    constructor
    · rintro (⟨_, ⟨⟩, -⟩ | ⟨_, -, hp⟩)
      exact .inr hp
    · rintro (⟨_, ⟨⟩⟩ | hp)
      exact .inr ⟨c, rfl, hp⟩

theorem faults_collect {f : α → Nat → Report ε π (Option β)} {p : α → Prop}
    (h : ∀ a i, Faults (f a i) ↔ p a) (i : Nat) (items : List α) :
    Faults (collect f i items) ↔ ∃ a ∈ items, p a := by
  induction items generalizing i with
  | nil => exact iff_of_false nofun (by simp)
  | cons a rest ih =>
    have hrest : ∀ b, Faults (collect f (i + 1) rest >>= fun bs =>
        (good (Option.toList b ++ bs) : Report ε π (List β))) ↔ ∃ a ∈ rest, p a := by
      intro b
      rw [faults_bind fun bs => iff_false_intro faults_good, or_false, ih]
    simp only [List.mem_cons, exists_eq_or_imp]
    rw [← h a i]
    exact faults_bind hrest

/-- A reading that goes on past a step has the problems of the step and its own. -/
theorem bind_ok {c : Checked π β} (h : (r >>= f) = .ok c) :
    ∃ a b, r = .ok a ∧ f a.value = .ok b ∧ c.problems = a.problems ++ b.problems ∧
      c.value = b.value := by
  change andThen r f = _ at h
  unfold andThen at h
  split at h
  · cases h
  · next a =>
    split at h
    · cases h
    · next b hb =>
      cases h
      exact ⟨a, b, rfl, hb, rfl, rfl⟩

/-! ### Readings without problems -/

/-- The reading gives a value and finds no problem on the way. -/
def Gives (r : Report ε π α) (a : α) : Prop := r = .ok ⟨[], a⟩

theorem Gives.unique {b : α} (ha : Gives r a) (hb : Gives r b) : a = b :=
  congrArg Checked.value (Except.ok.inj (ha.symm.trans hb))

theorem gives_ok {c : Checked π α} : Gives (.ok c : Report ε π α) a ↔ c = ⟨[], a⟩ :=
  ⟨Except.ok.inj, congrArg Except.ok⟩

@[simp] theorem gives_good {b : α} : Gives (good a : Report ε π α) b ↔ a = b := by
  constructor
  · intro h
    cases h
    rfl
  · rintro rfl
    rfl

@[simp] theorem gives_pure {b : α} : Gives (pure a : Report ε π α) b ↔ a = b := gives_good

@[simp] theorem gives_noted {p : π} {b : α} : ¬Gives (noted p a : Report ε π α) b := nofun

@[simp] theorem gives_fault {e : ε} : ¬Gives (fault e : Report ε π α) a := nofun

@[simp] theorem gives_ofExcept {x : Except ε α} :
    Gives (ofExcept x : Report ε π α) a ↔ x = .ok a := by
  cases x with
  | error e => simp [Gives, ofExcept]
  | ok b => simp [ofExcept]

theorem gives_bind {b : β} : Gives (r >>= f) b ↔ ∃ a, Gives r a ∧ Gives (f a) b := by
  constructor
  · intro h
    obtain ⟨c, d, hc, hd, hproblems, hvalue⟩ := bind_ok h
    obtain ⟨hc', hd'⟩ := List.append_eq_nil_iff.mp hproblems.symm
    obtain ⟨problems, a⟩ := c
    obtain ⟨problems', b'⟩ := d
    cases hc'
    cases hd'
    cases hvalue
    exact ⟨a, hc, hd⟩
  · rintro ⟨a, ha, hb⟩
    have hthen : f a = .ok ⟨[], b⟩ := hb
    rw [Gives, bind_of_ok ha]
    change Except.map _ (f a) = _
    rw [hthen]
    rfl

/-- Items are read without a problem one by one when none of them vanishes without a problem. -/
theorem gives_collect {f : α → Nat → Report ε π (Option β)} {R : α → β → Prop}
    (hnone : ∀ a i, ¬Gives (f a i) none) (hsome : ∀ a i b, Gives (f a i) (some b) ↔ R a b)
    {i : Nat} {items : List α} {bs : List β} :
    Gives (collect f i items) bs ↔ List.Forall₂ R items bs := by
  induction items generalizing i bs with
  | nil =>
    have hnil : Gives (collect f i []) bs ↔ [] = bs := gives_good
    rw [hnil, List.forall₂_nil_left_iff, eq_comm]
  | cons a rest ih =>
    have hcons : Gives (collect f i (a :: rest)) bs ↔
        ∃ o, Gives (f a i) o ∧ ∃ rest', Gives (collect f (i + 1) rest) rest' ∧
          o.toList ++ rest' = bs := by
      refine gives_bind.trans (exists_congr fun o => and_congr_right fun _ => ?_)
      exact gives_bind.trans (exists_congr fun rest' => and_congr_right fun _ => gives_good)
    rw [hcons, List.forall₂_cons_left_iff]
    constructor
    · rintro ⟨o, ho, rest', hrest, rfl⟩
      cases o with
      | none => exact absurd ho (hnone a i)
      | some b => exact ⟨b, rest', (hsome a i b).mp ho, ih.mp hrest, rfl⟩
    · rintro ⟨b, rest', hb, hrest, rfl⟩
      exact ⟨some b, (hsome a i b).mpr hb, rest', ih.mpr hrest, rfl⟩

/-! ### Items that are read alike -/

theorem collect_map {f : α → Nat → Report ε π (Option β)} {g : α → α} {items : List α}
    (h : ∀ a ∈ items, ∀ i, f (g a) i = f a i) (i : Nat) :
    collect f i (items.map g) = collect f i items := by
  induction items generalizing i with
  | nil => rfl
  | cons a rest ih =>
    obtain ⟨ha, hrest⟩ := List.forall_mem_cons.mp h
    rw [List.map_cons, collect, collect, ha, ih hrest]

end Reroll.Report
