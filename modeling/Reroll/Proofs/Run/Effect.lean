import Mathlib.Order.Defs.Unbundled
import Reroll.Run.Loop

/-!
# What acts do to a scene

Acts are opened by the equations of their parts (`bind_apply` and its neighbours). What one does
is said by a relation between the scenes before and after it: `Scene.Grows` by the deeds that the
journal gains, `Scene.Steady` besides by the key flag, which stays as it is. Both are closed under
doing one act after the other (`Within.bind`), so the lemma about an act follows from those about
its parts.
-/

namespace Reroll

variable {τ ι δ σ α β : Type}

/-! ### Deeds by what they touch -/

namespace Deed

/-- Telling and sleeping. -/
def isIdle : Deed τ ι → Bool
  | .told _ | .slept _ => true
  | _ => false

/-- Looking at the screen. -/
def isLook : Deed τ ι → Bool
  | .grabbed _ _ | .prepared _ _ | .recognized _ _ => true
  | _ => false

/-- Using the pointer or the key. -/
def isTouch : Deed τ ι → Bool
  | .clicked _ _ _ _ | .keyed _ _ | .released _ => true
  | _ => false

/-- The deeds of a single step, and of the release after it. -/
def isOfStep (d : Deed τ ι) : Bool := d.isIdle || d.isLook || d.isTouch

theorem isOfStep_of_idle {d : Deed τ ι} (h : d.isIdle = true) : d.isOfStep = true := by
  simp [isOfStep, h]

theorem isOfStep_of_look {d : Deed τ ι} (h : d.isLook = true) : d.isOfStep = true := by
  simp [isOfStep, h]

theorem isOfStep_of_touch {d : Deed τ ι} (h : d.isTouch = true) : d.isOfStep = true := by
  simp [isOfStep, h]

end Deed

/-! ### Scenes before and after -/

namespace Scene

/-- The journal gains notes of one kind, no attempt is counted and no request for a stop is
taken back. -/
structure Grows (p : Note τ ι → Prop) (s t : Scene τ ι δ σ) : Prop where
  journal : ∃ new, t.journal = new ++ s.journal ∧ ∀ e ∈ new, p e
  attempts : t.state.attempts = s.state.attempts
  stop : s.state.stopRequested = true → t.state.stopRequested = true

/-- The journal gains deeds of one kind while the key flag stays as it is. -/
structure Steady (p : Deed τ ι → Prop) (s t : Scene τ ι δ σ) : Prop where
  grows : Grows (fun e => p e.deed ∧ e.state.held = s.state.held) s t
  held : t.state.held = s.state.held

/-- One deed is noted; of the state only a request for a stop may have come up. -/
structure Noted (d : Deed τ ι) (s t : Scene τ ι δ σ) : Prop where
  journal : t.journal = ⟨d, s.state⟩ :: s.journal
  held : t.state.held = s.state.held
  attempts : t.state.attempts = s.state.attempts
  stop : s.state.stopRequested = true → t.state.stopRequested = true

theorem Grows.refl (p : Note τ ι → Prop) (s : Scene τ ι δ σ) : Grows p s s :=
  ⟨⟨[], rfl, by simp⟩, rfl, id⟩

theorem Grows.trans {p : Note τ ι → Prop} {s t u : Scene τ ι δ σ} (h : Grows p s t)
    (k : Grows p t u) : Grows p s u := by
  obtain ⟨new, hnew, hp⟩ := h.journal
  obtain ⟨more, hmore, hq⟩ := k.journal
  refine ⟨⟨more ++ new, ?_, ?_⟩, k.attempts.trans h.attempts, k.stop ∘ h.stop⟩
  · rw [hmore, hnew, List.append_assoc]
  · intro e he
    rcases List.mem_append.mp he with he | he
    · exact hq e he
    · exact hp e he

theorem Grows.mono {p q : Note τ ι → Prop} {s t : Scene τ ι δ σ} (h : Grows p s t)
    (hpq : ∀ e, p e → q e) : Grows q s t := by
  obtain ⟨new, hnew, hp⟩ := h.journal
  exact ⟨⟨new, hnew, fun e he => hpq e (hp e he)⟩, h.attempts, h.stop⟩

theorem Steady.refl (p : Deed τ ι → Prop) (s : Scene τ ι δ σ) : Steady p s s :=
  ⟨Grows.refl _ s, rfl⟩

theorem Steady.trans {p : Deed τ ι → Prop} {s t u : Scene τ ι δ σ} (h : Steady p s t)
    (k : Steady p t u) : Steady p s u := by
  refine ⟨h.grows.trans (k.grows.mono ?_), k.held.trans h.held⟩
  intro e he
  exact ⟨he.1, he.2.trans h.held⟩

instance (p : Note τ ι → Prop) : IsPreorder (Scene τ ι δ σ) (Grows p) where
  refl := Grows.refl p
  trans _ _ _ := Grows.trans

instance (p : Deed τ ι → Prop) : IsPreorder (Scene τ ι δ σ) (Steady p) where
  refl := Steady.refl p
  trans _ _ _ := Steady.trans

/-- Idle deeds are ones of a step. -/
theorem Steady.ofStep {s t : Scene τ ι δ σ} (h : Steady (·.isIdle = true) s t) :
    Grows (fun e => e.deed.isOfStep = true) s t :=
  h.grows.mono fun _ he => Deed.isOfStep_of_idle he.1

theorem Noted.steady {p : Deed τ ι → Prop} {d : Deed τ ι} {s t : Scene τ ι δ σ}
    (h : Noted d s t) (hd : p d) : Steady p s t := by
  refine ⟨⟨⟨[⟨d, s.state⟩], h.journal, ?_⟩, h.attempts, h.stop⟩, h.held⟩
  simpa using hd

/-- A scene that differs in neither the journal nor the state. -/
theorem Steady.of_eq {p : Deed τ ι → Prop} {s t : Scene τ ι δ σ} (hj : t.journal = s.journal)
    (hs : t.state = s.state) : Steady p s t := by
  refine ⟨⟨⟨[], by simpa using hj, by simp⟩, ?_, ?_⟩, ?_⟩
  · rw [hs]
  · rw [hs]; exact id
  · rw [hs]

end Scene

/-! ### Opening acts -/

namespace Act

theorem bind_apply (a : Act τ ι δ σ α) (f : α → Act τ ι δ σ β) (s : Scene τ ι δ σ) :
    (a >>= f) s = match a s with
      | (.ok v, s) => f v s
      | (.error e, s) => (.error e, s) := by
  change StateT.bind a (ExceptT.bindCont f) s = _
  unfold StateT.bind
  rcases h : a s with ⟨_ | v, t⟩ <;> rfl

theorem get_apply (s : Scene τ ι δ σ) : (get : Act τ ι δ σ _) s = (.ok s, s) := rfl

theorem modify_apply (f : Scene τ ι δ σ → Scene τ ι δ σ) (s : Scene τ ι δ σ) :
    (modify f : Act τ ι δ σ PUnit) s = (.ok ⟨⟩, f s) := rfl

theorem lift_apply {ε : Type} (c : ε → Fault) (x : Except ε α) (s : Scene τ ι δ σ) :
    (lift c x : Act τ ι δ σ α) s = (x.mapError c, s) := rfl

theorem outcome_apply (a : Act τ ι δ σ α) (s : Scene τ ι δ σ) :
    outcome a s = (.ok (a s).1, (a s).2) := rfl

theorem note_apply (d : Deed τ ι) (s : Scene τ ι δ σ) :
    (note d : Act τ ι δ σ Unit) s = (.ok (), { s with journal := ⟨d, s.state⟩ :: s.journal }) := rfl

/-- Whatever the act gives, the relation holds between the scenes before and after it. -/
def Within (R : Scene τ ι δ σ → Scene τ ι δ σ → Prop) (a : Act τ ι δ σ α) : Prop :=
  ∀ s, R s (a s).2

namespace Within

variable {R : Scene τ ι δ σ → Scene τ ι δ σ → Prop}

theorem of_le {R' : Scene τ ι δ σ → Scene τ ι δ σ → Prop} {a : Act τ ι δ σ α} (h : Within R a)
    (hle : ∀ s t, R s t → R' s t) : Within R' a := fun s => hle _ _ (h s)

theorem modify {f : Scene τ ι δ σ → Scene τ ι δ σ} (h : ∀ s, R s (f s)) :
    Within R (modify f : Act τ ι δ σ PUnit) := h

theorem outcome {a : Act τ ι δ σ α} (ha : Within R a) : Within R (outcome a) := ha

theorem ite {c : Prop} [Decidable c] {a b : Act τ ι δ σ α} (ha : Within R a) (hb : Within R b) :
    Within R (if c then a else b) := by
  split
  · exact ha
  · exact hb

variable [IsPreorder (Scene τ ι δ σ) R]

theorem pure (v : α) : Within R (pure v : Act τ ι δ σ α) := fun s => refl_of R s

theorem throw (f : Fault) : Within R (throw f : Act τ ι δ σ α) := fun s => refl_of R s

theorem get : Within R (get : Act τ ι δ σ _) := fun s => refl_of R s

theorem lift {ε : Type} (c : ε → Fault) (x : Except ε α) :
    Within R (lift c x : Act τ ι δ σ α) := fun s => refl_of R s

theorem bind {a : Act τ ι δ σ α} {f : α → Act τ ι δ σ β} (ha : Within R a)
    (hf : ∀ v, Within R (f v)) : Within R (a >>= f) := by
  intro s
  rw [bind_apply]
  have hs := ha s
  rcases h : a s with ⟨_ | v, t⟩
  · rw [h] at hs
    exact hs
  · rw [h] at hs
    exact trans_of R hs (hf v t)

theorem discard {a : Act τ ι δ σ α} (ha : Within R a) : Within R (discard a) :=
  ha.bind fun _ => Within.pure _

end Within

end Act

end Reroll
