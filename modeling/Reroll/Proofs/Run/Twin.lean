import Reroll.Proofs.Run.Frame

/-!
# Two runs side by side

`Act.Keeps` compares an act of one run with an act of another one: started in scenes that a tie
holds together, the two come to the same, and the tie holds afterwards. A run that has come to a
state past the comparison is owed nothing any more, but it stays there. `Tie.Carries` collects what
the rigs of two runs have to keep call by call; whole runs follow from it (`attempts_keeps`,
`closing_keeps`).
-/

namespace Reroll

variable {τ ι δ σ δ' σ' α β γ γ' : Type}

/-- What two runs have in common: they watch for one signal file, their files, devices and listeners
are related, and the same deeds are noted, as far as they count. Nothing is asked of a run that is
past the comparison. -/
structure Tie (τ ι δ σ δ' σ' : Type) where
  signal : Option Path
  files : Files → Files → Prop
  devices : δ → δ' → Prop
  listeners : σ → σ' → Prop
  counts : Deed τ ι → Bool
  past : RunState → Prop
  past_mono : ∀ {x y : RunState}, past x → (x.stopRequested = true → y.stopRequested = true) → past y

namespace Tie

variable {T : Tie τ ι δ σ δ' σ'}

/-- The tie holds two scenes together. -/
structure Holds (T : Tie τ ι δ σ δ' σ') (s : Scene τ ι δ σ) (t : Scene τ ι δ' σ') : Prop where
  signal : s.state.signal = T.signal
  state : t.state = s.state
  failures : t.failures = s.failures
  files : T.files s.files t.files
  devices : T.devices s.devices t.devices
  listeners : T.listeners s.listener t.listener
  journal : t.journal.filter (T.counts ·.deed) = s.journal.filter (T.counts ·.deed)

/-- What happens meanwhile is the same in both runs, unless a stop puts them past the comparison. -/
structure Allows (T : Tie τ ι δ σ δ' σ') (i j : Influence) : Prop where
  stop : j.stop = i.stop ∨ ∀ x : RunState, T.past x.requestStop
  files : ∀ f g, T.files f g → T.files (i.files f) (j.files g)

/-- An operation gives the same in both runs. -/
structure Answers (T : Tie τ ι δ σ δ' σ') (op : δ → Answer α × δ) (op' : δ' → Answer α × δ') : Prop where
  result : ∀ x y, T.devices x y → (op' y).1.result = (op x).1.result
  influence : ∀ x y, T.devices x y → T.Allows (op x).1.influence (op' y).1.influence
  devices : ∀ x y, T.devices x y → T.devices (op x).2 (op' y).2

/-- What the listeners of both runs do with an event is the same for the runs. -/
structure Hears (T : Tie τ ι δ σ δ' σ') (l : Listener σ) (l' : Listener σ') : Prop where
  influence : ∀ e x y, T.listeners x y → T.Allows (l.hear e x).2.1 (l'.hear e y).2.1
  listeners : ∀ e x y, T.listeners x y → T.listeners (l.hear e x).2.2 (l'.hear e y).2.2

/-- The devices of both runs give the same, and reckon time in one way. -/
structure Serves (T : Tie τ ι δ σ δ' σ') (d : Devices τ ι δ) (d' : Devices τ ι δ') : Prop where
  time : d'.time = d.time
  click : ∀ x y b, T.Answers (d.click x y b) (d'.click x y b)
  key : ∀ down, T.Answers (d.key down) (d'.key down)
  grab : ∀ region, T.Answers (d.grab region) (d'.grab region)
  prepare : ∀ image, T.Answers (d.prepare image) (d'.prepare image)
  recognize : ∀ image, T.Answers (d.recognize image) (d'.recognize image)

end Tie

/-- What a run came to, the time it took aside. -/
def RunResult.gist (x : RunResult) : RunOutcome × Int := (x.outcome, x.attempts)

namespace Act

/-- Two acts came to the same: both gave something, what they gave being related, or both ended
with one fault. -/
def Agree (V : α → β → Prop) : Except Fault α → Except Fault β → Prop
  | .ok v, .ok w => V v w
  | .error f, .error g => f = g
  | _, _ => False

theorem Agree.eq {x y : Except Fault α} (h : Agree Eq x y) : x = y := by
  cases x with
  | error f =>
    cases y with
    | error g => exact congrArg _ h
    | ok w => exact h.elim
  | ok v =>
    cases y with
    | error g => exact h.elim
    | ok w => exact congrArg _ h

theorem Agree.of_eq {x y : Except Fault α} (h : x = y) : Agree Eq x y := by
  subst h
  cases x with
  | error f => exact rfl
  | ok v => exact rfl

/-- Acts that agree in what a function makes of their results fail alike for a caller as well. -/
theorem Agree.map_eq {ε : Type} {k : α → β} {x y : Except Fault α}
    (h : Agree (fun v w => k w = k v) x y) (c : Fault → ε) :
    (y.mapError c).map k = (x.mapError c).map k := by
  cases x with
  | error f =>
    cases y with
    | error g =>
      obtain rfl : f = g := h
      rfl
    | ok w => exact h.elim
  | ok v =>
    cases y with
    | error g => exact h.elim
    | ok w => exact congrArg Except.ok h

/-- Side by side the acts keep the tie and come to the same, as far as neither is past it. -/
structure Keeps (T : Tie τ ι δ σ δ' σ') (V : α → β → Prop) (a : Act τ ι δ σ α)
    (b : Act τ ι δ' σ' β) : Prop where
  -- a scene of the other run has to be at hand for what both acts look up
  left : ∀ s (_ : Scene τ ι δ' σ'), T.past s.state → T.past (a s).2.state
  right : ∀ (_ : Scene τ ι δ σ) t, T.past t.state → T.past (b t).2.state
  both : ∀ s t, T.Holds s t → T.past (a s).2.state ∨ T.past (b t).2.state ∨
    Agree V (a s).1 (b t).1 ∧ T.Holds (a s).2 (b t).2

namespace Keeps

variable {T : Tie τ ι δ σ δ' σ'} {V : α → β → Prop} {W : γ → γ' → Prop}

/-- Acts that change nothing and come to the same. -/
theorem still {a : Act τ ι δ σ α} {b : Act τ ι δ' σ' β} {x : Except Fault α} {y : Except Fault β}
    (ha : ∀ s, a s = (x, s)) (hb : ∀ t, b t = (y, t)) (h : Agree V x y) : Keeps T V a b where
  left s _ hs := by rwa [ha]
  right _ t ht := by rwa [hb]
  both s t hst := by
    rw [ha, hb]
    exact .inr (.inr ⟨h, hst⟩)

theorem pure {v : α} {w : β} (h : V v w) :
    Keeps T V (pure v : Act τ ι δ σ α) (pure w : Act τ ι δ' σ' β) :=
  still (fun _ => rfl) (fun _ => rfl) h

theorem throw (f : Fault) :
    Keeps T V (throw f : Act τ ι δ σ α) (throw f : Act τ ι δ' σ' β) :=
  still (fun _ => rfl) (fun _ => rfl) rfl

theorem lift {ε : Type} (c : ε → Fault) (x : Except ε α) :
    Keeps T Eq (lift c x : Act τ ι δ σ α) (lift c x : Act τ ι δ' σ' α) :=
  still (lift_apply c x) (lift_apply c x) (.of_eq rfl)

theorem bind {a : Act τ ι δ σ α} {b : Act τ ι δ' σ' α} {f : α → Act τ ι δ σ γ}
    {g : α → Act τ ι δ' σ' γ'} (h : Keeps T Eq a b) (hf : ∀ v, Keeps T W (f v) (g v)) :
    Keeps T W (a >>= f) (b >>= g) where
  left s t hs := by
    have hpast := h.left s t hs
    rw [bind_apply]
    generalize a s = x at hpast
    rcases x with ⟨_ | v, u⟩
    · exact hpast
    · exact (hf v).left u t hpast
  right s t ht := by
    have hpast := h.right s t ht
    rw [bind_apply]
    generalize b t = y at hpast
    rcases y with ⟨_ | v, u⟩
    · exact hpast
    · exact (hf v).right s u hpast
  both s t hst := by
    have hboth := h.both s t hst
    rw [bind_apply, bind_apply]
    generalize a s = x at hboth
    generalize b t = y at hboth
    obtain ⟨x, u⟩ := x
    obtain ⟨y, v⟩ := y
    rcases hboth with hpast | hpast | ⟨hagree, hholds⟩
    · -- the rest of the first run leaves it past the tie
      refine .inl ?_
      cases x with
      | error f => exact hpast
      | ok v => exact (hf v).left u t hpast
    · refine .inr (.inl ?_)
      cases y with
      | error f => exact hpast
      | ok w => exact (hf w).right s v hpast
    · obtain rfl := hagree.eq
      cases x with
      | error f => exact .inr (.inr ⟨rfl, hholds⟩)
      | ok w => exact (hf w).both u v hholds

/-- What an act looks up of the state and of the failures is the same in both runs. -/
theorem get_bind {f : Scene τ ι δ σ → Act τ ι δ σ γ} {g : Scene τ ι δ' σ' → Act τ ι δ' σ' γ'}
    (h : ∀ u v, v.state = u.state → v.failures = u.failures → Keeps T W (f u) (g v)) :
    Keeps T W (get >>= f) (get >>= g) where
  left s t hs := (h s { t with state := s.state, failures := s.failures } rfl rfl).left s t hs
  right s t ht := (h { s with state := t.state, failures := t.failures } t rfl rfl).right s t ht
  both s t hst := (h s t hst.state hst.failures).both s t hst

theorem now_bind {r : Rig τ ι δ σ} {r' : Rig τ ι δ' σ'} {f : τ → Act τ ι δ σ γ}
    {g : τ → Act τ ι δ' σ' γ'} (h : ∀ x y, Keeps T W (f x) (g y)) :
    Keeps T W (now r >>= f) (now r' >>= g) where
  left s t hs := (h (r.devices.now s.devices) (r'.devices.now t.devices)).left s t hs
  right s t ht := (h (r.devices.now s.devices) (r'.devices.now t.devices)).right s t ht
  both s t hst := (h (r.devices.now s.devices) (r'.devices.now t.devices)).both s t hst

/-- The same change of the state and of the failures, which leaves requests alone. -/
theorem update (u : RunState → RunState) (f : Failures → Failures)
    (requested : ∀ x, (u x).stopRequested = x.stopRequested) (signal : ∀ x, (u x).signal = x.signal) :
    Keeps T Eq
      (modify fun s => { s with state := u s.state, failures := f s.failures } : Act τ ι δ σ PUnit)
      (modify fun s => { s with state := u s.state, failures := f s.failures } :
        Act τ ι δ' σ' PUnit) where
  left s _ hs := T.past_mono hs fun h => (requested s.state).trans h
  right _ t ht := T.past_mono ht fun h => (requested t.state).trans h
  both s t hst := by
    refine .inr (.inr ⟨rfl, (signal _).trans hst.signal, congrArg u hst.state, ?_, hst.files,
      hst.devices, hst.listeners, hst.journal⟩)
    exact congrArg f hst.failures

theorem outcome {a : Act τ ι δ σ α} {b : Act τ ι δ' σ' α} (h : Keeps T Eq a b) :
    Keeps T Eq (outcome a) (outcome b) where
  left := h.left
  right := h.right
  both s t hst := by
    rw [outcome_apply, outcome_apply]
    exact (h.both s t hst).imp_right (Or.imp_right (And.imp_left Agree.eq))

theorem ite {c : Prop} [Decidable c] {a a' : Act τ ι δ σ α} {b b' : Act τ ι δ' σ' β}
    (h : Keeps T V a b) (h' : Keeps T V a' b') :
    Keeps T V (if c then a else a') (if c then b else b') := by
  split
  · exact h
  · exact h'

/-- What the acts gave does not matter to one who goes on without it. -/
theorem discard {a : Act τ ι δ σ α} {b : Act τ ι δ' σ' β} (h : Keeps T V a b) :
    Keeps T Eq (discard a) (discard b) where
  left s t hs := by
    have hpast := h.left s t hs
    change T.past ((a >>= fun _ => Pure.pure ()) s).2.state
    rw [bind_apply]
    generalize a s = x at hpast
    rcases x with ⟨_ | v, u⟩ <;> exact hpast
  right s t ht := by
    have hpast := h.right s t ht
    change T.past ((b >>= fun _ => Pure.pure ()) t).2.state
    rw [bind_apply]
    generalize b t = y at hpast
    rcases y with ⟨_ | v, u⟩ <;> exact hpast
  both s t hst := by
    have hboth := h.both s t hst
    change T.past ((a >>= fun _ => Pure.pure ()) s).2.state ∨
      T.past ((b >>= fun _ => Pure.pure ()) t).2.state ∨
      Agree Eq ((a >>= fun _ => Pure.pure ()) s).1 ((b >>= fun _ => Pure.pure ()) t).1 ∧
        T.Holds ((a >>= fun _ => Pure.pure ()) s).2 ((b >>= fun _ => Pure.pure ()) t).2
    rw [bind_apply, bind_apply]
    generalize a s = x at hboth
    generalize b t = y at hboth
    rcases x with ⟨f | v, u⟩ <;> rcases y with ⟨g | w, v⟩
    · exact hboth
    · exact hboth
    · exact hboth
    · exact hboth.imp_right (Or.imp_right (And.imp_left fun _ => rfl))

theorem followedBy {a : Act τ ι δ σ α} {b : Act τ ι δ' σ' α} {x : Act τ ι δ σ Unit}
    {y : Act τ ι δ' σ' Unit} (h : Keeps T Eq a b) (after : Keeps T Eq x y) :
    Keeps T Eq (a.followedBy x) (b.followedBy y) := by
  refine h.outcome.bind fun v => after.bind fun _ => ?_
  cases v with
  | ok v => exact .pure rfl
  | error f => exact .throw f

theorem note (d : Deed τ ι) :
    Keeps T Eq (note d : Act τ ι δ σ Unit) (note d : Act τ ι δ' σ' Unit) where
  left _ _ hs := hs
  right _ _ ht := ht
  both s t hst := by
    refine .inr (.inr ⟨rfl, { hst with journal := ?_ }⟩)
    rw [note_apply, note_apply]
    simp only [List.filter_cons, hst.state, hst.journal]

theorem undergo {i j : Influence} (h : T.Allows i j) :
    Keeps T Eq (undergo i : Act τ ι δ σ Unit) (undergo j : Act τ ι δ' σ' Unit) where
  left s _ hs := T.past_mono hs (undergo_steady (p := fun _ => True) i s).grows.stop
  right _ t ht := T.past_mono ht (undergo_steady (p := fun _ => True) j t).grows.stop
  both s t hst := by
    by_cases hstop : j.stop = i.stop
    · refine .inr (.inr ⟨rfl, ?_, ?_, hst.failures, h.files _ _ hst.files, hst.devices,
        hst.listeners, hst.journal⟩)
      · have hsignal : (if i.stop then s.state.requestStop else s.state).signal = s.state.signal := by
          cases i.stop <;> rfl
        exact hsignal.trans hst.signal
      · change (if j.stop then t.state.requestStop else t.state) =
          if i.stop then s.state.requestStop else s.state
        rw [hstop, hst.state]
    · have hpast := h.stop.resolve_left hstop
      cases hi : i.stop with
      | true =>
        refine .inl ?_
        simp only [Act.undergo, modify_apply, hi, ite_true]
        exact hpast _
      | false =>
        have hj : j.stop = true := by simpa [hi] using hstop
        refine .inr (.inl ?_)
        simp only [Act.undergo, modify_apply, hj, ite_true]
        exact hpast _

theorem operate {op : δ → Answer α × δ} {op' : δ' → Answer α × δ'} (h : T.Answers op op')
    (deed : Except DeviceFault α → Deed τ ι) :
    Keeps T Eq (operate op deed : Act τ ι δ σ α) (operate op' deed : Act τ ι δ' σ' α) where
  left s _ hs := T.past_mono hs (operate_steady (p := fun _ => True) (fun _ => trivial) s).grows.stop
  right _ t ht := T.past_mono ht (operate_steady (p := fun _ => True) (fun _ => trivial) t).grows.stop
  both s t hst := by
    rw [operate_apply, operate_apply]
    have hresult := h.result _ _ hst.devices
    have hnoted : T.Holds
        { s with devices := (op s.devices).2
                 journal := ⟨deed (op s.devices).1.result, s.state⟩ :: s.journal }
        { t with devices := (op' t.devices).2
                 journal := ⟨deed (op' t.devices).1.result, t.state⟩ :: t.journal } := by
      refine ⟨hst.signal, hst.state, hst.failures, hst.files, h.devices _ _ hst.devices,
        hst.listeners, ?_⟩
      simp only [List.filter_cons, hresult, hst.state, hst.journal]
    have hinfluence := h.influence _ _ hst.devices
    refine ((undergo hinfluence).both _ _ hnoted).imp_right (Or.imp_right (And.imp_left fun _ => ?_))
    rw [hresult]
    exact .of_eq rfl

theorem tell {r : Rig τ ι δ σ} {r' : Rig τ ι δ' σ'} (h : T.Hears r.listener r'.listener)
    (level : EventLevel) (message : String) :
    Keeps T Eq (tell r level message) (tell r' level message) where
  left s _ hs := T.past_mono hs (tell_steady (p := fun _ => True) (fun _ _ => trivial) r _ _ s).grows.stop
  right _ t ht :=
    T.past_mono ht (tell_steady (p := fun _ => True) (fun _ _ => trivial) r' _ _ t).grows.stop
  both s t hst := by
    let e : Event := ⟨level, message⟩
    have hnoted : T.Holds
        { s with listener := (r.listener.hear e s.listener).2.2
                 journal := ⟨.told e, s.state⟩ :: s.journal }
        { t with listener := (r'.listener.hear e t.listener).2.2
                 journal := ⟨.told e, t.state⟩ :: t.journal } := by
      refine ⟨hst.signal, hst.state, hst.failures, hst.files, hst.devices,
        h.listeners e _ _ hst.listeners, ?_⟩
      simp only [List.filter_cons, hst.state, hst.journal]
    exact (undergo (h.influence e _ _ hst.listeners)).both _ _ hnoted

end Keeps

end Act

open Act

/-- The rigs of two runs are set up alike, and each of their calls keeps the tie. -/
structure Tie.Carries (T : Tie τ ι δ σ δ' σ') (r : Rig τ ι δ σ) (r' : Rig τ ι δ' σ') : Prop where
  settings : r'.settings = r.settings
  exclusion : r'.exclusion = r.exclusion
  known : r'.known = r.known
  targets : r'.targets = r.targets
  failureLimit : r'.failureLimit = r.failureLimit
  serves : T.Serves r.devices r'.devices
  hears : T.Hears r.listener r'.listener
  stopAsked : Keeps T Eq (stopAsked : Act τ ι δ σ Bool) (stopAsked : Act τ ι δ' σ' Bool)
  pause : ∀ length, Keeps T Eq (Delay.pause r length) (Delay.pause r' length)

namespace Run

/-- What a run does once it has begun. -/
def closing (r : Rig τ ι δ σ) (p : Plan) (started : τ) : Act τ ι δ σ RunResult := do
  let outcome ← guarded r p
  Step.releaseKey r
  modify fun s => { s with state := s.state.finish }
  let ended ← Act.now r
  let attempts := (← get).state.attempts
  announce r attempts outcome
  return { outcome, attempts, duration := r.devices.time.millis (r.devices.time.minus ended started) }

theorem runValid_closing (r : Rig τ ι δ σ) (p : Plan) :
    runValid r p = Act.now r >>= fun started => begin p >>= fun _ => closing r p started := rfl

end Run

section Carries

variable {T : Tie τ ι δ σ δ' σ'} {r : Rig τ ι δ σ} {r' : Rig τ ι δ' σ'} (h : T.Carries r r')

include h

/-! ### Steps -/

namespace Step

theorem failed_keeps (c : Capability) (n : Node) (text : String) :
    Keeps T Eq (failed r c n text) (failed r' c n text) := by
  refine .get_bind fun u v _ hfailures => ?_
  rw [hfailures]
  refine .bind (.update id (fun f => f.set c (u.failures.of c + 1)) (fun _ => rfl) fun _ => rfl)
    fun _ => ?_
  refine .bind (.tell h.hears _ _) fun _ => ?_
  rw [h.failureLimit]
  exact .bind (.lift _ _) fun _ => .ite (.throw _) (.pure rfl)

theorem trying_keeps {a : Act τ ι δ σ α} {b : Act τ ι δ' σ' α} (hab : Keeps T Eq a b)
    (c : Capability) (n : Node) : Keeps T Eq (trying r c n a) (trying r' c n b) := by
  refine .bind hab.outcome fun x => ?_
  split
  · refine .bind ?_ fun _ => .pure rfl
    exact .update id (fun f => f.set c 0) (fun _ => rfl) fun _ => rfl
  · exact .throw _
  · exact .bind (failed_keeps h c n _) fun _ => .pure rfl

theorem setKey_keeps (held : Bool) : Keeps T Eq (setKey r held) (setKey r' held) := by
  refine .get_bind fun u v hstate _ => ?_
  rw [hstate, h.settings]
  refine .ite (.pure rfl) (.bind (.operate (h.serves.key held) _) fun _ => ?_)
  refine .bind (.update (fun x => { x with held }) id (fun _ => rfl) fun _ => rfl) fun _ => ?_
  exact .bind (.tell h.hears _ _) fun _ => h.pause _

theorem releaseKey_keeps : Keeps T Eq (releaseKey r) (releaseKey r') := by
  refine .get_bind fun u v hstate _ => ?_
  rw [hstate]
  refine .ite (.bind (Keeps.outcome ?_) fun _ => ?_) (.pure rfl)
  · exact .bind (.operate (h.serves.key false) _) fun _ => .tell h.hears _ _
  · exact .update (fun x => { x with held := false }) id (fun _ => rfl) fun _ => rfl

theorem sendClick_keeps (p : Point) (shift : Bool) (b : Button) :
    Keeps T Eq (sendClick r p shift b) (sendClick r' p shift b) :=
  .ite (.bind (setKey_keeps h shift) fun _ => .operate (h.serves.click _ _ _) _) (.operate (h.serves.click _ _ _) _)

theorem click_keeps (n : Node) (b : Button) : Keeps T Eq (click r n b) (click r' n b) := by
  refine .bind (.lift _ _) fun x => ?_
  refine .bind (trying_keeps h (sendClick_keeps h _ _ b) _ n) fun clicked => ?_
  exact .ite (.bind (h.pause _) fun _ => .pure rfl) (.pure rfl)

theorem recognizeAll_keeps (images : List ι) :
    Keeps T Eq (recognizeAll r images) (recognizeAll r' images) := by
  induction images with
  | nil => exact .pure rfl
  | cons image rest ih => exact .bind (.operate (h.serves.recognize image) _) fun _ => .bind ih fun _ => .pure rfl

theorem examine_keeps (sought : List Spec) (sets : List (List Reading)) :
    Keeps T Eq (examine r sought sets) (examine r' sought sets) := by
  unfold examine
  rw [h.known, h.settings, h.exclusion]
  refine .bind (.lift _ _) fun lines => .bind (Keeps.tell h.hears _ _) fun _ => ?_
  exact .bind (.lift _ _) fun _ => .bind (.lift _ _) fun _ => .pure rfl

theorem check_keeps (n : Node) : Keeps T Eq (check r n) (check r' n) := by
  unfold check
  rw [h.targets]
  refine .bind (.lift _ _) fun x => ?_
  have hcapture : Keeps T Eq (capture r x.1) (capture r' x.1) :=
    .bind (.operate (h.serves.grab _) _) fun _ => .operate (h.serves.prepare _) _
  refine .bind (trying_keeps h hcapture _ n) fun images? => ?_
  cases images? with
  | none => exact .pure rfl
  | some images =>
    refine .bind (trying_keeps h (recognizeAll_keeps h images) _ n) fun sets? => ?_
    cases sets? with
    | none => exact .pure rfl
    | some sets => exact examine_keeps h _ sets

theorem delay_keeps (n : Node) : Keeps T Eq (delay r n) (delay r' n) :=
  .bind (.lift _ _) fun _ => .bind (Keeps.tell h.hears _ _) fun _ => .bind (h.pause _) fun _ => .pure rfl

theorem execute_keeps (n : Node) : Keeps T Eq (execute r n) (execute r' n) := by
  unfold execute
  split
  · exact .bind (.tell h.hears _ _) fun _ => click_keeps h n _
  · exact .bind (.tell h.hears _ _) fun _ => click_keeps h n _
  · exact .bind (.tell h.hears _ _) fun _ => check_keeps h n
  · exact .bind (.tell h.hears _ _) fun _ => delay_keeps h n
  · exact .bind (.tell h.hears _ _) fun _ => .pure rfl

end Step

/-! ### Traversals -/

namespace Traversal

variable (g : Graph)

theorem afterCheck_keeps (n : Node) (o : StepOutcome) :
    Keeps T Eq (afterCheck r g n o) (afterCheck r' g n o) := by
  unfold afterCheck
  cases o.hit with
  | none => exact .pure rfl
  | some hit =>
    cases g.nextEdge? n.id (some Graph.onFound) with
    | none => exact .bind (.tell h.hears _ _) fun _ => .pure rfl
    | some e => exact .ite (.pure rfl) (.pure rfl)

theorem advance_keeps (n : Node) : Keeps T Eq (advance r g n) (advance r' g n) := by
  refine .bind (.note _) fun _ => ?_
  split
  · exact .pure rfl
  · refine .bind (Step.execute_keeps h n) fun o => .bind (.note _) fun _ => ?_
    exact afterCheck_keeps h g n o
  · exact .bind (.discard (Step.execute_keeps h n)) fun _ => .pure rfl

theorem walk_keeps (visited : List String) (id : String) (fuel : Nat) :
    Keeps T Eq (walk r g visited id fuel) (walk r' g visited id fuel) := by
  induction fuel generalizing visited id with
  | zero => exact .pure rfl
  | succ fuel ih =>
    unfold walk
    refine .bind h.stopAsked fun asked => .ite (.pure rfl) ?_
    cases g.node? id with
    | none => exact .bind (.tell h.hears _ _) fun _ => .pure rfl
    | some n =>
      refine .ite (.pure rfl) (.bind (advance_keeps h g n) fun turn => ?_)
      cases turn with
      | found hit => exact .pure rfl
      | next id? =>
        cases id? with
        | none => exact .pure rfl
        | some id => exact .ite (.pure rfl) (ih _ id)

theorem run_keeps (start : Option String) :
    Keeps T Eq (Traversal.run r g start) (Traversal.run r' g start) :=
  walk_keeps h g [] _ _

end Traversal

/-! ### Runs -/

namespace Run

variable (p : Plan)

theorem countAttempt_keeps (resume : Option String) :
    Keeps T Eq (countAttempt r p resume) (countAttempt r' p resume) := by
  refine .get_bind fun u v hstate _ => ?_
  rw [hstate]
  refine .bind (.update (fun x => { x with attempts := u.state.attempts + 1 }) id (fun _ => rfl)
    fun _ => rfl) fun _ => ?_
  refine .bind (.note _) fun _ => .ite ?_ (.pure rfl)
  exact .bind (.lift _ _) fun _ => .tell h.hears _ _

theorem attempt_keeps (resume : Option String) :
    Keeps T Eq (attempt r p resume) (attempt r' p resume) :=
  .bind (countAttempt_keeps h p resume) fun _ =>
    (Traversal.run_keeps h p.graph resume).followedBy (Step.releaseKey_keeps h)

theorem attemptFrom_keeps (resume : Option String) (fuel : Nat) :
    Keeps T Eq (attemptFrom r p resume fuel) (attemptFrom r' p resume fuel) := by
  induction fuel generalizing resume with
  | zero => exact .pure rfl
  | succ fuel ih =>
    unfold attemptFrom
    refine .bind h.stopAsked fun asked => .ite (.pure rfl) ?_
    refine .get_bind fun u v hstate _ => ?_
    rw [hstate]
    refine .bind (.lift _ _) fun full => .ite (.pure rfl) ?_
    refine .bind (attempt_keeps h p resume) fun traversal => ?_
    cases traversal with
    | found hit => exact .pure rfl
    | stopped => exact .pure rfl
    | resumed id => exact ih (some id)
    | ended => exact ih none

theorem startDelay_keeps : Keeps T Eq (startDelay r p) (startDelay r' p) := by
  refine .bind (.lift _ _) fun _ => .ite (.bind (.lift _ _) fun _ => ?_) (.pure rfl)
  exact .bind (.tell h.hears _ _) fun _ => h.pause _

theorem attempts_keeps : Keeps T Eq (attempts r p) (attempts r' p) :=
  .bind (startDelay_keeps h p) fun _ => attemptFrom_keeps h p none _

theorem guarded_keeps : Keeps T Eq (guarded r p) (guarded r' p) := by
  refine .bind (attempts_keeps h p).outcome fun x => ?_
  cases x with
  | ok o => exact .pure rfl
  | error f => exact .bind (.tell h.hears _ _) fun _ => .pure rfl

theorem announce_keeps (made : Int) (o : RunOutcome) :
    Keeps T Eq (announce r made o) (announce r' made o) := by
  cases o with
  | found hit => exact .bind (.tell h.hears _ _) fun _ => .tell h.hears _ _
  | exhausted => exact .tell h.hears _ _
  | stopped => exact .tell h.hears _ _
  | failed text => exact .pure rfl

theorem closing_keeps (started started' : τ) :
    Keeps T (fun x y => y.gist = x.gist) (closing r p started) (closing r' p started') := by
  refine .bind (guarded_keeps h p) fun outcome => .bind (Step.releaseKey_keeps h) fun _ => ?_
  refine .bind (.update RunState.finish id (fun _ => rfl) fun _ => rfl) fun _ => ?_
  refine .now_bind fun ended ended' => .get_bind fun u v hstate _ => ?_
  rw [hstate]
  exact .bind (announce_keeps h _ outcome) fun _ => .pure rfl

end Run

end Carries

end Reroll
