import Reroll.Proofs.Run.Ending
import Reroll.Proofs.Run.Twin

/-!
# Nobody needs to listen

Listeners that neither ask for a stop nor touch what the run watches are exchangeable: whatever they
do with an event, failures included, the runs do the same, end in the same state and give the same
(`run_ignores_listener`). The clocks of the two runs may show different times, as long as every
sleep lasts as long in both.
-/

namespace Reroll

variable {τ ι δ σ δ' σ' α β γ γ' : Type}

open Act

/-- A listener that asks for no stop and leaves the files as they are, as far as `F` tells them
apart. -/
structure Listener.Aloof (F : Files → Files → Prop) (l : Listener σ) : Prop where
  stop : ∀ e x, (l.hear e x).2.1.stop = false
  files : ∀ e x f, F f ((l.hear e x).2.1.files f)

namespace Tie

/-- Nothing puts a run past the comparison, and every deed counts. -/
def whole (signal : Option Path) (F : Files → Files → Prop) (D : δ → δ' → Prop)
    (L : σ → σ' → Prop) : Tie τ ι δ σ δ' σ' where
  signal := signal
  files := F
  devices := D
  listeners := L
  counts _ := true
  past _ := False
  past_mono h _ := h

/-- The files of both runs show the signal file alike, and it can be removed from both or neither. -/
structure Watches (T : Tie τ ι δ σ δ' σ') : Prop where
  present : ∀ p f g, T.signal = some p → T.files f g → g.isPresent p = f.isPresent p
  removed : ∀ p f g f', T.signal = some p → T.files f g → f.remove p = .ok f' →
    ∃ g', g.remove p = .ok g' ∧ T.files f' g'
  refused : ∀ p f g e, T.signal = some p → T.files f g → f.remove p = .error e →
    g.remove p = .error e

/-- Sleeping moves both clocks on alike: `since x y a b` says that as much time has passed since `a`
in the one run as since `b` in the other. Where the clocks do not show the same time, no wait may be
cut short for lack of looks at them. -/
structure Paces (T : Tie τ ι δ σ δ' σ') (since : δ → δ' → τ → τ → Prop) (d : Devices τ ι δ)
    (d' : Devices τ ι δ') : Prop where
  start : ∀ x y, T.devices x y → since x y (d.now x) (d'.now y)
  elapsed : ∀ x y a b, since x y a b → d'.time.minus (d'.now y) b = d.time.minus (d.now x) a
  influence : ∀ length x y, T.devices x y → T.Allows (d.sleep length x).1 (d'.sleep length y).1
  devices : ∀ length x y, T.devices x y → T.devices (d.sleep length x).2 (d'.sleep length y).2
  since : ∀ length x y a b, T.devices x y → since x y a b →
    since (d.sleep length x).2 (d'.sleep length y).2 a b
  looks : (∀ x y, T.devices x y → d'.now y = d.now x) ∨ d.Ticks ∧ d'.Ticks

/-- What surrounds the listeners is alike in both runs. -/
structure Surrounds (T : Tie τ ι δ σ δ' σ') (since : δ → δ' → τ → τ → Prop) (d : Devices τ ι δ)
    (d' : Devices τ ι δ') : Prop where
  files : Equivalence T.files
  watches : T.Watches
  serves : T.Serves d d'
  paces : T.Paces since d d'

/-- The tie with a time added from which on both runs have waited equally long. -/
def waiting (T : Tie τ ι δ σ δ' σ') (since : δ → δ' → τ → τ → Prop) (a b : τ) : Tie τ ι δ σ δ' σ' :=
  { T with devices := fun x y => T.devices x y ∧ since x y a b }

variable {T : Tie τ ι δ σ δ' σ'} {since : δ → δ' → τ → τ → Prop} {a b : τ}

theorem Watches.waiting (h : T.Watches) : (T.waiting since a b).Watches :=
  ⟨h.present, h.removed, h.refused⟩

theorem Watches.clear (h : T.Watches) {x : RunState} {f g : Files} (signal : x.signal = T.signal)
    (files : T.files f g) :
    (∃ f' g' log log', x.clearSignal f = .ok (f', log) ∧ x.clearSignal g = .ok (g', log') ∧
      T.files f' g') ∨ ∃ e, x.clearSignal f = .error e ∧ x.clearSignal g = .error e := by
  unfold RunState.clearSignal
  cases hp : x.signal with
  | none => exact .inl ⟨f, g, [], [], rfl, rfl, files⟩
  | some p =>
    have hsignal : T.signal = some p := signal.symm.trans hp
    cases hf : f.remove p with
    | ok f' =>
      obtain ⟨g', hg, hfiles⟩ := h.removed p f g f' hsignal files hf
      simp only [hf, hg]
      exact .inl ⟨f', g', [], [], rfl, rfl, hfiles⟩
    | error e =>
      have hg := h.refused p f g e hsignal files hf
      simp only [hf, hg]
      cases hsystem : e.isSystem with
      | true => exact .inl ⟨f, g, _, _, rfl, rfl, files⟩
      | false => exact .inr ⟨e, rfl, rfl⟩

theorem Watches.poll (h : T.Watches) {x : RunState} {f g : Files} (signal : x.signal = T.signal)
    (files : T.files f g) :
    (∃ y f' g' log log', x.poll f = .ok (y, f', log) ∧ x.poll g = .ok (y, g', log') ∧
      y.signal = x.signal ∧ T.files f' g') ∨ ∃ e, x.poll f = .error e ∧ x.poll g = .error e := by
  have hpresent : x.signalPresent g = x.signalPresent f := by
    unfold RunState.signalPresent
    cases hp : x.signal with
    | none => rfl
    | some p => exact h.present p f g (signal.symm.trans hp) files
  unfold RunState.poll
  rw [hpresent]
  by_cases hasked : x.stopRequested = true
  · simp only [hasked, ite_true]
    exact .inl ⟨x, f, g, [], [], rfl, rfl, rfl, files⟩
  · simp only [hasked]
    cases x.signalPresent f with
    | error e => exact .inr ⟨e, rfl, rfl⟩
    | ok present =>
      cases present with
      | false => exact .inl ⟨x, f, g, [], [], rfl, rfl, rfl, files⟩
      | true =>
        rcases h.clear signal files with ⟨f', g', log, log', hf, hg, hfiles⟩ | ⟨e, hf, hg⟩
        · simp only [hf, hg]
          exact .inl ⟨x.requestStop, f', g', _, _, rfl, rfl, rfl, hfiles⟩
        · simp only [hf, hg]
          exact .inr ⟨e, rfl, rfl⟩

end Tie

namespace Act

variable {T : Tie τ ι δ σ δ' σ'}

theorem Keeps.stopAsked (h : T.Watches) :
    Keeps T Eq (stopAsked : Act τ ι δ σ Bool) (stopAsked : Act τ ι δ' σ' Bool) where
  left s _ hs := T.past_mono hs (stopAsked_steady (p := fun _ => True) s).grows.stop
  right _ t ht := T.past_mono ht (stopAsked_steady (p := fun _ => True) t).grows.stop
  both s t hst := by
    refine .inr (.inr ?_)
    rw [stopAsked_apply, stopAsked_apply, hst.state]
    rcases h.poll hst.signal hst.files with ⟨y, f, g, _, _, hf, hg, hsignal, hfiles⟩ | ⟨e, hf, hg⟩
    · rw [hf, hg]
      exact ⟨rfl, hsignal.trans hst.signal, rfl, hst.failures, hfiles, hst.devices, hst.listeners,
        hst.journal⟩
    · rw [hf, hg]
      exact ⟨rfl, hst⟩

theorem Keeps.sleep {r : Rig τ ι δ σ} {r' : Rig τ ι δ' σ'} {length : τ}
    (influence : ∀ x y, T.devices x y →
      T.Allows (r.devices.sleep length x).1 (r'.devices.sleep length y).1)
    (devices : ∀ x y, T.devices x y →
      T.devices (r.devices.sleep length x).2 (r'.devices.sleep length y).2) :
    Keeps T Eq (sleep r length) (sleep r' length) where
  left s _ hs := T.past_mono hs (sleep_steady (p := fun _ => True) (fun _ _ => trivial) r _ s).grows.stop
  right _ t ht :=
    T.past_mono ht (sleep_steady (p := fun _ => True) (fun _ _ => trivial) r' _ t).grows.stop
  both s t hst := by
    have hnoted : T.Holds
        { s with devices := (r.devices.sleep length s.devices).2
                 journal := ⟨.slept length, s.state⟩ :: s.journal }
        { t with devices := (r'.devices.sleep length t.devices).2
                 journal := ⟨.slept length, t.state⟩ :: t.journal } := by
      refine ⟨hst.signal, hst.state, hst.failures, hst.files, devices _ _ hst.devices,
        hst.listeners, ?_⟩
      simp only [List.filter_cons, hst.state, hst.journal]
    exact (undergo (influence _ _ hst.devices)).both _ _ hnoted

end Act

/-! ### One and the same surroundings -/

namespace Tie

theorem allows_refl {signal : Option Path} {D : δ → δ' → Prop} {L : σ → σ' → Prop} (i : Influence) :
    (whole signal Eq D L : Tie τ ι δ σ δ' σ').Allows i i :=
  ⟨.inl rfl, fun _ _ h => congrArg i.files h⟩

/-- Devices and files that are the same surround two runs alike. -/
theorem surrounds_refl (signal : Option Path) (L : σ → σ' → Prop) (d : Devices τ ι δ) :
    (whole signal Eq Eq L : Tie τ ι δ σ δ σ').Surrounds (fun x y a b => x = y ∧ a = b) d d := by
  have hanswers : ∀ {α : Type} (op : δ → Answer α × δ),
      (whole signal Eq Eq L : Tie τ ι δ σ δ σ').Answers op op := by
    intro α op
    refine ⟨?_, ?_, ?_⟩
    · rintro x y rfl
      rfl
    · rintro x y rfl
      exact allows_refl _
    · rintro x y rfl
      rfl
  refine ⟨eq_equivalence, ⟨?_, ?_, ?_⟩, ?_, ?_⟩
  · rintro p f g - rfl
    rfl
  · rintro p f g f' - rfl hf
    exact ⟨f', hf, rfl⟩
  · rintro p f g e - rfl hf
    exact hf
  · exact ⟨rfl, fun _ _ _ => hanswers _, fun _ => hanswers _, fun _ => hanswers _,
      fun _ => hanswers _, fun _ => hanswers _⟩
  · refine ⟨fun x y h => ⟨h, congrArg d.now h⟩, ?_, ?_, ?_, ?_, .inl fun x y h => congrArg d.now h.symm⟩
    · rintro x y a b ⟨rfl, rfl⟩
      rfl
    · rintro length x y rfl
      exact allows_refl _
    · rintro length x y rfl
      rfl
    · rintro length x y a b - ⟨rfl, rfl⟩
      exact ⟨rfl, rfl⟩

end Tie

/-! ### Waits -/

section Waits

variable {T : Tie τ ι δ σ δ' σ'} {since : δ → δ' → τ → τ → Prop}
variable {r : Rig τ ι δ σ} {r' : Rig τ ι δ' σ'}
variable (never : ∀ x, ¬T.past x) (watches : T.Watches)
variable (time : r'.devices.time = r.devices.time) (paces : T.Paces since r.devices r'.devices)

namespace Delay

include never watches time paces

theorem waitFrom_keeps (watched : Bool) (poll total abortAfter a b : τ) (fuel : Nat) :
    Keeps (T.waiting since a b) Eq (waitFrom r watched poll total abortAfter a fuel)
      (waitFrom r' watched poll total abortAfter b fuel) := by
  induction fuel with
  | zero => exact .pure rfl
  | succ fuel ih =>
    have hsleep : ∀ length, Keeps (T.waiting since a b) Eq (Act.sleep r length)
        (Act.sleep r' length) := by
      intro length
      refine .sleep (fun x y hxy => ?_) fun x y hxy => ?_
      · have hallows := paces.influence length x y hxy.1
        exact ⟨hallows.stop, hallows.files⟩
      · exact ⟨paces.devices length x y hxy.1, paces.since length x y a b hxy.1 hxy.2⟩
    refine ⟨fun s _ hs => absurd hs (never _), fun _ t ht => absurd ht (never _), fun s t hst => ?_⟩
    -- the clocks may differ, so the time that has passed is read off here
    have helapsed := paces.elapsed _ _ _ _ hst.devices.2
    unfold waitFrom
    rw [bind_apply, now_apply, bind_apply, now_apply]
    dsimp only
    rw [helapsed, time]
    refine Keeps.both (T := T.waiting since a b) ?_ s t hst
    refine .ite (.pure rfl) (.ite (.bind (.stopAsked watches.waiting) fun _ => .ite (.pure rfl) ?_) ?_)
    · exact .bind (hsleep _) fun _ => ih
    · exact .bind (hsleep _) fun _ => ih

omit never watches in
/-- Both runs look at their clocks often enough, so they may be given as many looks. -/
theorem wait_looks {s : Scene τ ι δ σ} {t : Scene τ ι δ' σ'} (hst : T.Holds s t) (watched : Bool)
    (poll total abortAfter : τ) : ∃ n,
    waitFrom r watched poll total abortAfter (r.devices.now s.devices)
        (r.devices.time.rounds total (r.devices.now s.devices) + 1) s =
      waitFrom r watched poll total abortAfter (r.devices.now s.devices) n s ∧
    waitFrom r' watched poll total abortAfter (r'.devices.now t.devices)
        (r'.devices.time.rounds total (r'.devices.now t.devices) + 1) t =
      waitFrom r' watched poll total abortAfter (r'.devices.now t.devices) n t := by
  rcases paces.looks with hsame | ⟨ticks, ticks'⟩
  · refine ⟨r.devices.time.rounds total (r.devices.now s.devices) + 1, rfl, ?_⟩
    rw [hsame _ _ hst.devices, time]
  · let rounds := r.devices.time.rounds total (r.devices.now s.devices)
    let rounds' := r'.devices.time.rounds total (r'.devices.now t.devices)
    have hl : waitFrom r watched poll total abortAfter _ (rounds + 1 + rounds') s =
        waitFrom r watched poll total abortAfter _ (rounds + 1) s := waitFrom_lasts ticks s rounds'
    have hr : waitFrom r' watched poll total abortAfter _ (rounds' + 1 + rounds) t =
        waitFrom r' watched poll total abortAfter _ (rounds' + 1) t := waitFrom_lasts ticks' t rounds
    have hsame : rounds' + 1 + rounds = rounds + 1 + rounds' := by omega
    rw [hsame] at hr
    exact ⟨rounds + 1 + rounds', hl.symm, hr.symm⟩

theorem wait_keeps (m : Manner) (length : Value) : Keeps T Eq (wait r m length) (wait r' m length) := by
  have hreckoned : ∀ v, Keeps T Eq (reckoned r v) (reckoned r' v) := by
    intro v
    unfold reckoned
    rw [time]
    split
    · exact .lift _ _
    · exact .throw _
  refine .bind (.lift _ _) fun _ => .ite (.pure rfl) (.bind (.lift _ _) fun _ => ?_)
  refine .bind (hreckoned _) fun poll => .bind (hreckoned _) fun total => ?_
  refine .bind (hreckoned _) fun abortAfter => ?_
  refine ⟨fun s _ hs => absurd hs (never _), fun _ t ht => absurd ht (never _), fun s t hst => ?_⟩
  rw [bind_apply, now_apply, bind_apply, now_apply]
  dsimp only
  obtain ⟨n, hl, hr⟩ := wait_looks time paces hst m.watched poll total abortAfter
  rw [hl, hr]
  have hwaiting : (T.waiting since (r.devices.now s.devices) (r'.devices.now t.devices)).Holds s t :=
    { hst with devices := ⟨hst.devices, paces.start _ _ hst.devices⟩ }
  have hboth := (waitFrom_keeps never watches time paces m.watched poll total abortAfter _ _ n).both
    s t hwaiting
  refine hboth.imp_right (Or.imp_right (And.imp_right fun h => ?_))
  exact { h with devices := h.devices.1 }

theorem pause_keeps (settings : r'.settings = r.settings) (length : Value) :
    Keeps T Eq (pause r length) (pause r' length) := by
  unfold pause
  rw [settings]
  exact .discard (wait_keeps never watches time paces _ _)

end Delay

end Waits

/-! ### Runs -/

namespace Run

section Agree

variable {T : Tie τ ι δ σ δ' σ'} {r : Rig τ ι δ σ} {r' : Rig τ ι δ' σ'}
variable {s : Scene τ ι δ σ} {t : Scene τ ι δ' σ'}
variable (signal : s.state.signal = T.signal) (state : t.state = s.state)
variable (files : T.files s.files t.files) (devices : T.devices s.devices t.devices)
variable (listeners : T.listeners s.listener t.listener)

include signal state files devices listeners

theorem begin_agree (watches : T.Watches) (p : Plan) (journal : t.journal = s.journal) :
    (begin p t).1 = (begin p s).1 ∧ T.Holds (begin p s).2 (begin p t).2 := by
  have hsignal : s.state.begin.signal = T.signal := signal
  have hjournal := congrArg (List.filter (T.counts ·.deed)) journal
  rw [begin_apply, begin_apply, state]
  rcases watches.clear hsignal files with ⟨f, g, _, _, hf, hg, hfiles⟩ | ⟨e, hf, hg⟩
  · rw [hf, hg]
    exact ⟨rfl, signal, rfl, rfl, hfiles, devices, listeners, hjournal⟩
  · rw [hf, hg]
    exact ⟨rfl, signal, rfl, rfl, files, devices, listeners, hjournal⟩

theorem runValid_agree (never : ∀ x, ¬T.past x) (watches : T.Watches) (h : T.Carries r r')
    (p : Plan) (journal : t.journal = s.journal) :
    Agree (fun x y => y.gist = x.gist) (runValid r p s).1 (runValid r' p t).1 ∧
      T.Holds (runValid r p s).2 (runValid r' p t).2 := by
  obtain ⟨hresult, hholds⟩ :=
    begin_agree signal state files devices listeners watches p journal
  rw [runValid_closing, runValid_closing, bind_apply, now_apply, bind_apply, now_apply]
  dsimp only
  rw [bind_apply, bind_apply]
  generalize begin p s = x at hresult hholds
  generalize begin p t = y at hresult hholds
  obtain ⟨x, u⟩ := x
  obtain ⟨y, v⟩ := y
  obtain rfl : y = x := hresult
  cases y with
  | error f => exact ⟨rfl, hholds⟩
  | ok _ =>
    have hclosing := closing_keeps h p (r.devices.now s.devices) (r'.devices.now t.devices)
    rcases hclosing.both u v hholds with hpast | hpast | hagree
    · exact absurd hpast (never _)
    · exact absurd hpast (never _)
    · exact hagree

/-- Two runs that no stop tells apart, compared from their starts to their ends. -/
theorem run_agree (never : ∀ x, ¬T.past x) (watches : T.Watches) (p : Plan)
    (h : T.Carries (rigFor r p) (rigFor r' p)) :
    (run r' p t).1.map RunResult.gist = (run r p s).1.map RunResult.gist ∧
      (run r p s).2.state.signal = T.signal ∧ (run r' p t).2.state = (run r p s).2.state ∧
      (run r' p t).2.journal.filter (T.counts ·.deed) =
        (run r p s).2.journal.filter (T.counts ·.deed) := by
  unfold run
  cases hproblems : p.graph.problems with
  | cons problem rest => exact ⟨rfl, signal, state, rfl⟩
  | nil =>
    dsimp only
    obtain ⟨hagree, hholds⟩ := runValid_agree (s := { s with journal := [] })
      (t := { t with journal := [] }) signal state files devices listeners never watches h p rfl
    exact ⟨hagree.map_eq _, hholds.signal, hholds.state, hholds.journal⟩

end Agree

/-- A listener that writes every event to a file, counts it and then fails. -/
def grumbling : Listener Nat where
  hear e n := (some "no space left",
    { files := fun f => ((f.write (.ofText "events.log") e.message.toUTF8).toOption).getD f }, n + 1)

/-- The clock of the second run is a minute ahead. -/
theorem blindfold_surrounds :
    (Tie.whole none (fun _ _ => True) (fun _ _ => True) fun (_ : Unit) (_ : Nat) => True).Surrounds
      (fun x y a b => x - a = y - b) blindfold blindfold := by
  refine ⟨⟨fun _ => trivial, fun _ => trivial, fun _ _ => trivial⟩, ⟨?_, ?_, ?_⟩, ?_, ?_⟩
  · exact fun _ _ _ h => nomatch h
  · exact fun _ _ _ _ h => nomatch h
  · exact fun _ _ _ _ h => nomatch h
  · have hanswers : ∀ {α : Type} (a : Answer α),
        (Tie.whole none (fun _ _ => True) (fun _ _ => True) fun (_ : Unit) (_ : Nat) => True :
          Tie Int String Int Unit Int Nat).Answers (fun x => (a, x)) (fun x => (a, x)) :=
      fun a => ⟨fun _ _ _ => rfl, fun _ _ _ => ⟨.inl rfl, fun _ _ _ => trivial⟩, fun _ _ _ => trivial⟩
    exact ⟨rfl, fun _ _ _ => hanswers _, fun _ => hanswers _, fun _ => hanswers _,
      fun _ => hanswers _, fun _ => hanswers _⟩
  · refine ⟨fun x y _ => ?_, fun x y a b h => h.symm, fun _ _ _ _ => ⟨.inl rfl, fun _ _ _ => trivial⟩,
      fun _ _ _ _ => trivial, fun length x y a b _ h => ?_, .inr ⟨blindfold_ticks, blindfold_ticks⟩⟩
    · change x - x = y - y
      omega
    · change x + max 1 length - a = y + max 1 length - b
      omega

end Run

end Reroll
