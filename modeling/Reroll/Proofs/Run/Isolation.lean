import Reroll.Proofs.Files.Place
import Reroll.Proofs.Run.Listener
import Reroll.Proofs.Run.Stop
import Reroll.Run.Crafter

/-!
# Runs leave nothing behind

Whatever a crafter has been through, runs of any outcome and requests that came while it was idle,
its next run does and gives the same as a run of a crafter that is new (`run_isolated`). A run that
has ended left the state at rest (`Crafter.Lived.rested`), and the next one resets the rest of it.
-/

namespace Reroll

variable {τ ι δ σ δ' σ' α β γ γ' : Type}

open Act

def Deed.isSleep : Deed τ ι → Bool
  | .slept _ => true
  | _ => false

namespace Tie

/-- The runs do the same until a stop is asked for, however often they sleep. -/
def unstopped (signal : Option Path) (D : δ → δ' → Prop) : Tie τ ι δ σ δ' σ' where
  signal := signal
  files _ _ := True
  devices := D
  listeners _ _ := True
  counts d := !d.isSleep
  past x := x.stopRequested = true
  past_mono h hmono := hmono h

/-- A sleep of either run leaves the devices of both related. -/
structure Naps (D : δ → δ' → Prop) (d : Devices τ ι δ) (d' : Devices τ ι δ') : Prop where
  left : ∀ length x y, D x y → D (d.sleep length x).2 y
  right : ∀ length x y, D x y → D x (d'.sleep length y).2

theorem unstopped_allows {signal : Option Path} {D : δ → δ' → Prop} (i j : Influence) :
    (unstopped signal D : Tie τ ι δ σ δ' σ').Allows i j :=
  ⟨.inr fun _ => rfl, fun _ _ _ => trivial⟩

end Tie

/-! ### Waits -/

/-- Nothing but sleeping is done: the state is as before unless a stop was seen, and `P` still holds
of the devices. -/
structure Scene.Dozed (P : δ → Prop) (s t : Scene τ ι δ σ) : Prop where
  state : t.state.stopRequested = true ∨ t.state = s.state
  failures : t.failures = s.failures
  listener : t.listener = s.listener
  devices : P s.devices → P t.devices
  journal : t.journal.filter (!·.deed.isSleep) = s.journal.filter (!·.deed.isSleep)

instance (P : δ → Prop) : IsPreorder (Scene τ ι δ σ) (Scene.Dozed P) where
  refl _ := ⟨.inr rfl, rfl, rfl, id, rfl⟩
  trans _ _ _ h k := by
    refine ⟨?_, k.failures.trans h.failures, k.listener.trans h.listener, k.devices ∘ h.devices,
      k.journal.trans h.journal⟩
    rcases k.state with hstop | hstate
    · exact .inl hstop
    · rw [hstate]
      exact h.state

theorem RunState.poll_taken {x : RunState} (taken : ∀ p, x.signal = some p → Files.Taken p)
    (files : Files) : ∃ y, x.poll files = .ok y := by
  have hpresent : ∃ b, x.signalPresent files = .ok b := by
    unfold signalPresent
    cases hp : x.signal with
    | none => exact ⟨false, rfl⟩
    | some p => exact Files.isPresent_taken (taken p hp) files
  obtain ⟨⟨cleared, log⟩, hclear⟩ := clearSignal_ok (fun p hp => (taken p hp).plain) files
  obtain ⟨b, hb⟩ := hpresent
  unfold RunState.poll
  rw [hb, hclear]
  cases x.stopRequested <;> cases b <;> exact ⟨_, rfl⟩

namespace Act

theorem stopAsked_dozed (P : δ → Prop) :
    Within (Scene.Dozed P) (stopAsked : Act τ ι δ σ Bool) := by
  intro s
  rw [stopAsked_apply]
  cases h : s.state.poll s.files with
  | error e => exact refl_of (Scene.Dozed P) s
  | ok x =>
    obtain ⟨state, files, log⟩ := x
    refine ⟨?_, rfl, rfl, id, rfl⟩
    rcases RunState.poll_state h with rfl | rfl
    · exact .inr rfl
    · exact .inl rfl

theorem sleep_dozed {P : δ → Prop} {r : Rig τ ι δ σ}
    (sleeps : ∀ length x, P x → P (r.devices.sleep length x).2) (length : τ) :
    Within (Scene.Dozed P) (sleep r length) := by
  intro s
  have hstate : (sleep r length s).2.state =
      if (r.devices.sleep length s.devices).1.stop then s.state.requestStop else s.state := rfl
  refine ⟨?_, rfl, rfl, sleeps length s.devices, rfl⟩
  rw [hstate]
  split
  · exact .inl rfl
  · exact .inr rfl

variable {signal : Option Path} (taken : ∀ p, signal = some p → Files.Taken p)

include taken

/-- The signal file can be looked for whatever has become of it. -/
theorem stopAsked_meets : Meets (fun s : Scene τ ι δ σ => s.state.signal = signal) stopAsked
    (fun _ s => s.state.signal = signal) (fun _ _ => False) := by
  intro s hs
  rw [stopAsked_apply]
  obtain ⟨⟨state, files, log⟩, hpoll⟩ := RunState.poll_taken (x := s.state)
    (fun p hp => taken p (hs.symm.trans hp)) s.files
  rw [hpoll]
  rcases RunState.poll_state hpoll with rfl | rfl
  · exact hs
  · exact hs

theorem waitFrom_meets (r : Rig τ ι δ σ) (watched : Bool) (poll total abortAfter started : τ)
    (fuel : Nat) : Meets (fun s => s.state.signal = signal)
      (Delay.waitFrom r watched poll total abortAfter started fuel)
      (fun _ s => s.state.signal = signal) (fun _ _ => False) := by
  have hsleep : ∀ length, Meets (fun s => s.state.signal = signal) (sleep r length)
      (fun _ s => s.state.signal = signal) (fun _ _ => False) := by
    intro length s hs
    change (if (r.devices.sleep length s.devices).1.stop then s.state.requestStop
      else s.state).signal = signal
    split
    · exact hs
    · exact hs
  exact Delay.waitFrom_meets (stopAsked_meets taken) hsleep _ _ _ _ _ _

end Act

namespace Delay

section Waits

variable {signal : Option Path} {D : δ → δ' → Prop} {r : Rig τ ι δ σ} {r' : Rig τ ι δ' σ'}
variable (taken : ∀ p, signal = some p → Files.Taken p)
variable (naps : Tie.Naps D r.devices r'.devices)

include taken naps

/-- The waits may end differently and at different times, but both just sleep. -/
theorem waitFrom_unstopped (watched : Bool) (poll total abortAfter a b : τ) (n m : Nat) :
    Keeps (Tie.unstopped signal D) (fun _ _ => True)
      (waitFrom r watched poll total abortAfter a n)
      (waitFrom r' watched poll total abortAfter b m) := by
  have hdozed : ∀ s y, Scene.Dozed (D · y) s (waitFrom r watched poll total abortAfter a n s).2 :=
    fun s y => waitFrom_within (stopAsked_dozed _)
      (sleep_dozed fun length x h => naps.left length x y h) _ _ _ _ _ n s
  have hdozed' : ∀ t x, Scene.Dozed (D x) t (waitFrom r' watched poll total abortAfter b m t).2 :=
    fun t x => waitFrom_within (stopAsked_dozed _)
      (sleep_dozed fun length y h => naps.right length x y h) _ _ _ _ _ m t
  refine ⟨fun s t hs => ?_, fun s t ht => ?_, fun s t hst => ?_⟩
  · rcases (hdozed s t.devices).state with hstop | hstate
    · exact hstop
    · rw [hstate]
      exact hs
  · rcases (hdozed' t s.devices).state with hstop | hstate
    · exact hstop
    · rw [hstate]
      exact ht
  · have hok := Act.waitFrom_meets taken r watched poll total abortAfter a n s hst.signal
    have hok' := Act.waitFrom_meets taken r' watched poll total abortAfter b m t
      ((congrArg RunState.signal hst.state).trans hst.signal)
    have hleft := hdozed s t.devices
    have hright := hdozed' t (waitFrom r watched poll total abortAfter a n s).2.devices
    generalize waitFrom r watched poll total abortAfter a n s = x at hok hleft hright ⊢
    generalize waitFrom r' watched poll total abortAfter b m t = y at hok' hright ⊢
    obtain ⟨_ | v, u⟩ := x
    · exact hok.elim
    obtain ⟨_ | w, z⟩ := y
    · exact hok'.elim
    rcases hleft.state with hstop | hstate
    · exact .inl hstop
    rcases hright.state with hstop | hstate'
    · exact .inr (.inl hstop)
    refine .inr (.inr ⟨trivial, hok, ?_, ?_, trivial, ?_, trivial, ?_⟩)
    · rw [hstate', hst.state]
      exact hstate.symm
    · exact hright.failures.trans (hst.failures.trans hleft.failures.symm)
    · exact hright.devices (hleft.devices hst.devices)
    · exact hright.journal.trans (hst.journal.trans hleft.journal.symm)

theorem pause_unstopped (time : r'.devices.time = r.devices.time)
    (settings : r'.settings = r.settings) (length : Value) :
    Keeps (Tie.unstopped signal D) Eq (pause r length) (pause r' length) := by
  have hreckoned : ∀ v, Keeps (Tie.unstopped signal D) Eq (reckoned r v) (reckoned r' v) := by
    intro v
    unfold reckoned
    rw [time]
    split
    · exact .lift _ _
    · exact .throw _
  unfold pause
  rw [settings]
  refine .discard (V := fun _ _ => True) ?_
  refine .bind (.lift _ _) fun _ => .ite (.pure trivial) (.bind (.lift _ _) fun _ => ?_)
  refine .bind (hreckoned _) fun poll => .bind (hreckoned _) fun total => ?_
  refine .bind (hreckoned _) fun abortAfter => .now_bind fun started started' => ?_
  exact waitFrom_unstopped taken naps _ _ _ _ _ _ _ _

end Waits

end Delay

/-! ### Runs -/

namespace Run

section Alike

variable {signal : Option Path} {D : δ → δ' → Prop} {r : Rig τ ι δ σ} {r' : Rig τ ι δ' σ'}
variable {s : Scene τ ι δ σ} {t : Scene τ ι δ' σ'}
variable (taken : ∀ p, signal = some p → Files.Taken p)

include taken

theorem stopAsked_unstopped :
    Keeps (Tie.unstopped signal D) Eq (stopAsked : Act τ ι δ σ Bool)
      (stopAsked : Act τ ι δ' σ' Bool) where
  left s _ hs := (stopAsked_steady (p := fun _ => True) s).grows.stop hs
  right _ t ht := (stopAsked_steady (p := fun _ => True) t).grows.stop ht
  both s t hst := by
    have hsignal : t.state.signal = signal := (congrArg RunState.signal hst.state).trans hst.signal
    obtain ⟨⟨x, f, _⟩, hs⟩ := RunState.poll_taken (x := s.state)
      (fun p hp => taken p (hst.signal.symm.trans hp)) s.files
    obtain ⟨⟨y, g, _⟩, ht⟩ := RunState.poll_taken (x := t.state)
      (fun p hp => taken p (hsignal.symm.trans hp)) t.files
    rw [stopAsked_apply, stopAsked_apply, hs, ht]
    rcases RunState.poll_state hs with rfl | rfl
    · rcases RunState.poll_state ht with rfl | rfl
      · exact .inr (.inr ⟨congrArg RunState.stopRequested hst.state.symm, { hst with files := trivial }⟩)
      · exact .inr (.inl rfl)
    · exact .inl rfl

/-- Two runs start alike where the signal file can be removed: what an earlier run left of the state
is reset. -/
theorem begin_unstopped (p : Plan) (held : s.state.held = false) (held' : t.state.held = false)
    (hsignal : s.state.signal = signal) (hsignal' : t.state.signal = signal)
    (devices : D s.devices t.devices) (journal : t.journal = s.journal) :
    (begin p t).1 = (begin p s).1 ∧ (Tie.unstopped signal D).Holds (begin p s).2 (begin p t).2 := by
  have hstate : t.state.begin = s.state.begin := by
    unfold RunState.begin
    rw [held, held', hsignal, hsignal']
  obtain ⟨⟨f, _⟩, hf⟩ := RunState.clearSignal_ok (s := s.state.begin)
    (fun p hp => (taken p (hsignal.symm.trans hp)).plain) s.files
  obtain ⟨⟨g, _⟩, hg⟩ := RunState.clearSignal_ok (s := t.state.begin)
    (fun p hp => (taken p (hsignal'.symm.trans hp)).plain) t.files
  rw [begin_apply, begin_apply, hf, hg]
  refine ⟨rfl, hsignal, hstate, rfl, trivial, devices, trivial, ?_⟩
  exact congrArg (List.filter _) journal

theorem runValid_unstopped (p : Plan) (carries : (Tie.unstopped signal D).Carries r r')
    (held : s.state.held = false) (held' : t.state.held = false)
    (hsignal : s.state.signal = signal) (hsignal' : t.state.signal = signal)
    (devices : D s.devices t.devices) (journal : t.journal = s.journal) :
    (runValid r p s).2.state.stopRequested = true ∨ (runValid r' p t).2.state.stopRequested = true ∨
      Agree (fun x y => y.gist = x.gist) (runValid r p s).1 (runValid r' p t).1 ∧
        (Tie.unstopped signal D).Holds (runValid r p s).2 (runValid r' p t).2 := by
  obtain ⟨hresult, hholds⟩ :=
    begin_unstopped taken p held held' hsignal hsignal' devices journal
  rw [runValid_closing, runValid_closing, bind_apply, now_apply, bind_apply, now_apply]
  dsimp only
  rw [bind_apply, bind_apply]
  generalize begin p s = x at hresult hholds
  generalize begin p t = y at hresult hholds
  obtain ⟨x, u⟩ := x
  obtain ⟨y, v⟩ := y
  obtain rfl : y = x := hresult
  cases y with
  | error f => exact .inr (.inr ⟨rfl, hholds⟩)
  | ok _ => exact (closing_keeps carries p _ _).both u v hholds

end Alike

/-- No stop is asked for while the run is under way: one that is pending in the end was pending when
it began. -/
def Undisturbed (p : Plan) (s t : Scene τ ι δ σ) : Prop :=
  t.state.stopRequested = true → (opening p s).Pending

/-- The signal file, if there is one to watch for, can be removed. -/
def Unlinkable (signal : Option Path) (files : Files) : Prop :=
  ∀ path, signal = some path →
    Files.Taken path ∧ files.hasHome = true ∧ ∃ g, files.remove path = .ok g

/-- Earlier requests are dropped when a run begins, and so is the signal file. -/
theorem opening_quiet {p : Plan} {s : Scene τ ι δ σ} (h : Unlinkable s.state.signal s.files) :
    ¬(opening p s).Pending := by
  have habsent : ∀ f log, s.state.begin.clearSignal s.files = .ok (f, log) →
      s.state.begin.signalPresent f = .ok false := by
    intro f log hf
    unfold RunState.clearSignal at hf
    unfold RunState.signalPresent
    cases hp : s.state.begin.signal with
    | none => rfl
    | some path =>
      obtain ⟨-, hhome, g, hg⟩ := h path hp
      rw [hp] at hf
      simp only [hg] at hf
      cases hf
      exact Files.remove_absent hhome hg
  have hplain : ∀ path, s.state.begin.signal = some path → path.hasNul = false :=
    fun path hp => (h path hp).1.plain
  obtain ⟨⟨f, log⟩, hf⟩ := RunState.clearSignal_ok hplain s.files
  unfold opening Scene.Pending
  rw [begin_apply, hf]
  rintro (hasked | hpresent)
  · cases hasked
  · rw [habsent f log hf] at hpresent
    cases hpresent

/-- A run keeps watching for one file. -/
theorem run_signal (r : Rig τ ι δ σ) (p : Plan) (s : Scene τ ι δ σ) :
    (run r p s).2.state.signal = s.state.signal := by
  let T : Tie τ ι δ σ δ σ := .whole s.state.signal Eq Eq Eq
  have hnever : ∀ x, ¬T.past x := fun _ h => h
  obtain ⟨-, watches, serves, paces⟩ : T.Surrounds _ r.devices r.devices :=
    Tie.surrounds_refl s.state.signal Eq r.devices
  have hhears : T.Hears r.listener r.listener := by
    refine ⟨?_, ?_⟩
    · rintro e x y rfl
      exact Tie.allows_refl _
    · rintro e x y rfl
      rfl
  have hcarries : T.Carries (rigFor r p) (rigFor r p) :=
    { settings := rfl, exclusion := rfl, known := rfl, targets := rfl, failureLimit := rfl
      serves
      hears := hhears
      stopAsked := .stopAsked watches
      pause := Delay.pause_keeps hnever watches serves.time paces rfl }
  exact (run_agree rfl rfl rfl rfl rfl hnever watches p hcarries).2.1

/-- A run that gives a result has left its state at rest. -/
theorem run_rests {r : Rig τ ι δ σ} {p : Plan} {s : Scene τ ι δ σ} {x : RunResult}
    (h : (run r p s).1 = .ok x) :
    (run r p s).2.state.running = false ∧ (run r p s).2.state.held = false := by
  have hsound : p.graph.problems = [] := by
    by_contra hproblems
    rw [run_unsound hproblems] at h
    cases h
  by_cases hbegins : Begins p s
  · obtain ⟨y, t, hrun, hclosed⟩ := run_closed (r := r) hsound hbegins
    rw [hrun]
    exact ⟨hclosed.running, hclosed.held⟩
  · obtain ⟨f, b, hfails, -⟩ := begin_fails (p := p) (s := { s with journal := [] })
      fun h => hbegins ⟨h.limit, h.signal⟩
    rw [run_sound hsound, runValid_closing, bind_apply, now_apply] at h
    dsimp only at h
    rw [bind_apply, hfails] at h
    cases h

/-- Runs of one plan, started with the key up, do and give the same until a stop is asked for. -/
theorem run_unstopped {signal : Option Path} {D : δ → δ' → Prop} {r : Rig τ ι δ σ}
    {r' : Rig τ ι δ' σ'} {s : Scene τ ι δ σ} {t : Scene τ ι δ' σ'}
    (taken : ∀ path, signal = some path → Files.Taken path) (p : Plan)
    (carries : (Tie.unstopped signal D).Carries (rigFor r p) (rigFor r' p))
    (held : s.state.held = false) (held' : t.state.held = false)
    (hsignal : s.state.signal = signal) (hsignal' : t.state.signal = signal)
    (devices : D s.devices t.devices) (quiet : (run r p s).2.state.stopRequested ≠ true)
    (quiet' : (run r' p t).2.state.stopRequested ≠ true) :
    (run r' p t).1.map RunResult.gist = (run r p s).1.map RunResult.gist ∧
      (run r' p t).2.journal.filter (!·.deed.isSleep) =
        (run r p s).2.journal.filter (!·.deed.isSleep) := by
  by_cases hsound : p.graph.problems = []
  · rw [run_sound hsound] at quiet quiet' ⊢
    rw [run_sound hsound]
    rcases runValid_unstopped (s := { s with journal := [] }) (t := { t with journal := [] }) taken p
      carries held held' hsignal hsignal' devices rfl with hstop | hstop | ⟨hagree, hholds⟩
    · exact absurd hstop quiet
    · exact absurd hstop quiet'
    · exact ⟨hagree.map_eq _, hholds.journal⟩
  · rw [run_unsound hsound, run_unsound hsound]
    exact ⟨rfl, rfl⟩

end Run

/-! ### Crafters -/

namespace Crafter

/-- Nothing has happened to the state yet. -/
def IsNew (signal : Option Path) (s : Session τ ι δ σ) : Prop := s.scene.state = { signal }

/-- What a crafter can have been through: runs that gave a result or were turned down for their
graphs, requests for a stop while it was idle, and whatever else became of the files and the devices
in the meantime. -/
inductive Lived (c : Crafter τ ι δ σ) (start : Session τ ι δ σ) : Session τ ι δ σ → Prop
  | new : Lived c start start
  | ran {s : Session τ ι δ σ} {p : Plan} {x : RunResult} :
      Lived c start s → (c.run p s).1 = .ok x → Lived c start (c.run p s).2
  | rejected {s : Session τ ι δ σ} {p : Plan} {problems : List GraphProblem} :
      Lived c start s → (c.run p s).1 = .error (.run (.graph problems)) →
      Lived c start (c.run p s).2
  | asked {s : Session τ ι δ σ} : Lived c start s → Lived c start (requestStop s)
  | passed {s : Session τ ι δ σ} (files : Files → Files) (devices : δ → δ) : Lived c start s →
      Lived c start { s with scene := { s.scene with
        files := files s.scene.files, devices := devices s.scene.devices } }

/-- Between runs nothing is running and the key is up. -/
structure Rested (signal : Option Path) (s : Session τ ι δ σ) : Prop where
  running : s.scene.state.running = false
  held : s.scene.state.held = false
  signal : s.scene.state.signal = signal

theorem IsNew.rested {signal : Option Path} {s : Session τ ι δ σ} (h : IsNew signal s) :
    Rested signal s := by
  constructor <;> rw [show s.scene.state = { signal } from h]

variable {c : Crafter τ ι δ σ} {start s : Session τ ι δ σ} {signal : Option Path}

theorem run_rested (fetches : c.fetches = false) (h : Rested signal s) (p : Plan) :
    c.run p s = ((Run.run c.rig p s.scene).1.mapError .run,
      { s with scene := (Run.run c.rig p s.scene).2 }) := by
  have hequip : c.equip p s = (.ok p, s) := by
    unfold equip
    simp only [fetches, Bool.and_false, Bool.false_eq_true, ite_false]
  unfold run
  rw [h.running, hequip]
  rfl

theorem Lived.rested (fetches : c.fetches = false) (new : IsNew signal start)
    (h : c.Lived start s) : Rested signal s := by
  induction h with
  | new => exact new.rested
  | @ran s p x _ hrun ih =>
    rw [run_rested fetches ih] at hrun ⊢
    obtain ⟨y, hy⟩ : ∃ y, (Run.run c.rig p s.scene).1 = .ok y := by
      cases hresult : (Run.run c.rig p s.scene).1 with
      | error e =>
        rw [hresult] at hrun
        cases hrun
      | ok y => exact ⟨y, rfl⟩
    obtain ⟨hrunning, hheld⟩ := Run.run_rests hy
    exact ⟨hrunning, hheld, (Run.run_signal _ _ _).trans ih.signal⟩
  | @rejected s p problems _ hrun ih =>
    rw [run_rested fetches ih] at hrun ⊢
    have hunsound : p.graph.problems ≠ [] := by
      intro hsound
      rw [Run.run_sound hsound] at hrun
      dsimp only at hrun
      generalize (Run.runValid (Run.rigFor c.rig p) p { s.scene with journal := [] }).1 = y at hrun
      cases y <;> cases hrun
    rw [Run.run_unsound hunsound]
    exact ⟨ih.running, ih.held, ih.signal⟩
  | asked _ ih => exact ⟨ih.running, ih.held, ih.signal⟩
  | passed files devices _ ih => exact ⟨ih.running, ih.held, ih.signal⟩

/-- Runs are isolated from each other: what a crafter has been through makes no difference to its
next run, compared to a new crafter whose devices answer the same. Only stops that are asked for
during one of these runs and not during the other can tell them apart. -/
theorem run_isolated {D : δ → δ' → Prop} (c : Crafter τ ι δ σ) (d' : Devices τ ι δ')
    (l' : Listener σ') (start used : Session τ ι δ σ) (fresh : Session τ ι δ' σ') (p : Plan)
    (fetches : c.fetches = false) (new : IsNew signal start) (lived : c.Lived start used)
    (new' : IsNew signal fresh)
    (serves : (Tie.unstopped signal D : Tie τ ι δ σ δ' σ').Serves c.rig.devices d')
    (naps : Tie.Naps D c.rig.devices d') (devices : D used.scene.devices fresh.scene.devices)
    (unlinkable : Run.Unlinkable signal used.scene.files)
    (unlinkable' : Run.Unlinkable signal fresh.scene.files) :
    let c' : Crafter τ ι δ' σ' :=
      { c with rig := { c.rig with devices := d', listener := l' } }
    Run.Undisturbed p used.scene (c.run p used).2.scene →
    Run.Undisturbed p fresh.scene (c'.run p fresh).2.scene →
      (c'.run p fresh).1.map RunResult.gist = (c.run p used).1.map RunResult.gist ∧
      (c'.run p fresh).2.scene.journal.filter (!·.deed.isSleep) =
        (c.run p used).2.scene.journal.filter (!·.deed.isSleep) := by
  intro c' undisturbed undisturbed'
  have hrested := lived.rested fetches new
  have hrested' := new'.rested
  have htaken : ∀ path, signal = some path → Files.Taken path :=
    fun path hpath => (unlinkable path hpath).1
  have hcarries : (Tie.unstopped signal D).Carries (Run.rigFor c.rig p) (Run.rigFor c'.rig p) :=
    { settings := rfl, exclusion := rfl, known := rfl, targets := rfl, failureLimit := rfl
      serves
      hears := ⟨fun _ _ _ _ => Tie.unstopped_allows _ _, fun _ _ _ _ => trivial⟩
      stopAsked := Run.stopAsked_unstopped htaken
      pause := Delay.pause_unstopped htaken naps serves.time rfl }
  rw [run_rested fetches hrested] at undisturbed ⊢
  rw [run_rested (c := c') fetches hrested'] at undisturbed' ⊢
  have hquiet := Run.opening_quiet (p := p) (s := used.scene) (by rw [hrested.signal]; exact unlinkable)
  have hquiet' := Run.opening_quiet (p := p) (s := fresh.scene)
    (by rw [hrested'.signal]; exact unlinkable')
  obtain ⟨hresult, hjournal⟩ := Run.run_unstopped htaken p hcarries hrested.held hrested'.held
    hrested.signal hrested'.signal devices (fun h => hquiet (undisturbed h))
    fun h => hquiet' (undisturbed' h)
  have hmap : ∀ x : Except RunError RunResult,
      (x.mapError Refusal.run).map RunResult.gist = (x.map RunResult.gist).mapError Refusal.run := by
    intro x
    cases x <;> rfl
  refine ⟨?_, hjournal⟩
  rw [hmap, hmap, hresult]

/-! ### A crafter with a past -/

/-- A crafter whose devices see nothing. -/
def blind : Crafter Int String Int Unit where
  rig := Run.blindRig
  replies _ := .failure "ConnectError"

/-- The file that stops it. -/
def stopFile : Path := .ofText "stop.signal"

def untouched (devices : Int) : Session Int String Int Unit where
  scene := { Run.blindScene with state := { signal := some stopFile }, devices }

/-- The session after a run that was exhausted; then a stop was asked for, and the signal file was
written as well. -/
def weathered : Session Int String Int Unit :=
  let s := requestStop (blind.run Run.patient (untouched 0)).2
  { s with scene := { s.scene with
    files := ((s.scene.files.write stopFile "stop".toUTF8).toOption).getD s.scene.files
    devices := s.scene.devices + 86400000 } }

theorem weathered_lived : blind.Lived (untouched 0) weathered := by
  obtain ⟨x, hx⟩ : ∃ x, (blind.run Run.patient (untouched 0)).1 = .ok x := by
    have hok : (blind.run Run.patient (untouched 0)).1.isOk = true := by decide +kernel
    cases hresult : (blind.run Run.patient (untouched 0)).1 with
    | error e =>
      rw [hresult] at hok
      cases hok
    | ok x => exact ⟨x, rfl⟩
  exact .passed (fun f => ((f.write stopFile "stop".toUTF8).toOption).getD f) (· + 86400000)
    (.asked (.ran .new hx))

theorem stopFile_taken : Files.Taken stopFile :=
  ⟨by decide +kernel, by decide +kernel, by decide +kernel⟩

theorem weathered_isolated :
    weathered.scene.state.stopRequested = true ∧
    weathered.scene.files.isPresent stopFile = .ok true ∧
    (blind.run Run.patient (untouched 7)).1.map RunResult.gist =
      (blind.run Run.patient weathered).1.map RunResult.gist ∧
    (blind.run Run.patient weathered).1.toOption.map (fun x => x.attempts) = some 3 := by
  have hanswers : ∀ {α : Type} (a : Answer α),
      (Tie.unstopped (some stopFile) (fun _ _ => True) : Tie Int String Int Unit Int Unit).Answers
        (fun x => (a, x)) (fun x => (a, x)) := fun a =>
    ⟨fun _ _ _ => rfl, fun _ _ _ => Tie.unstopped_allows _ _, fun _ _ _ => trivial⟩
  have hunlinkable : ∀ files : Files, files.hasHome = true → (files.remove stopFile).isOk = true →
      Run.Unlinkable (some stopFile) files := by
    rintro files hhome hremove path ⟨⟩
    refine ⟨stopFile_taken, hhome, ?_⟩
    cases hg : files.remove stopFile with
    | error e =>
      rw [hg] at hremove
      cases hremove
    | ok g => exact ⟨g, rfl⟩
  have hisolated := run_isolated (D := fun _ _ => True) blind Run.blindfold .silent (untouched 0)
    weathered (untouched 7) Run.patient rfl rfl weathered_lived rfl
    ⟨rfl, fun _ _ _ => hanswers _, fun _ => hanswers _, fun _ => hanswers _, fun _ => hanswers _,
      fun _ => hanswers _⟩
    ⟨fun _ _ _ _ => trivial, fun _ _ _ _ => trivial⟩ trivial
    (hunlinkable _ (by decide +kernel) (by decide +kernel))
    (hunlinkable _ (by decide +kernel) (by decide +kernel))
    (fun hasked => absurd hasked (by decide +kernel))
    (fun hasked => absurd hasked (by decide +kernel))
  exact ⟨by decide +kernel, by decide +kernel, hisolated.1, by decide +kernel⟩

end Crafter

end Reroll
