import Reroll.Proofs.Run.Course
import Reroll.Proofs.Run.Trial

/-!
# How runs end

A run that begins comes to an end, and what it gives agrees with what it did: its attempts are the
traversals it started, at most as many as the limit allows, and nothing is held or running
afterwards (`run_accounts`). A run that does not begin, for its signal file or its limit, ends with
a fault and leaves the key and the running flag as they are then.
-/

namespace Reroll

variable {τ ι δ σ α β : Type}

open Scene Act

theorem Act.bind_congr {a : Act τ ι δ σ α} {f g : α → Act τ ι δ σ β} {s : Scene τ ι δ σ}
    (h : ∀ v t, a s = (.ok v, t) → f v t = g v t) : (a >>= f) s = (a >>= g) s := by
  rw [bind_apply, bind_apply]
  rcases ha : a s with ⟨_ | v, t⟩
  · rfl
  · exact h v t ha

theorem Act.now_apply (r : Rig τ ι δ σ) (s : Scene τ ι δ σ) :
    now r s = (.ok (r.devices.now s.devices), s) := rfl

/-! ### Waits -/

/-- Every sleep brings a wait nearer to its end, and the reckoning has rounds for all of it. -/
def Devices.Ticks (d : Devices τ ι δ) : Prop :=
  ∃ left : τ → τ → δ → Nat,
    (∀ total x, left total (d.now x) x ≤ d.time.rounds total (d.now x)) ∧
    ∀ total started length x, d.time.atMost total (d.time.minus (d.now x) started) = false →
      left total started (d.sleep length x).2 < left total started x

theorem Act.stopAsked_devices (s : Scene τ ι δ σ) :
    (stopAsked s : Except Fault Bool × _).2.devices = s.devices := by
  rw [stopAsked_apply]
  cases s.state.poll s.files with
  | error e => rfl
  | ok x => rfl

namespace Delay

variable {r : Rig τ ι δ σ} {watched : Bool} {poll total abortAfter started : τ}

/-- A wait that has rounds enough makes no use of more. -/
theorem waitFrom_add {left : τ → τ → δ → Nat} (more : Nat)
    (sleeps : ∀ length x,
      r.devices.time.atMost total (r.devices.time.minus (r.devices.now x) started) = false →
      left total started (r.devices.sleep length x).2 < left total started x)
    (fuel : Nat) (s : Scene τ ι δ σ) (enough : left total started s.devices < fuel) :
    waitFrom r watched poll total abortAfter started (fuel + more) s =
      waitFrom r watched poll total abortAfter started fuel s := by
  induction fuel generalizing s with
  | zero => exact absurd enough (Nat.not_lt_zero _)
  | succ fuel ih =>
    rw [Nat.add_right_comm]
    unfold waitFrom
    refine bind_congr fun now t hnow => ?_
    obtain ⟨rfl, rfl⟩ : now = r.devices.now s.devices ∧ t = s := by
      cases hnow
      exact ⟨rfl, rfl⟩
    dsimp only
    split
    · rfl
    · next hlong =>
      have hsleep : ∀ u : Scene τ ι δ σ, u.devices = t.devices → ∀ length,
          (Act.sleep r length >>= fun _ =>
            waitFrom r watched poll total abortAfter started (fuel + more)) u =
          (Act.sleep r length >>= fun _ =>
            waitFrom r watched poll total abortAfter started fuel) u := by
        intro u hu length
        refine bind_congr fun _ v hv => ih v ?_
        have hdevices : v.devices = (r.devices.sleep length t.devices).2 := by
          rw [← hu]
          exact (congrArg (fun x => x.2.devices) hv).symm
        have hless := sleeps length t.devices (by simpa using hlong)
        rw [hdevices]
        omega
      split
      · refine bind_congr fun asked u hu => ?_
        have hdevices : u.devices = t.devices := by
          have h := stopAsked_devices t
          rwa [hu] at h
        split
        · rfl
        · exact hsleep u hdevices _
      · exact hsleep t rfl _

/-- Where the clock ticks no wait is cut short for lack of rounds. -/
theorem waitFrom_lasts (ticks : r.devices.Ticks) (s : Scene τ ι δ σ) (more : Nat) :
    waitFrom r watched poll total abortAfter (r.devices.now s.devices)
        (r.devices.time.rounds total (r.devices.now s.devices) + 1 + more) s =
      waitFrom r watched poll total abortAfter (r.devices.now s.devices)
        (r.devices.time.rounds total (r.devices.now s.devices) + 1) s := by
  obtain ⟨left, hrounds, hsleeps⟩ := ticks
  refine waitFrom_add more (hsleeps total _) _ s ?_
  exact Nat.lt_succ_of_le (hrounds total s.devices)

end Delay

/-! ### Beginning -/

theorem Files.follow_system {p : Path} {root : Entry} {e : FileError} (names : List String)
    (above : List (String × Entry)) (h : follow p root above names = .error e) :
    e.isSystem = true := by
  induction names generalizing above with
  | nil => cases h
  | cons name rest ih =>
    unfold follow at h
    dsimp only at h
    split at h
    · cases h
      rfl
    · split at h
      · exact ih _ h
      · split at h
        · cases h
          rfl
        · split at h
          · exact ih _ h
          · split at h
            · cases h
            · cases h
              rfl

theorem Files.remove_nul {p : Path} (nul : p.hasNul = true) (f : Files) :
    f.remove p = .error .nul := by
  simp only [remove, spot, nul, ite_true]

/-- The system can refuse to remove a file, but it takes a NUL for the path not even to be tried. -/
theorem Files.remove_system {p : Path} {f : Files} {e : FileError} (plain : p.hasNul = false)
    (h : f.remove p = .error e) : e.isSystem = true := by
  have hspot : ∀ e, f.spot p = .error e → e.isSystem = true := by
    intro e he
    unfold spot at he
    rw [plain] at he
    simp only [Bool.false_eq_true, ite_false] at he
    split at he
    · cases he
      rfl
    · exact follow_system _ _ he
  unfold remove at h
  split at h
  · cases h
  · next he =>
    cases h
    exact hspot _ he
  · cases h
  · cases h
    rfl
  · cases h

theorem RunState.clearSignal_ok {s : RunState}
    (plain : ∀ p, s.signal = some p → p.hasNul = false) (files : Files) :
    ∃ x, s.clearSignal files = .ok x := by
  unfold clearSignal
  split
  · exact ⟨_, rfl⟩
  · next p hp =>
    split
    · exact ⟨_, rfl⟩
    · next e he =>
      have hsystem := Files.remove_system (plain p hp) he
      rw [hsystem]
      exact ⟨_, rfl⟩

theorem RunState.clearSignal_nul {s : RunState} {p : Path} (signal : s.signal = some p)
    (nul : p.hasNul = true) (files : Files) : s.clearSignal files = .error .nul := by
  unfold clearSignal
  rw [signal]
  dsimp only
  rw [Files.remove_nul nul]
  rfl

namespace Run

variable {r : Rig τ ι δ σ} {p : Plan} {s t b : Scene τ ι δ σ} {m : Int}

/-- The limit of attempts can be written, and the signal file can be looked for. -/
structure Begins (p : Plan) (s : Scene τ ι δ σ) : Prop where
  limit : p.maxAttempts.isWritable = true
  signal : ∀ path, s.state.signal = some path → path.hasNul = false

/-- Where a run starts from, its signal file gone. -/
structure Fresh (s b : Scene τ ι δ σ) : Prop where
  state : b.state = s.state.begin
  failures : b.failures = {}
  journal : b.journal = s.journal
  devices : b.devices = s.devices

theorem begin_apply (p : Plan) (s : Scene τ ι δ σ) :
    begin p s = match s.state.begin.clearSignal s.files with
      | .error e => (.error (.file e), { s with state := s.state.begin, failures := {} })
      | .ok (files, _) => ((p.maxAttempts.writtenPlain.map fun _ => ()).mapError .number,
          { s with state := s.state.begin, failures := {}, files }) := by
  unfold begin
  rw [bind_apply, modify_apply]
  dsimp only
  rw [bind_apply, get_apply]
  dsimp only
  rw [bind_apply, lift_apply]
  cases s.state.begin.clearSignal s.files with
  | error e => rfl
  | ok x =>
    cases p.maxAttempts.writtenPlain with
    | error e => rfl
    | ok text => rfl

theorem begin_fresh (h : Begins p s) : ∃ b, begin p s = (.ok (), b) ∧ Fresh s b := by
  obtain ⟨⟨files, log⟩, hclear⟩ := RunState.clearSignal_ok (s := s.state.begin) h.signal s.files
  have hwritten : p.maxAttempts.writtenPlain = .ok p.maxAttempts.plain := if_pos h.limit
  rw [begin_apply, hclear, hwritten]
  exact ⟨_, rfl, rfl, rfl, rfl, rfl⟩

theorem begin_fails (h : ¬Begins p s) : ∃ f b, begin p s = (.error f, b) ∧ Fresh s b := by
  rw [begin_apply]
  cases hclear : s.state.begin.clearSignal s.files with
  | error e => exact ⟨_, _, rfl, rfl, rfl, rfl, rfl⟩
  | ok x =>
    have hsignal : ∀ path, s.state.signal = some path → path.hasNul = false := by
      intro path hpath
      by_contra hnul
      have hnul : path.hasNul = true := by simpa using hnul
      have hnone := RunState.clearSignal_nul (s := s.state.begin) hpath hnul s.files
      rw [hnone] at hclear
      cases hclear
    have hlimit : p.maxAttempts.isWritable ≠ true := fun hlimit => h ⟨hlimit, hsignal⟩
    have hwritten : p.maxAttempts.writtenPlain = .error .unwritable := if_neg hlimit
    rw [hwritten]
    exact ⟨_, _, rfl, rfl, rfl, rfl, rfl⟩

/-- The scene in which the attempts of a run start. -/
def opening (p : Plan) (s : Scene τ ι δ σ) : Scene τ ι δ σ := (begin p { s with journal := [] }).2

theorem begin_opening (h : Begins p s) :
    begin p { s with journal := [] } = (.ok (), opening p s) ∧
      Fresh { s with journal := [] } (opening p s) := by
  obtain ⟨b, hbegin, hfresh⟩ := begin_fresh (s := { s with journal := [] }) (p := p)
    ⟨h.limit, h.signal⟩
  have hopening : opening p s = b := by
    unfold opening
    rw [hbegin]
  rw [hopening]
  exact ⟨hbegin, hfresh⟩

end Run

/-! ### What is left to do after the attempts -/

def RunOutcome.ofEnd : Except Fault RunOutcome → RunOutcome
  | .ok o => o
  | .error f => .failed f.text

theorem Act.tell_running (r : Rig τ ι δ σ) (level : EventLevel) (message : String) :
    Within (Same fun s => s.state.running) (tell r level message) := by
  intro s
  have hstate : (tell r level message s).2.state =
      if (r.listener.hear ⟨level, message⟩ s.listener).2.1.stop then s.state.requestStop
      else s.state := rfl
  change (tell r level message s).2.state.running = s.state.running
  rw [hstate]
  split <;> rfl

theorem Step.releaseKey_held (r : Rig τ ι δ σ) (s : Scene τ ι δ σ) :
    (releaseKey r s).2.state.held = false := by
  unfold releaseKey
  rw [bind_apply, get_apply]
  dsimp only
  split
  · rw [bind_apply, outcome_apply]
    rfl
  · next hup =>
    have hheld : s.state.held = false := by simpa using hup
    exact hheld

namespace Run

variable {r : Rig τ ι δ σ} {p : Plan} {s t b : Scene τ ι δ σ} {m : Int}

theorem announce_ends (r : Rig τ ι δ σ) (attempts : Int) (o : RunOutcome) (s : Scene τ ι δ σ) :
    ∃ t, announce r attempts o s = (.ok (), t) ∧ Steady (·.isIdle = true) s t ∧
      t.state.running = s.state.running := by
  have hrunning : Within (Same fun s => s.state.running) (announce r attempts o) := by
    cases o with
    | found hit => exact .bind (tell_running r _ _) fun _ => tell_running r _ _
    | exhausted => exact tell_running r _ _
    | stopped => exact tell_running r _ _
    | failed text => exact .pure _
  exact ⟨_, Prod.ext (announce_ok r attempts o s) rfl,
    announce_steady (fun _ => id) r attempts o s, hrunning s⟩

theorem guarded_ends (r : Rig τ ι δ σ) (p : Plan) (s : Scene τ ι δ σ) :
    ∃ t, guarded r p s = (.ok (.ofEnd (attempts r p s).1), t) ∧
      Steady (·.isIdle = true) (attempts r p s).2 t := by
  unfold guarded
  rw [bind_apply, outcome_apply]
  dsimp only
  generalize attempts r p s = x
  obtain ⟨_ | o, a⟩ := x
  · exact ⟨_, rfl, tell_steady (fun _ => id) r _ _ a⟩
  · exact ⟨a, rfl, Steady.refl _ a⟩

/-- What a run gives when its attempts have come to an end: only a release of the key and telling
are left to do. -/
structure Closed (e : Except Fault RunOutcome × Scene τ ι δ σ) (x : RunResult)
    (t : Scene τ ι δ σ) : Prop where
  outcome : x.outcome = .ofEnd e.1
  attempts : x.attempts = e.2.state.attempts
  grows : Grows (fun d => (d.deed.isIdle || d.deed.isTouch) = true) e.2 t
  running : t.state.running = false
  held : t.state.held = false

theorem runValid_closed (hbegin : begin p s = (.ok (), b)) :
    ∃ x t, runValid r p s = (.ok x, t) ∧ Closed (attempts r p b) x t := by
  obtain ⟨g, hguarded, hsteady⟩ := guarded_ends r p b
  have hidle : Grows (fun d : Note τ ι => (d.deed.isIdle || d.deed.isTouch) = true)
      (attempts r p b).2 g := hsteady.grows.mono fun d hd => by simp [hd.1]
  have hrelease : Step.releaseKey r g = (.ok (), (Step.releaseKey r g).2) :=
    Prod.ext (Step.releaseKey_ok r g) rfl
  have hgrows := Step.releaseKey_grows (p := fun d => (d.isIdle || d.isTouch) = true)
    (fun d hd => by simp [hd]) (fun d hd => by simp [hd]) r g
  have hheld := Step.releaseKey_held r g
  generalize (Step.releaseKey r g).2 = u at hrelease hgrows hheld
  obtain ⟨t, hannounce, hsteady', hrunning⟩ := announce_ends r u.state.finish.attempts
    (.ofEnd (attempts r p b).1) { u with state := u.state.finish }
  unfold runValid
  rw [bind_apply, now_apply]
  dsimp only
  rw [bind_apply, hbegin]
  dsimp only
  rw [bind_apply, hguarded]
  dsimp only
  rw [bind_apply, hrelease]
  dsimp only
  rw [bind_apply, modify_apply]
  dsimp only
  rw [bind_apply, now_apply]
  dsimp only
  rw [bind_apply, get_apply]
  dsimp only
  rw [bind_apply]
  rw [hannounce]
  have hclosed : Grows (fun d : Note τ ι => (d.deed.isIdle || d.deed.isTouch) = true)
      { u with state := u.state.finish } t := hsteady'.grows.mono fun d hd => by simp [hd.1]
  refine ⟨_, t, rfl, rfl, ?_, ?_, hrunning, hsteady'.held.trans hheld⟩
  · exact hgrows.attempts.trans hidle.attempts
  · have hfinish : Grows (fun d : Note τ ι => (d.deed.isIdle || d.deed.isTouch) = true) u
        { u with state := u.state.finish } := ⟨⟨[], rfl, by simp⟩, rfl, id⟩
    exact hidle.trans (hgrows.trans (hfinish.trans hclosed))

/-! ### Attempts and traversals -/

def setsOut : Station → Station → Bool
  | .round _, .node _ _ => true
  | _, _ => false

/-- The traversals of the graph that were started in so many moves. -/
def traversals (r : Rig τ ι δ σ) (p : Plan) (s : Scene τ ι δ σ) : Nat → Nat
  | 0 => 0
  | k + 1 => traversals r p s k + (setsOut (course r p s k).1 (course r p s (k + 1)).1).toNat

/-- How many attempts, of at most `m`, may be counted at a station. -/
def Tallied (m a : Int) : Station → Prop
  | .node _ _ => 1 ≤ a ∧ a ≤ m
  | .leaving _ => 1 ≤ a ∧ a ≤ m
  | .finished (.ok (.found _)) => 1 ≤ a ∧ a ≤ m
  | .finished (.ok .exhausted) => a = max 0 m
  | .finished (.ok (.failed _)) => False
  | _ => 0 ≤ a ∧ a ≤ max 0 m

theorem Tallied.after {a : Int} (h : 1 ≤ a ∧ a ≤ m) (x : Except Fault Traversal) :
    Tallied m a (.after x) := by
  have hbound : 0 ≤ a ∧ a ≤ max 0 m := by omega
  match x with
  | .error f => exact hbound
  | .ok (.found hit) => exact h
  | .ok .stopped => exact hbound
  | .ok (.resumed id) => exact hbound
  | .ok .ended => exact hbound

theorem Tallied.stay {a : Int} {st next : Station} (h : s.state.attempts = a ∧ Tallied m a next)
    (hs : setsOut st next = false) : s.state.attempts = a + (setsOut st next).toNat ∧
      Tallied m (a + (setsOut st next).toNat) next := by
  rw [hs]
  simpa using h

/-- Only the start of a traversal counts, and it counts one. -/
theorem act_tallies (limit : p.maxAttempts = .int m) (writable : p.maxAttempts.isWritable = true)
    (a : Int) (st : Station) :
    Meets (fun s : Scene τ ι δ σ => s.state.attempts = a ∧ Tallied m a st) (st.act r p)
      (fun next s => s.state.attempts = a + (setsOut st next).toNat ∧
        Tallied m (a + (setsOut st next).toNat) next)
      (fun f s => s.state.attempts = a ∧ Tallied m a (st.broken f)) := by
  have hsame : ∀ {α : Type} {b : Act τ ι δ σ α}, Within (Same fun s => s.state.attempts) b →
      Meets (fun s => s.state.attempts = a ∧ Tallied m a st) b
        (fun _ s => s.state.attempts = a ∧ Tallied m a st)
        (fun _ s => s.state.attempts = a ∧ Tallied m a st) := fun hb =>
    .of_within hb fun s t hst hs => ⟨hst.trans hs.1, hs.2⟩
  cases st with
  | outset =>
    have hdelay : Within (Same fun s => s.state.attempts) (startDelay r p) :=
      (startDelay_steady (p := fun _ => True) (fun _ _ => trivial) r p).of_le
        fun _ _ h => h.grows.attempts
    exact .bind (hsame hdelay) fun _ => .pure fun s hs => Tallied.stay hs rfl
  | round resume =>
    intro s hs
    refine (begin_begun limit a resume).mono (fun _ hs => hs) ?_ ?_ s hs.1
    · intro next t hbegun
      cases hbegun with
      | stopped made => exact Tallied.stay ⟨made, hs.2⟩ rfl
      | exhausted made used =>
        have hmax : a = max 0 m := by
          have hbound : 0 ≤ a ∧ a ≤ max 0 m := hs.2
          omega
        exact Tallied.stay ⟨made, hmax⟩ rfl
      | node id made left =>
        have hbound : 0 ≤ a ∧ a ≤ max 0 m := hs.2
        exact ⟨made, by simp only [Tallied, setsOut, Bool.toNat_true]; omega⟩
    · exact fun f t ht => ⟨ht writable, hs.2⟩
  | node visited id =>
    refine ((hsame (visit_attempts r p.graph visited id)).and
      (visit_visits r p.graph visited id)).mono (fun _ hs => ⟨hs, trivial⟩) ?_ fun _ _ hs => hs.1
    rintro next t ⟨hs, hvisits⟩
    cases hvisits with
    | left x => exact Tallied.stay hs rfl
    | on mem named fresh => exact Tallied.stay hs rfl
  | leaving x =>
    have hrelease : Within (Same fun s => s.state.attempts) (Step.releaseKey r) :=
      (Step.releaseKey_ofStep r).of_le fun _ _ h => h.attempts
    refine .bind ((hsame hrelease).fault ?_) fun _ => .pure fun s hs => ?_
    · exact fun f s hs => ⟨hs.1, Tallied.after hs.2 (.error f)⟩
    · have hout : setsOut (.leaving x) (.after x) = false := by
        cases x <;> rfl
      exact Tallied.stay ⟨hs.1, Tallied.after hs.2 x⟩ hout
  | finished x =>
    exact .pure fun s hs => Tallied.stay hs rfl

theorem move_tallies (limit : p.maxAttempts = .int m)
    (writable : p.maxAttempts.isWritable = true) {c : Station × Scene τ ι δ σ}
    (h : Tallied m c.2.state.attempts c.1) :
    (move r p c).2.state.attempts = c.2.state.attempts + (setsOut c.1 (move r p c).1).toNat ∧
      Tallied m (move r p c).2.state.attempts (move r p c).1 := by
  have hact := act_tallies (r := r) limit writable c.2.state.attempts c.1 c.2 ⟨rfl, h⟩
  unfold move
  generalize c.1.act r p c.2 = x at hact ⊢
  rcases x with ⟨f | next, t⟩
  · have hstays : setsOut c.1 (c.1.broken f) = false := by cases c.1 <;> rfl
    obtain ⟨hmade, htallied⟩ := hact
    dsimp only
    rw [hmade, hstays]
    exact ⟨by simp, htallied⟩
  · obtain ⟨hmade, htallied⟩ := hact
    dsimp only
    rw [hmade]
    exact ⟨rfl, htallied⟩

/-- All along the course the attempts that are counted are the traversals that were started. -/
theorem course_tallies (limit : p.maxAttempts = .int m)
    (writable : p.maxAttempts.isWritable = true) (fresh : s.state.attempts = 0) (k : Nat) :
    (course r p s k).2.state.attempts = traversals r p s k ∧
      Tallied m (course r p s k).2.state.attempts (course r p s k).1 := by
  induction k with
  | zero =>
    have hstart : 0 ≤ s.state.attempts ∧ s.state.attempts ≤ max 0 m := by omega
    exact ⟨fresh, hstart⟩
  | succ k ih =>
    obtain ⟨hmade, htallied⟩ := move_tallies (r := r) limit writable ih.2
    rw [← course_succ] at hmade htallied
    refine ⟨?_, htallied⟩
    rw [hmade, ih.1, traversals]
    push_cast
    rfl

end Run

/-! ### Whole runs -/

namespace RunOutcome

def hit? : RunOutcome → Option Match
  | .found hit => some hit
  | _ => none

def error? : RunOutcome → Option String
  | .failed text => some text
  | _ => none

theorem name_found (o : RunOutcome) : o.name = "found" ↔ o.hit?.isSome = true := by
  cases o <;> simp [name, hit?]

theorem name_error (o : RunOutcome) : o.name = "error" ↔ o.error?.isSome = true := by
  cases o <;> simp [name, error?]

end RunOutcome

namespace Run

variable {r : Rig τ ι δ σ} {p : Plan} {s t b : Scene τ ι δ σ} {m : Int}

/-- What a run gives agrees with the traversals that it started, at most `m` of them. -/
structure Accounts (m : Int) (started : Nat) (x : RunResult) : Prop where
  attempts : x.attempts = started
  limited : x.attempts ≤ max 0 m
  found : x.outcome.name = "found" ↔ x.outcome.hit?.isSome = true
  failed : x.outcome.name = "error" ↔ x.outcome.error?.isSome = true
  exhausted : x.outcome = .exhausted → x.attempts = max 0 m
  hit : ∀ hit, x.outcome = .found hit → 1 ≤ x.attempts ∧ x.attempts ≤ m

theorem Accounts.of_tallied {e : Except Fault RunOutcome} {started : Nat} {x : RunResult}
    (outcome : x.outcome = .ofEnd e) (attempts : x.attempts = started)
    (tallied : Tallied m x.attempts (.finished e)) : Accounts m started x := by
  have hlimited : x.attempts ≤ max 0 m := by
    rcases e with f | hit | _ | _ | text
    · exact tallied.2
    · have hbound : 1 ≤ x.attempts ∧ x.attempts ≤ m := tallied
      omega
    · have hmax : x.attempts = max 0 m := tallied
      omega
    · exact tallied.2
    · exact tallied.elim
  refine ⟨attempts, hlimited, x.outcome.name_found, x.outcome.name_error, ?_, ?_⟩
  · intro hexhausted
    rw [outcome] at hexhausted
    rcases e with f | o
    · cases hexhausted
    · cases hexhausted
      exact tallied
  · intro hit hfound
    rw [outcome] at hfound
    rcases e with f | o
    · cases hfound
    · cases hfound
      exact tallied

theorem run_sound (sound : p.graph.problems = []) (s : Scene τ ι δ σ) :
    run r p s = ((runValid (rigFor r p) p { s with journal := [] }).1.mapError .fault,
      (runValid (rigFor r p) p { s with journal := [] }).2) := by
  unfold run
  rw [sound]
  rfl

theorem run_closed (sound : p.graph.problems = []) (h : Begins p s) :
    ∃ x t, run r p s = (.ok x, t) ∧ Closed (attempts (rigFor r p) p (opening p s)) x t := by
  obtain ⟨x, t, hvalid, hclosed⟩ := runValid_closed (r := rigFor r p) (begin_opening h).1
  refine ⟨x, t, ?_, hclosed⟩
  rw [run_sound sound, hvalid]
  rfl

/-- A clock of whole milliseconds. -/
def wholeMillis : Reckoning Int where
  ofMillis n := (Value.num n).toInt
  minus a b := a - b
  below a b := decide (a < b)
  atMost a b := decide (a ≤ b)
  millis a := a
  rounds total _ := total.toNat

/-- Devices that see nothing, on a clock that every sleep moves on. -/
def blindfold : Devices Int String Int where
  time := wholeMillis
  now x := x
  sleep length x := ({}, x + max 1 length)
  click _ _ _ x := ({ result := .ok () }, x)
  key _ x := ({ result := .ok () }, x)
  grab _ x := ({ result := .error (.failed "OSError" "dark") }, x)
  prepare image x := ({ result := .ok [image] }, x)
  recognize _ x := ({ result := .ok [] }, x)

theorem blindfold_ticks : blindfold.Ticks := by
  refine ⟨fun total started x => (total - (x - started)).toNat, ?_, ?_⟩
  · intro total x
    have hnone : total - (x - x) = total := by omega
    exact Nat.le_of_eq (congrArg Int.toNat hnone)
  · intro total started length x hlong
    have hlong : ¬total ≤ x - started := of_decide_eq_false hlong
    have hmoves : (blindfold.sleep length x).2 = x + max 1 length := rfl
    dsimp only
    rw [hmoves]
    omega

/-- What a run in the dark works with. -/
def blindRig : Rig Int String Int Unit where
  settings := { keySettle := .int 0, minDensity := .int 0 }
  devices := blindfold
  listener := .silent
  exclusion := .ok {}
  failureLimit := .int 0

/-- The scene of a run in the dark, which starts with the key held. -/
def blindScene : Scene Int String Int Unit where
  state := { held := true }
  files := {}
  devices := 0
  listener := ()

/-- Three attempts after a delay. -/
def patient : Plan := { Trial.waiting with startDelay := .int 5 }

/-- A scene whose signal file has a name that no system takes. -/
def nameless : Scene Float String Rehearsal Unit :=
  { Trial.scene with state := { held := true, signal := some { names := ["a\x00b"] } } }

end Run

end Reroll
