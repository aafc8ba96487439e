import Reroll.Proofs.Files.Place
import Reroll.Proofs.Run.Ending

/-!
# What a poll answers

The flag of a run and the path of its signal file are one state. Requests, polls, the begins and
ends of runs and others who work on the files change it in turn, each in a way of its own
(`Watch.step_spec`). So after some turns since a run began the flag tells of a request or of a poll
that found something at the path (`Watch.flag_after`), and what is at a path where nothing was has
been put there by others (`Watch.creates_of_present`).
-/

namespace Reroll

/-! ### Clearing the signal file -/

namespace RunState

variable {r : RunState} {files : Files}

/-- Of a path that is cleared nothing is left but a directory. -/
theorem clearSignal_spec (taken : ∀ p, r.signal = some p → Files.Taken p)
    (home : files.hasHome = true) : ∃ g log, r.clearSignal files = .ok (g, log) ∧
      g.hasHome = true ∧ (r.signalPresent g = .ok true ↔
        ∃ p, r.signal = some p ∧ files.isDirectory p = .ok true) := by
  unfold clearSignal signalPresent
  cases hp : r.signal with
  | none => exact ⟨files, [], rfl, home, by simp⟩
  | some p =>
    simp only [Option.some.injEq, exists_eq_left']
    cases hremove : files.remove p with
    | ok g =>
      refine ⟨g, [], rfl, Files.remove_home home hremove, ?_⟩
      rw [Files.remove_absent home hremove, Files.remove_no_directory hremove]
    | error e =>
      have hsystem := Files.remove_system (taken p hp).plain hremove
      dsimp only
      rw [hsystem]
      exact ⟨files, _, rfl, home, by rw [Files.remove_fails hremove]⟩

end RunState

/-! ### Turns -/

/-- The flags of a run and the files it sees. -/
structure Watch where
  state : RunState
  files : Files

namespace Watch

/-- A stop is requested or looked for, a run begins or ends, the signal file is cleared, the rest of
the flags is set, or someone else leaves other files. -/
inductive Turn where
  | request
  | poll
  | begin
  | finish
  | clear
  | mark (held : Bool) (attempts : Int)
  | meddle (files : Files) (home : files.hasHome = true)

variable {w v : Watch} {t : Turn} {turns : List Turn}

/-- What is there after a turn. -/
def step (w : Watch) : Turn → Except FileError Watch
  | .request => .ok { w with state := w.state.requestStop }
  | .poll => (w.state.poll w.files).map fun x => ⟨x.1, x.2.1⟩
  | .begin => (w.state.begin.clearSignal w.files).map fun x => ⟨w.state.begin, x.1⟩
  | .finish => .ok { w with state := w.state.finish }
  | .clear => (w.state.clearSignal w.files).map fun x => ⟨w.state, x.1⟩
  | .mark held attempts => .ok { w with state := { w.state with held, attempts } }
  | .meddle files _ => .ok { w with files }

/-- What is there after some turns. -/
def after (w : Watch) (turns : List Turn) : Except FileError Watch := turns.foldlM step w

/-- What a poll answers. -/
def answer (w : Watch) : Except FileError Bool :=
  (w.step .poll).map fun v => v.state.stopRequested

/-- Something is at the signal path. -/
def Present (w : Watch) : Prop := w.state.signalPresent w.files = .ok true

/-- A directory is at the signal path. -/
def Blocked (w : Watch) : Prop :=
  ∃ p, w.state.signal = some p ∧ w.files.isDirectory p = .ok true

/-- The system takes the signal path, if there is one, and the working directory is there. -/
structure Sound (w : Watch) : Prop where
  taken : ∀ p, w.state.signal = some p → Files.Taken p
  home : w.files.hasHome = true

/-- The flag is up after a turn. -/
def Raised (w : Watch) : Turn → Prop
  | .request => True
  | .poll => w.state.stopRequested = true ∨ w.Present
  | .begin => False
  | .finish | .clear | .mark _ _ | .meddle _ _ => w.state.stopRequested = true

/-- Something is at the signal path after a turn. -/
def Left (w : Watch) : Turn → Prop
  | .poll => w.Present ∧ (w.state.stopRequested = true ∨ w.Blocked)
  | .begin | .clear => w.Blocked
  | .meddle files _ => ({ w with files } : Watch).Present
  | .request | .finish | .mark _ _ => w.Present

theorem Blocked.present (h : w.Blocked) : w.Present := by
  obtain ⟨p, hp, hdirectory⟩ := h
  unfold Present RunState.signalPresent
  rw [hp]
  unfold Files.isDirectory at hdirectory
  dsimp only
  unfold Files.isPresent
  cases hfind : w.files.find p with
  | ok e => rfl
  | error e =>
    rw [hfind] at hdirectory
    cases e <;> cases hdirectory

theorem Sound.present (h : w.Sound) : ∃ b, w.state.signalPresent w.files = .ok b := by
  unfold RunState.signalPresent
  cases hp : w.state.signal with
  | none => exact ⟨false, rfl⟩
  | some p => exact Files.isPresent_taken (h.taken p hp) w.files

theorem poll_spec (h : w.Sound) : ∃ v, w.step .poll = .ok v ∧ v.Sound ∧
    v.state.signal = w.state.signal ∧ (v.state.stopRequested = true ↔ w.Raised .poll) ∧
      (v.Present ↔ w.Left .poll) := by
  unfold step RunState.poll Raised Left
  -- with the flag up the files are not looked at, otherwise the path is cleared if need be
  by_cases hflag : w.state.stopRequested = true
  · exact ⟨w, by rw [if_pos hflag]; rfl, h, rfl, by simp [hflag], by simp [hflag]⟩
  · obtain ⟨b, hb⟩ := h.present
    have hpresent : w.Present ↔ b = true := by
      unfold Present
      rw [hb, Except.ok.injEq]
    cases b with
    | false =>
      have habsent : ¬w.Present := fun hw => Bool.false_ne_true (hpresent.mp hw)
      refine ⟨w, ?_, h, rfl, by simp [habsent], by simp [habsent]⟩
      simp [hflag, hb, bind, Except.bind, pure, Except.pure, Except.map]
    | true =>
      obtain ⟨g, log, hg, hhome, hleft⟩ := RunState.clearSignal_spec h.taken h.home
      refine ⟨⟨w.state.requestStop, g⟩, ?_, ⟨h.taken, hhome⟩, rfl, ?_, ?_⟩
      · simp [hflag, hb, hg, bind, Except.bind, pure, Except.pure, Except.map]
      · exact iff_of_true rfl (.inr (hpresent.mpr rfl))
      · exact hleft.trans ⟨fun hw => ⟨hpresent.mpr rfl, .inr hw⟩, fun hw => hw.2.resolve_left hflag⟩

theorem step_spec (h : w.Sound) (t : Turn) : ∃ v, w.step t = .ok v ∧ v.Sound ∧
    v.state.signal = w.state.signal ∧ (v.state.stopRequested = true ↔ w.Raised t) ∧
      (v.Present ↔ w.Left t) := by
  cases t with
  | request => exact ⟨_, rfl, ⟨h.taken, h.home⟩, rfl, by simp [Raised, RunState.requestStop], Iff.rfl⟩
  | poll => exact poll_spec h
  | begin =>
    obtain ⟨g, log, hg, hhome, hleft⟩ :=
      RunState.clearSignal_spec (r := w.state.begin) h.taken h.home
    refine ⟨⟨w.state.begin, g⟩, ?_, ⟨h.taken, hhome⟩, rfl, by simp [Raised, RunState.begin], hleft⟩
    rw [step, hg]
    rfl
  | finish => exact ⟨_, rfl, ⟨h.taken, h.home⟩, rfl, Iff.rfl, Iff.rfl⟩
  | clear =>
    obtain ⟨g, log, hg, hhome, hleft⟩ := RunState.clearSignal_spec h.taken h.home
    refine ⟨⟨w.state, g⟩, ?_, ⟨h.taken, hhome⟩, rfl, Iff.rfl, hleft⟩
    rw [step, hg]
    rfl
  | mark held attempts => exact ⟨_, rfl, ⟨h.taken, h.home⟩, rfl, Iff.rfl, Iff.rfl⟩
  | meddle files home => exact ⟨_, rfl, ⟨h.taken, home⟩, rfl, Iff.rfl, Iff.rfl⟩

/-! ### Runs of turns -/

theorem after_cons (w : Watch) (t : Turn) (turns : List Turn) :
    w.after (t :: turns) = (w.step t).bind (after · turns) := rfl

theorem Sound.after (h : w.Sound) (turns : List Turn) : ∃ v, w.after turns = .ok v ∧ v.Sound := by
  induction turns generalizing w with
  | nil => exact ⟨w, rfl, h⟩
  | cons t turns ih =>
    obtain ⟨u, hu, hsound, -⟩ := step_spec h t
    obtain ⟨v, hv, hlast⟩ := ih hsound
    exact ⟨v, by rw [after_cons, hu]; exact hv, hlast⟩

/-- One of the turns is a poll that finds something at the signal path. -/
def Sights (w : Watch) (turns : List Turn) : Prop :=
  ∃ before rest u, turns = before ++ .poll :: rest ∧ w.after before = .ok u ∧ u.Present

/-- One of the turns puts something at the signal path where nothing was. -/
def Creates (w : Watch) (turns : List Turn) : Prop :=
  ∃ before files home rest u, turns = before ++ .meddle files home :: rest ∧
    w.after before = .ok u ∧ ¬u.Present ∧ ({ u with files } : Watch).Present

theorem sights_nil (w : Watch) : ¬w.Sights [] := by
  rintro ⟨before, rest, u, hturns, -⟩
  cases before <;> cases hturns

theorem sights_cons (hstep : w.step t = .ok v) :
    w.Sights (t :: turns) ↔ t = .poll ∧ w.Present ∨ v.Sights turns := by
  constructor
  · rintro ⟨before, rest, u, hturns, hu, hpresent⟩
    cases before with
    | nil =>
      cases hturns
      cases hu
      exact .inl ⟨rfl, hpresent⟩
    | cons first before =>
      cases hturns
      rw [after_cons, hstep] at hu
      exact .inr ⟨before, rest, u, rfl, hu, hpresent⟩
  · rintro (⟨rfl, hpresent⟩ | ⟨before, rest, u, rfl, hu, hpresent⟩)
    · exact ⟨[], turns, w, rfl, rfl, hpresent⟩
    · exact ⟨t :: before, rest, u, rfl, by rw [after_cons, hstep]; exact hu, hpresent⟩

theorem Sights.append (h : w.Sights turns) (more : List Turn) : w.Sights (turns ++ more) := by
  obtain ⟨before, rest, u, rfl, hu, hpresent⟩ := h
  exact ⟨before, rest ++ more, u, by simp, hu, hpresent⟩

theorem Creates.append (h : w.Creates turns) (more : List Turn) : w.Creates (turns ++ more) := by
  obtain ⟨before, files, home, rest, u, rfl, hu, hsides⟩ := h
  exact ⟨before, files, home, rest ++ more, u, by simp, hu, hsides⟩

theorem Creates.cons (hstep : w.step t = .ok v) (h : v.Creates turns) : w.Creates (t :: turns) := by
  obtain ⟨before, files, home, rest, u, rfl, hu, habsent, hpresent⟩ := h
  refine ⟨t :: before, files, home, rest, u, rfl, ?_, habsent, hpresent⟩
  rw [after_cons, hstep]
  exact hu

/-- Until a run begins the flag tells of requests and of polls that found something. -/
theorem flag_after (h : w.Sound) (hbegin : .begin ∉ turns) (hafter : w.after turns = .ok v) :
    v.state.stopRequested = true ↔
      w.state.stopRequested = true ∨ .request ∈ turns ∨ w.Sights turns := by
  induction turns generalizing w with
  | nil =>
    cases hafter
    simp [sights_nil]
  | cons t turns ih =>
    obtain ⟨hfirst, hrest⟩ := List.ne_and_not_mem_of_not_mem_cons hbegin
    obtain ⟨u, hu, hsound, -, hflag, -⟩ := step_spec h t
    rw [after_cons, hu] at hafter
    rw [ih hsound hrest hafter, hflag, sights_cons hu, List.mem_cons]
    cases t with
    | begin => exact absurd rfl hfirst
    | request => simp [Raised]
    | poll => simp [Raised, or_assoc, or_left_comm]
    | finish | clear | mark | meddle => simp [Raised]

/-- What is at a path where nothing was has been put there. -/
theorem creates_of_present (h : w.Sound) (habsent : ¬w.Present) (hafter : w.after turns = .ok v)
    (hpresent : v.Present) : w.Creates turns := by
  induction turns generalizing w with
  | nil =>
    cases hafter
    exact absurd hpresent habsent
  | cons t turns ih =>
    obtain ⟨u, hu, hsound, -, -, hleft⟩ := step_spec h t
    rw [after_cons, hu] at hafter
    -- the first turn after which something is there is the one that put it there
    by_cases hnow : u.Present
    · have hleft := hleft.mp hnow
      cases t with
      | meddle files home => exact ⟨[], files, home, turns, w, rfl, rfl, habsent, hleft⟩
      | poll => exact absurd hleft.1 habsent
      | begin | clear => exact absurd hleft.present habsent
      | request | finish | mark => exact absurd hleft habsent
    · exact (ih hsound hnow hafter).cons hu

theorem Sights.creates (h : w.Sound) (habsent : ¬w.Present) (hsights : w.Sights turns) :
    w.Creates turns := by
  obtain ⟨before, rest, u, rfl, hu, hpresent⟩ := hsights
  exact (creates_of_present h habsent hu hpresent).append _

/-- A poll tells of requests and of polls that found something, itself included. -/
theorem answer_after (h : w.Sound) (hflag : w.state.stopRequested = false)
    (hbegin : .begin ∉ turns) (hafter : w.after turns = .ok v) (hsound : v.Sound) :
    ∃ x, v.answer = .ok x ∧ (x = true ↔ .request ∈ turns ∨ w.Sights turns ∨ v.Present) := by
  obtain ⟨u, hu, -, -, hraised, -⟩ := step_spec hsound .poll
  refine ⟨u.state.stopRequested, by rw [answer, hu]; rfl, hraised.trans ?_⟩
  rw [Raised, flag_after h hbegin hafter, hflag]
  simp only [Bool.false_eq_true, false_or, or_assoc]

/-- Where a name on the way is too long a run begins, and then every poll fails. -/
theorem poll_too_long {p q : Path} (hsignal : w.state.signal = some p)
    (hspot : w.files.spot p = .error (.nameTooLong q)) :
    ∃ b, w.step .begin = .ok b ∧ b.answer = .error (.nameTooLong q) := by
  have hremove : w.files.remove p = .error (.nameTooLong q) := by
    rw [Files.remove, hspot]
  have hsame : w.state.begin.signal = some p := hsignal
  obtain ⟨log, hclear⟩ : ∃ log, w.state.begin.clearSignal w.files = .ok (w.files, log) := by
    simp only [RunState.clearSignal, hsame, hremove]
    exact ⟨_, rfl⟩
  have hpresent : w.state.begin.signalPresent w.files = .error (.nameTooLong q) := by
    simp only [RunState.signalPresent, hsame, Files.isPresent, Files.find, hspot]
  refine ⟨⟨w.state.begin, w.files⟩, congrArg (Except.map _) hclear, ?_⟩
  simp only [answer, step, RunState.poll, hpresent]
  rfl

/-- When a run has begun nothing but a directory is at the signal path. From then on polls tell of
requests and of what they found there: none of them says that a stop is requested before one was or
before something was put at the path, and after one that says so all of them do until a run begins
again. A file that a poll has seen is gone, and what is there later has been put there since. -/
theorem polls_since_begin (h : w.Sound) :
    (∃ b, w.step .begin = .ok b ∧ (b.Present ↔ w.Blocked) ∧
      ∀ turns, .begin ∉ turns → ∃ v x, b.after turns = .ok v ∧ v.answer = .ok x ∧
        (x = true ↔ .request ∈ turns ∨ b.Sights turns ∨ v.Present) ∧
        (¬w.Blocked → .request ∉ turns → ¬b.Creates turns → x = false) ∧
        (x = true → ∀ later, .begin ∉ later →
          ∃ u, b.after (turns ++ .poll :: later) = .ok u ∧ u.answer = .ok true)) ∧
    (w.state.stopRequested = false → w.Present → ¬w.Blocked →
      ∃ v, w.step .poll = .ok v ∧ v.state.stopRequested = true ∧ ¬v.Present ∧
        ∀ turns u, v.after turns = .ok u → u.Present → v.Creates turns) := by
  constructor
  · obtain ⟨b, hb, hsound, -, hflag, hleft⟩ := step_spec h .begin
    have hdown : b.state.stopRequested = false := by
      rw [← Bool.not_eq_true]
      exact hflag.mp
    refine ⟨b, hb, hleft, fun turns hbegin => ?_⟩
    obtain ⟨v, hv, hlast⟩ := hsound.after turns
    obtain ⟨x, hx, hanswer⟩ := answer_after hsound hdown hbegin hv hlast
    refine ⟨v, x, hv, hx, hanswer, fun hfree hrequest hcreates => ?_, fun htrue later hlater => ?_⟩
    · have habsent : ¬b.Present := mt hleft.mp hfree
      rw [← Bool.not_eq_true, hanswer]
      rintro (hrequested | hsights | hpresent)
      · exact hrequest hrequested
      · exact hcreates (hsights.creates hsound habsent)
      · exact hcreates (creates_of_present hsound habsent hv hpresent)
    · have hnone : .begin ∉ turns ++ .poll :: later := by
        simp [hbegin, hlater]
      obtain ⟨u, hu, hend⟩ := hsound.after (turns ++ .poll :: later)
      obtain ⟨y, hy, hyes⟩ := answer_after hsound hdown hnone hu hend
      have hytrue : y = true := by
        rw [hyes]
        rcases hanswer.mp htrue with hrequested | hsights | hpresent
        · exact .inl (List.mem_append_left _ hrequested)
        · exact .inr (.inl (hsights.append _))
        · exact .inr (.inl ⟨turns, later, v, rfl, hv, hpresent⟩)
      rw [hytrue] at hy
      exact ⟨u, hu, hy⟩
  · intro hflag hpresent hfree
    obtain ⟨v, hv, hsound, -, hraised, hleft⟩ := step_spec h .poll
    have habsent : ¬v.Present := by
      rw [hleft, Left, hflag]
      simp [hfree]
    refine ⟨v, hv, hraised.mpr (.inr hpresent), habsent, fun turns u hu hnow => ?_⟩
    exact creates_of_present hsound habsent hu hnow

/-- A run that watches a path, and the files after someone has done something there. -/
def watching (p : Path) (tampered : Except FileError Files) : Watch :=
  ⟨{ signal := some p }, tampered.toOption.getD {}⟩

/-- A path to watch. -/
def stopPath : Path := .ofText "stop"

theorem stop_file_polled :
    (∃ b v, (watching stopPath (({} : Files).write stopPath "stop".toUTF8)).step .begin = .ok b ∧
      b.after [.poll, .finish] = .ok v ∧ v.answer = .ok false) ∧
    ∃ v, (watching stopPath (({} : Files).write stopPath "stop".toUTF8)).step .poll = .ok v ∧
      v.state.stopRequested = true ∧ ¬v.Present := by
  have hsound : (watching stopPath (({} : Files).write stopPath "stop".toUTF8)).Sound := by
    refine ⟨?_, by decide +kernel⟩
    rintro p ⟨⟩
    exact ⟨by decide +kernel, by decide +kernel, by decide +kernel⟩
  have hpresent : (watching stopPath (({} : Files).write stopPath "stop".toUTF8)).Present := by
    unfold Present
    decide +kernel
  have hfree : ¬(watching stopPath (({} : Files).write stopPath "stop".toUTF8)).Blocked := by
    rintro ⟨p, ⟨⟩, hdirectory⟩
    exact absurd hdirectory (by decide +kernel)
  obtain ⟨⟨b, hb, -, hpolls⟩, hconsumes⟩ := polls_since_begin hsound
  constructor
  · obtain ⟨v, x, hv, hx, -, hquiet, -⟩ := hpolls [.poll, .finish] (by simp)
    have hfalse : x = false := by
      refine hquiet hfree (by simp) ?_
      rintro ⟨before, files, home, rest, u, hturns, -⟩
      have hmem : Turn.meddle files home ∈ [Turn.poll, .finish] := by
        rw [hturns]
        exact List.mem_append_right _ List.mem_cons_self
      simp at hmem
    exact ⟨b, v, hb, hv, hfalse ▸ hx⟩
  · obtain ⟨v, hv, hraised, habsent, -⟩ := hconsumes rfl hpresent hfree
    exact ⟨v, hv, hraised, habsent⟩

/-- A name of so many letters. -/
def lettersPath (n : ℕ) : Path := ⟨0, [String.ofList (List.replicate n 'a')]⟩

theorem spot_lettersPath : ({} : Files).spot (lettersPath 256) =
    .error (.nameTooLong (lettersPath 256)) := by
  have hplain : (lettersPath 256).hasNul = false := by
    unfold lettersPath Path.hasNul
    rw [List.any_cons, List.any_nil, Bool.or_false, String.toList_ofList, List.contains_eq_mem,
      decide_eq_false_iff_not, List.mem_replicate]
    rintro ⟨-, h⟩
    cases h
  have hshort : ¬Files.pathLimit < (lettersPath 256).text.utf8ByteSize := by
    decide +kernel
  have hname : String.ofList (List.replicate 256 'a') ≠ ".." := by
    decide +kernel
  have hlong : Files.nameLimit < (String.ofList (List.replicate 256 'a')).utf8ByteSize := by
    decide +kernel
  unfold Files.spot
  rw [hplain, if_neg Bool.false_ne_true, if_neg hshort]
  unfold lettersPath Files.follow
  dsimp only
  rw [if_neg (by decide +kernel), if_neg hname, if_pos hlong]

/-- A directory at the path outlasts the begin of a run and stops it. Where the system does not take
the path a poll or the begin fails. -/
theorem directory_stops :
    ((watching stopPath (({} : Files).makeDirectory stopPath)).step .begin).bind answer = .ok true ∧
    (∃ b, (watching (lettersPath 256) (.ok {})).step .begin = .ok b ∧
      b.answer = .error (.nameTooLong (lettersPath 256))) ∧
    ((watching ⟨0, ["\x00"]⟩ (.ok {})).step .begin).isOk = false :=
  ⟨by decide +kernel, poll_too_long rfl spot_lettersPath, by decide +kernel⟩

end Watch

end Reroll
