import Reroll.Proofs.Run.Isolation
import Reroll.Proofs.Run.Roster

/-!
# Runs exclude each other

Calls that share a crafter exclude each other as long as no download ends during a run
(`runs_alone`): a call within its run keeps the run in progress whatever its pieces do, and one that
comes then is turned down. A stop that is asked for during a run is heeded under the same condition
(`stop_heeded`). A download that ends during a run begins another one beside it (`runs_overlap`) and
drops what was asked for (`stop_lost`).
-/

namespace Reroll

variable {τ ι δ σ : Type}

open Scene Act

namespace Roster

/-! ### Exclusion -/

/-- At most one call is within its run, and each call sits well in the session. -/
structure Sound (ro : Roster τ ι δ σ) : Prop where
  alone : ∀ i j, ro.Inside i → ro.Inside j → i = j
  sits : ∀ (i : ℕ) (call : Call τ ι δ σ), call ∈ ro.calls[i]? → call.Sits ro.session

variable {c : Crafter τ ι δ σ} {ro : Roster τ ι δ σ} {calls : List (Call τ ι δ σ)} {i : ℕ}

/-- A call that comes while a run is in progress leaves all as it is. -/
theorem step_busy (h : ro.session.scene.state.running = true) (p : Plan) :
    step c ro (.arrive p) = ⟨ro.session, ro.calls ++ [.ended [] (.error .busy)]⟩ := by
  unfold step
  dsimp only
  rw [Crafter.call_busy h]

theorem step_resume {call : Call τ ι δ σ} (h : ro.calls[i]? = some call) :
    step c ro (.resume i) =
      ⟨(c.resume ro.session call).2, ro.calls.set i (c.resume ro.session call).1⟩ := by
  unfold step
  dsimp only
  rw [h]

theorem step_resume_none (h : ro.calls[i]? = none) : step c ro (.resume i) = ro := by
  unfold step
  dsimp only
  rw [h]

theorem Sound.running (h : ro.Sound) (inside : ro.Inside i) :
    ro.session.scene.state.running = true := by
  obtain ⟨call, hcall, hinside⟩ := inside
  have hsits := h.sits i call hcall
  cases call with
  | fetching p keep => cases hinside
  | inside failures journal resume => exact hsits.1
  | ended journal result => cases hinside

/-- The session changes for one call, while no other one is within its run. -/
theorem sound_of_moved {session : Session τ ι δ σ}
    (others : ∀ j, j ≠ i → calls[j]? = ro.calls[j]?) (alone : ∀ j, ro.Inside j → j = i)
    (sits : ∀ call : Call τ ι δ σ, call ∈ calls[i]? → call.Sits session) :
    Sound ⟨session, calls⟩ := by
  have hinside : ∀ j, Inside ⟨session, calls⟩ j → j = i := by
    rintro j ⟨call, hcall, hinside⟩
    by_contra hj
    rw [others j hj] at hcall
    exact hj (alone j ⟨call, hcall, hinside⟩)
  refine ⟨fun j k hj hk => (hinside j hj).trans (hinside k hk).symm, fun j call hcall => ?_⟩
  by_cases hj : j = i
  · subst hj
    exact sits call hcall
  · refine .of_not_inside ?_ _
    by_contra hcontra
    exact hj (hinside j ⟨call, hcall, by simpa using hcontra⟩)

/-- No call that is within its run has changed, and whether a run is in progress neither. -/
theorem Sound.still (h : ro.Sound) {session : Session τ ι δ σ}
    (same : ∀ (j : ℕ) (call : Call τ ι δ σ), call ∈ calls[j]? → call.isInside = true →
      call ∈ ro.calls[j]?)
    (running : session.scene.state.running = ro.session.scene.state.running) :
    Sound ⟨session, calls⟩ := by
  have hinside : ∀ j, Inside ⟨session, calls⟩ j → ro.Inside j := by
    rintro j ⟨call, hcall, hinside⟩
    exact ⟨call, same j call hcall hinside, hinside⟩
  refine ⟨fun j k hj hk => h.alone j k (hinside j hj) (hinside k hk), fun j call hcall => ?_⟩
  cases hin : call.isInside with
  | false => exact .of_not_inside hin _
  | true =>
    have hsits := h.sits j call (same j call hcall hin)
    cases call with
    | fetching p keep => cases hin
    | inside failures journal resume => exact ⟨running.trans hsits.1, hsits.2⟩
    | ended journal result => cases hin

theorem getElem?_concat_ne {α : Type} (l : List α) (a : α) {j : ℕ} (h : j ≠ l.length) :
    (l ++ [a])[j]? = l[j]? := by
  rcases Nat.lt_or_gt_of_ne h with hlt | hgt
  · exact List.getElem?_append_left hlt
  · rw [List.getElem?_eq_none (by simp; omega), List.getElem?_eq_none (by omega)]

/-- When a call goes on, no other one is within its run, or it is over and nothing changes. -/
theorem resume_alone (h : ro.Sound) (spaced : ro.Spaced (.resume i)) {call : Call τ ι δ σ}
    (hcall : ro.calls[i]? = some call) :
    (∀ j, ro.Inside j → j = i) ∨ c.resume ro.session call = (call, ro.session) := by
  cases call with
  | fetching p keep => exact .inl fun j hj => absurd hj (spaced i rfl ⟨_, hcall, rfl⟩ j)
  | inside failures journal resume => exact .inl fun j hj => h.alone j i hj ⟨_, hcall, rfl⟩
  | ended journal result => exact .inr rfl

theorem step_sound (h : ro.Sound) {turn : Turn δ} (spaced : ro.Spaced turn) :
    (step c ro turn).Sound := by
  cases turn with
  | arrive p =>
    by_cases hnone : ∃ j, ro.Inside j
    · -- A run is in progress, so the call that comes is over at once.
      obtain ⟨j, hj⟩ := hnone
      rw [step_busy (h.running hj)]
      refine h.still (fun k call hcall hinside => ?_) rfl
      by_cases hk : k = ro.calls.length
      · rw [hk, List.getElem?_concat_length] at hcall
        cases hcall
        cases hinside
      · rw [getElem?_concat_ne _ _ hk] at hcall
        exact hcall
    · -- Nobody is within a run, so it does not matter what becomes of the session.
      refine sound_of_moved (fun j hj => getElem?_concat_ne _ _ hj)
        (fun j hj => absurd ⟨j, hj⟩ hnone) fun call hcall => ?_
      rw [List.getElem?_concat_length] at hcall
      cases hcall
      exact Crafter.call_sits c p ro.session
  | resume i =>
    cases hcall : ro.calls[i]? with
    | none =>
      rw [step_resume_none hcall]
      exact h
    | some call =>
      rw [step_resume hcall]
      obtain ⟨hlt, hget⟩ := List.getElem?_eq_some_iff.mp hcall
      rcases resume_alone (c := c) h spaced hcall with halone | hsame
      · refine sound_of_moved (fun j hj => List.getElem?_set_ne (Ne.symm hj)) halone ?_
        intro next hnext
        rw [List.getElem?_set_self hlt] at hnext
        cases hnext
        exact Crafter.resume_sits (h.sits i call hcall)
      · rw [hsame, ← hget, List.set_getElem_self]
        exact h
  | outside i devices => exact h.still (fun _ _ hcall _ => hcall) (undergo_running i _)

theorem after_sound (h : ro.Sound) {turns : List (Turn δ)} (orderly : Orderly c ro turns) :
    (after c ro turns).Sound := by
  induction turns generalizing ro with
  | nil => exact h
  | cons turn turns ih => exact ih (step_sound h orderly.1) orderly.2

theorem sound_start (s : Session τ ι δ σ) : Sound ⟨s, []⟩ := by
  refine ⟨?_, ?_⟩
  · rintro i j ⟨call, hcall, -⟩
    simp at hcall
  · intro i call hcall
    simp at hcall

theorem after_append (ro : Roster τ ι δ σ) (before later : List (Turn δ)) :
    after c ro (before ++ later) = after c (after c ro before) later := List.foldl_append

theorem orderly_append {ro : Roster τ ι δ σ} {before later : List (Turn δ)} :
    Orderly c ro (before ++ later) ↔
      Orderly c ro before ∧ Orderly c (after c ro before) later := by
  induction before generalizing ro with
  | nil => exact iff_of_eq (true_and _).symm
  | cons turn turns ih =>
    simp only [List.cons_append, Orderly, ih, and_assoc]
    rfl

theorem orderly_of_begun {turns : List (Turn δ)}
    (known : ∀ p, .arrive p ∈ turns → (p.known.isNone && c.fetches) = false)
    (begun : ∀ call ∈ ro.calls, call.isFetching = false) : Orderly c ro turns := by
  induction turns generalizing ro with
  | nil => trivial
  | cons turn turns ih =>
    refine ⟨fun i _ hfetching => ?_, ih (fun p hp => known p (List.mem_cons_of_mem _ hp)) ?_⟩
    · obtain ⟨call, hcall, hfetching⟩ := hfetching
      rw [begun call (List.mem_of_getElem? hcall)] at hfetching
      cases hfetching
    · intro call hcall
      cases turn with
      | arrive p =>
        rcases List.mem_append.mp hcall with hcall | hcall
        · exact begun call hcall
        · rw [List.mem_singleton.mp hcall]
          exact Crafter.call_begun (known p List.mem_cons_self) _
      | resume i =>
        cases hnext : ro.calls[i]? with
        | none =>
          rw [step_resume_none hnext] at hcall
          exact begun call hcall
        | some next =>
          rw [step_resume hnext] at hcall
          rcases List.mem_or_eq_of_mem_set hcall with hcall | rfl
          · exact begun call hcall
          · exact Crafter.resume_begun (begun next (List.mem_of_getElem? hnext)) _
      | outside i devices => exact begun call hcall

/-- Any schedule will do if the crafter is not to download anything, or the plans list the known
modifiers. -/
theorem orderly_of_known (s : Session τ ι δ σ) {turns : List (Turn δ)}
    (known : ∀ p, .arrive p ∈ turns → (p.known.isNone && c.fetches) = false) :
    Orderly c ⟨s, []⟩ turns :=
  orderly_of_begun known (by simp)

/-- Runs exclude each other: at any time of a schedule in which no download ends during a run at
most one call is within its run, and a call that comes then is turned down and leaves all as it
is. -/
theorem runs_alone (c : Crafter τ ι δ σ) (s : Session τ ι δ σ) (before later : List (Turn δ))
    (orderly : Orderly c ⟨s, []⟩ (before ++ later)) :
    (∀ i j, (after c ⟨s, []⟩ before).Inside i → (after c ⟨s, []⟩ before).Inside j → i = j) ∧
    ∀ i p, (after c ⟨s, []⟩ before).Inside i →
      step c (after c ⟨s, []⟩ before) (.arrive p) =
        { after c ⟨s, []⟩ before with
          calls := (after c ⟨s, []⟩ before).calls ++ [.ended [] (.error .busy)] } := by
  have hsound := after_sound (c := c) (sound_start s) (orderly_append.mp orderly).1
  exact ⟨hsound.alone, fun i p hinside => step_busy (hsound.running hinside) p⟩

/-- A crafter that sees nothing and is told to download the known modifiers. -/
def seeker : Crafter Int String Int Unit := { Crafter.blind with fetches := true }

/-- What becomes of calls to a new crafter of that kind. -/
def sought (turns : List (Turn Int)) : Roster Int String Int Unit :=
  after seeker ⟨Crafter.untouched 0, []⟩ turns

theorem spaced_of_idle (h : ro.calls.all (!·.isInside) = true) (turn : Turn δ) :
    ro.Spaced turn := by
  rintro i - - j ⟨call, hcall, hinside⟩
  have hnot := List.all_eq_true.mp h call (List.mem_of_getElem? hcall)
  rw [hinside] at hnot
  cases hnot

theorem spaced_arrive (p : Plan) : ro.Spaced (.arrive p) := by
  rintro i ⟨⟩

/-- The first call is done with its download and waits for the screen when the second one comes. -/
theorem runs_alone_of_seeker :
    (sought [.arrive Trial.waiting, .resume 0]).Inside 0 ∧
    step seeker (sought [.arrive Trial.waiting, .resume 0]) (.arrive Trial.waiting) =
      { sought [.arrive Trial.waiting, .resume 0] with
        calls := (sought [.arrive Trial.waiting, .resume 0]).calls ++
          [.ended [] (.error .busy)] } := by
  have hinside : (sought [.arrive Trial.waiting, .resume 0]).Inside 0 := by decide +kernel
  have horderly : Orderly seeker ⟨Crafter.untouched 0, []⟩
      ([.arrive Trial.waiting, .resume 0] ++ [.arrive Trial.waiting]) :=
    ⟨spaced_arrive _, spaced_of_idle (by decide +kernel) _, spaced_arrive _, trivial⟩
  obtain ⟨-, hbusy⟩ := runs_alone seeker (Crafter.untouched 0) [.arrive Trial.waiting, .resume 0]
    [.arrive Trial.waiting] horderly
  exact ⟨hinside, hbusy 0 Trial.waiting hinside⟩

/-- Two calls come one after the other, and each begins its run when its download ends. -/
theorem runs_overlap :
    (sought [.arrive Trial.waiting, .arrive Trial.waiting, .resume 0, .resume 1]).Inside 0 ∧
    (sought [.arrive Trial.waiting, .arrive Trial.waiting, .resume 0, .resume 1]).Inside 1 := by
  decide +kernel

/-! ### Stops -/

/-- Call number `k` has begun its run, has started nothing since its journal was `j`, and a stop is
requested as long as it is within its run. -/
def Halting (k : ℕ) (j : List (Note τ ι)) (ro : Roster τ ι δ σ) : Prop :=
  ∃ call ∈ ro.calls[k]?, call.isFetching = false ∧
    (call.isInside = true → ro.session.scene.state.stopRequested = true) ∧
    ∃ new, call.journal = new ++ j ∧ ∀ e ∈ new, e.deed.isStart = false

variable {k : ℕ} {j : List (Note τ ι)}

theorem step_halting (h : ro.Sound) {turn : Turn δ} (spaced : ro.Spaced turn)
    (halting : Halting k j ro) : Halting k j (step c ro turn) := by
  obtain ⟨call, hcall, hbegun, hstop, new, hnew, hplain⟩ := halting
  have hlt : k < ro.calls.length := (List.getElem?_eq_some_iff.mp hcall).1
  cases turn with
  | arrive p =>
    refine ⟨call, ?_, hbegun, fun hinside => ?_, new, hnew, hplain⟩
    · exact (getElem?_concat_ne _ _ (Nat.ne_of_lt hlt)).trans hcall
    · rw [step_busy (h.running ⟨call, hcall, hinside⟩)]
      exact hstop hinside
  | resume i =>
    cases hnext : ro.calls[i]? with
    | none =>
      rw [step_resume_none hnext]
      exact ⟨call, hcall, hbegun, hstop, new, hnew, hplain⟩
    | some next =>
      rw [step_resume hnext]
      by_cases hi : i = k
      · subst hi
        cases hcall.symm.trans hnext
        obtain ⟨more, hmore, hnone, hstop⟩ :=
          Crafter.resume_halts (c := c) (h.sits i call hcall) hbegun hstop
        refine ⟨_, List.getElem?_set_self hlt, Crafter.resume_begun hbegun _, hstop, more ++ new,
          ?_, ?_⟩
        · rw [hmore, hnew, List.append_assoc]
        · intro e he
          rcases List.mem_append.mp he with he | he
          · exact hnone e he
          · exact hplain e he
      · refine ⟨call, (List.getElem?_set_ne hi).trans hcall, hbegun, fun hinside => ?_, new, hnew,
          hplain⟩
        -- Only the beginning of another run could drop the request.
        rcases resume_alone (c := c) h spaced hnext with halone | hsame
        · exact absurd (halone k ⟨call, hcall, hinside⟩).symm hi
        · dsimp only
          rw [hsame]
          exact hstop hinside
  | outside i devices =>
    refine ⟨call, hcall, hbegun, fun hinside => ?_, new, hnew, hplain⟩
    exact (undergo_steady (p := fun _ => True) i ro.session.scene).grows.stop (hstop hinside)

theorem after_halting (h : ro.Sound) {turns : List (Turn δ)} (orderly : Orderly c ro turns)
    (halting : Halting k j ro) : Halting k j (after c ro turns) := by
  induction turns generalizing ro with
  | nil => exact halting
  | cons turn turns ih =>
    exact ih (step_sound h orderly.1) orderly.2 (step_halting h orderly.1 halting)

/-- A stop that is asked for while a call is within its run is heeded, if no download ends during a
run: from then on the call starts neither a node nor an attempt. -/
theorem stop_heeded (c : Crafter τ ι δ σ) (s : Session τ ι δ σ) (before later : List (Turn δ))
    (x : Influence) (devices : δ → δ) (k : ℕ) (asked : x.stop = true)
    (orderly : Orderly c ⟨s, []⟩ (before ++ .outside x devices :: later))
    (inside : (after c ⟨s, []⟩ before).Inside k) :
    ∃ new, (after c ⟨s, []⟩ (before ++ .outside x devices :: later)).journal k =
        new ++ (after c ⟨s, []⟩ before).journal k ∧ ∀ e ∈ new, e.deed.isStart = false := by
  obtain ⟨hbefore, hlater⟩ := orderly_append.mp orderly
  have hsound := after_sound (c := c) (sound_start s) hbefore
  rw [after_append]
  generalize after c ⟨s, []⟩ before = ro at hlater inside hsound
  obtain ⟨call, hcall, hinside⟩ := inside
  have hhalting : Halting k call.journal (step c ro (.outside x devices)) := by
    refine ⟨call, hcall, Call.not_fetching_of_inside hinside, fun _ => ?_, [], rfl, by simp⟩
    exact disturb_stop asked devices ro.session
  obtain ⟨last, hlast, -, -, new, hnew, hplain⟩ :=
    after_halting (step_sound hsound hlater.1) hlater.2 hhalting
  refine ⟨new, ?_, hplain⟩
  rw [journal_of hcall, ← hnew]
  exact journal_of hlast

/-- How many nodes and attempts a call has started. -/
def starts (ro : Roster τ ι δ σ) (i : ℕ) : ℕ := (ro.journal i).countP (·.deed.isStart)

theorem starts_of_journal {ro' : Roster τ ι δ σ} {new : List (Note τ ι)}
    (h : ro'.journal i = new ++ ro.journal i) (plain : ∀ e ∈ new, e.deed.isStart = false) :
    ro'.starts i = ro.starts i := by
  have hnone : new.countP (·.deed.isStart) = 0 :=
    List.countP_eq_zero.mpr fun e he => by simp [plain e he]
  unfold starts
  rw [h, List.countP_append, hnone, Nat.zero_add]

/-- Somebody asks for a stop. -/
def stopNow : Turn Int := .outside { stop := true } id

/-- The stop comes while the first call waits for the screen. -/
theorem stop_heeded_of_seeker :
    (sought [.arrive Trial.waiting, .resume 0]).Inside 0 ∧
    (sought ([.arrive Trial.waiting, .resume 0] ++ [stopNow, .resume 0])).starts 0 =
      (sought [.arrive Trial.waiting, .resume 0]).starts 0 := by
  have hinside : (sought [.arrive Trial.waiting, .resume 0]).Inside 0 := by decide +kernel
  have horderly : Orderly seeker ⟨Crafter.untouched 0, []⟩
      ([.arrive Trial.waiting, .resume 0] ++ [stopNow, .resume 0]) := by
    refine ⟨spaced_arrive _, spaced_of_idle (by decide +kernel) _, ?_, ?_, trivial⟩
    · rintro i ⟨⟩
    · rintro i ⟨⟩ hfetching
      exact absurd hfetching (by decide +kernel)
  obtain ⟨new, hnew, hplain⟩ := stop_heeded seeker (Crafter.untouched 0)
    [.arrive Trial.waiting, .resume 0] [.resume 0] { stop := true } id 0 rfl horderly hinside
  exact ⟨hinside, starts_of_journal hnew hplain⟩

/-- A stop that comes while a call waits for its download is lost, and so is one that comes while
the run of another call is in progress, when a download ends before that run looks for it. -/
theorem stop_lost :
    ((sought [.arrive Trial.waiting]).Fetching 0 ∧
      0 < (sought [.arrive Trial.waiting, stopNow, .resume 0]).starts 0) ∧
    (sought [.arrive Trial.waiting, .arrive Trial.waiting, .resume 0]).Inside 0 ∧
      (sought [.arrive Trial.waiting, .arrive Trial.waiting, .resume 0, stopNow]).starts 0 <
        (sought [.arrive Trial.waiting, .arrive Trial.waiting, .resume 0, stopNow, .resume 1,
          .resume 0]).starts 0 := by
  decide +kernel

end Roster

end Reroll
