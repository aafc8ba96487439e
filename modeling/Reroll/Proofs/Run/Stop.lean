import Reroll.Proofs.Run.Ending

/-!
# Stopping a run

A stop that is asked for while a move of a run is under way is seen at the next look for one. From
then on the run starts nothing, neither a node nor an attempt, and it ends as stopped, unless what
was under way had already come to a find or a fault (`run_heeds_stop`).
-/

namespace Reroll

variable {τ ι δ σ α : Type}

open Scene Act

/-- A deed that starts something: an attempt, or the step of a node. -/
def Deed.isStart : Deed τ ι → Bool
  | .attempted _ _ | .dispatched _ => true
  | _ => false

theorem Deed.not_start_of_step {d : Deed τ ι} (h : d.isOfStep = true) : d.isStart = false := by
  cases d <;> first | rfl | cases h

theorem Deed.not_start_of_idle {d : Deed τ ι} (h : d.isIdle = true) : d.isStart = false :=
  not_start_of_step (isOfStep_of_idle h)

/-! ### Looks for a stop -/

namespace Scene

/-- A look for a stop would see one. -/
def Pending (s : Scene τ ι δ σ) : Prop :=
  s.state.stopRequested = true ∨ s.state.signalPresent s.files = .ok true

end Scene

theorem RunState.plain_of_present {s : RunState} {files : Files}
    (present : s.signalPresent files = .ok true) : ∀ p, s.signal = some p → p.hasNul = false := by
  intro p hp
  by_contra hnul
  have hnul : p.hasNul = true := by simpa using hnul
  have hmissing : s.signalPresent files = .ok false := by
    unfold signalPresent
    rw [hp]
    simp only [Files.isPresent, Files.find, Files.spot, hnul, ite_true]
  rw [hmissing] at present
  cases present

theorem Act.stopAsked_pending {s : Scene τ ι δ σ} (h : Pending s) :
    ∃ t, stopAsked s = (.ok true, t) := by
  rw [stopAsked_apply]
  by_cases hasked : s.state.stopRequested = true
  · have hpoll : s.state.poll s.files = .ok (s.state, s.files, []) := by
      unfold RunState.poll
      simp only [hasked, ite_true]
      rfl
    rw [hpoll]
    dsimp only
    rw [hasked]
    exact ⟨_, rfl⟩
  · have hpresent : s.state.signalPresent s.files = .ok true := h.resolve_left hasked
    obtain ⟨⟨files, log⟩, hclear⟩ :=
      RunState.clearSignal_ok (RunState.plain_of_present hpresent) s.files
    have hpoll : ∃ log, s.state.poll s.files = .ok (s.state.requestStop, files, log) := by
      unfold RunState.poll
      simp only [hasked, hpresent, hclear, bind, Except.bind]
      exact ⟨_, rfl⟩
    obtain ⟨log, hpoll⟩ := hpoll
    rw [hpoll]
    exact ⟨_, rfl⟩

/-- Wherever no stop is seen there is none. -/
theorem Act.stopAsked_clear {x : Except Fault Bool} {s t : Scene τ ι δ σ}
    (h : stopAsked s = (x, t)) (hx : x ≠ .ok true) : ¬Pending t := by
  have hnot : ¬Pending s := by
    intro hpending
    obtain ⟨u, hu⟩ := stopAsked_pending hpending
    rw [hu] at h
    exact hx (congrArg Prod.fst h).symm
  have hasked : ¬s.state.stopRequested = true := fun hasked => hnot (.inl hasked)
  have hsame : s = t := by
    rw [stopAsked_apply] at h
    cases hpresent : s.state.signalPresent s.files with
    | error e =>
      simp only [RunState.poll, hasked, hpresent, bind, Except.bind] at h
      exact congrArg Prod.snd h
    | ok present =>
      cases present with
      | true => exact absurd (.inr hpresent) hnot
      | false =>
        have hpoll : s.state.poll s.files = .ok (s.state, s.files, []) := by
          unfold RunState.poll
          simp only [hasked, hpresent, bind, Except.bind]
          rfl
        rw [hpoll] at h
        exact congrArg Prod.snd h
  rw [← hsame]
  exact hnot

namespace Run

variable {r : Rig τ ι δ σ} {p : Plan} {s t u : Scene τ ι δ σ} {m : Int}
variable {j : List (Note τ ι)}

/-! ### What a move starts -/

/-- Of the deeds since the journal `j` only the earliest may start something. -/
def Opened (j : List (Note τ ι)) (s : Scene τ ι δ σ) : Prop :=
  ∃ later first, s.journal = later ++ (first ++ j) ∧ first.length ≤ 1 ∧
    ∀ e ∈ later, e.deed.isStart = false

theorem Opened.of_eq (h : s.journal = j) : Opened j s :=
  ⟨[], [], h, Nat.zero_le 1, by simp⟩

theorem Opened.of_cons {e : Note τ ι} (h : s.journal = e :: j) : Opened j s :=
  ⟨[], [e], h, Nat.le_refl 1, by simp⟩

theorem Opened.of_grows (h : Grows (fun e => e.deed.isStart = false) s t) (hs : Opened j s) :
    Opened j t := by
  obtain ⟨new, hnew, hplain⟩ := h.journal
  obtain ⟨later, first, hjournal, hlength, hlater⟩ := hs
  refine ⟨new ++ later, first, ?_, hlength, ?_⟩
  · rw [hnew, hjournal, List.append_assoc]
  · intro e he
    rcases List.mem_append.mp he with he | he
    · exact hplain e he
    · exact hlater e he

theorem Opened.of_idle (h : Steady (·.isIdle = true) s t) (hs : Opened j s) : Opened j t :=
  hs.of_grows (h.grows.mono fun _ he => Deed.not_start_of_idle he.1)

theorem Opened.of_step (h : Grows (fun e => e.deed.isOfStep = true) s t) (hs : Opened j s) :
    Opened j t :=
  hs.of_grows (h.mono fun _ he => Deed.not_start_of_step he)

theorem stopAsked_journal :
    Meets (fun s : Scene τ ι δ σ => s.journal = j) stopAsked (fun _ s => s.journal = j)
      (fun _ => Opened j) := by
  refine (Meets.of_within (stopAsked_steady (p := fun _ => False)) ?_).fault fun _ _ => .of_eq
  intro s t hst hs
  obtain ⟨new, hnew, hnone⟩ := hst.grows.journal
  have hempty : new = [] := List.eq_nil_iff_forall_not_mem.mpr fun e he => (hnone e he).1
  rw [hnew, hempty, hs]
  rfl

theorem advance_opens (g : Graph) (n : Node) :
    Meets (fun s => s.journal = j) (Traversal.advance r g n) (fun _ => Opened j)
      (fun _ => Opened j) := by
  have hstep : Meets (Opened j) (Step.execute r n) (fun _ => Opened j) (fun _ => Opened j) :=
    .of_within (Step.execute_ofStep r n) fun _ _ => Opened.of_step
  refine .bind (M := fun _ => Opened j) ?_ fun _ => ?_
  · intro s hs
    have hnoted := (note_noted (.dispatched n) s).journal
    rw [hs] at hnoted
    exact .of_cons hnoted
  · split
    · exact .pure fun _ hs => hs
    · refine .bind hstep fun o => .bind (M := fun _ => Opened j) ?_ fun _ => ?_
      · exact fun s hs => Opened.of_grows (note_steady (p := fun d => d.isStart = false) rfl
          |>.of_steady s) hs
      · have hafter := Traversal.afterCheck_steady (p := (·.isIdle = true)) (fun _ => id) r g n o
        exact .of_within hafter fun _ _ => Opened.of_idle
    · exact .bind (.bind hstep fun _ => .pure fun _ hs => hs) fun _ => .pure fun _ hs => hs

theorem visit_opens (g : Graph) (visited : List String) (id : String) :
    Meets (fun s => s.journal = j) (Station.visit r g visited id) (fun _ => Opened j)
      (fun _ => Opened j) := by
  refine .bind stopAsked_journal fun asked => .ite (fun _ => .pure fun _ => .of_eq) fun _ => ?_
  cases g.node? id with
  | none =>
    refine .bind (M := fun _ => Opened j) (.tell fun s t hst hs => ?_) fun _ => .pure fun _ hs => hs
    exact .of_idle hst (.of_eq hs)
  | some n =>
    refine .ite (fun _ => .pure fun _ => .of_eq) fun _ => ?_
    exact .bind (advance_opens g n) fun _ => .pure fun _ hs => hs

theorem begin_opens (resume : Option String) :
    Meets (fun s => s.journal = j) (Station.begin r p resume) (fun _ => Opened j)
      (fun _ => Opened j) := by
  refine .bind stopAsked_journal fun asked => .ite (fun _ => .pure fun _ => .of_eq) fun _ => ?_
  refine .bind .get fun v => .bind (M := fun _ s => s.journal = j) (.lift ?_ ?_) fun reached => ?_
  · exact fun _ _ _ hs => hs.2
  · exact fun _ _ _ hs => .of_eq hs.2
  · refine .ite (fun _ => .pure fun _ => .of_eq) fun _ => ?_
    refine .bind (countAttempt_meets ?_ ?_ fun _ _ hs => hs) fun _ => .pure fun _ hs => hs
    · intro s hs t ht
      have hnoted := ht.journal
      dsimp only at hnoted
      rw [hs] at hnoted
      exact .of_cons hnoted
    · exact fun _ _ => Opened.of_idle

/-- A move starts at most one thing, and that at once. -/
theorem act_opens (st : Station) :
    Meets (fun s => s.journal = j) (st.act r p) (fun _ => Opened j) (fun _ => Opened j) := by
  cases st with
  | outset =>
    have hdelay := Meets.of_within (P := Opened j)
      (startDelay_steady (p := (·.isIdle = true)) (fun _ => id) r p) fun _ _ => Opened.of_idle
    refine .bind (hdelay.mono (fun _ => .of_eq) (fun _ _ hs => hs) fun _ _ hs => hs) fun _ => ?_
    exact .pure fun _ hs => hs
  | round resume => exact begin_opens resume
  | node visited id => exact visit_opens p.graph visited id
  | leaving x =>
    have hrelease := Meets.of_within (P := Opened j) (Step.releaseKey_ofStep r)
      fun _ _ => Opened.of_step
    refine .bind (hrelease.mono (fun _ => .of_eq) (fun _ _ hs => hs) fun _ _ hs => hs) fun _ => ?_
    exact .pure fun _ hs => hs
  | finished x => exact .pure fun _ => .of_eq

theorem move_opens (c : Station × Scene τ ι δ σ) : Opened c.2.journal (move r p c).2 := by
  have hact := act_opens (r := r) (p := p) c.1 c.2 rfl
  unfold move
  generalize c.1.act r p c.2 = x at hact ⊢
  rcases x with ⟨f | next, t⟩
  · exact hact
  · exact hact

/-! ### From a stop to the end -/

/-- The scene of the next look for a stop; only a release of the key can come before it. -/
def nextLook (r : Rig τ ι δ σ) (c : Station × Scene τ ι δ σ) : Scene τ ι δ σ :=
  match c.1 with
  | .leaving _ => (Step.releaseKey r c.2).2
  | _ => c.2

/-- What the attempts come to from a station on when a stop is pending there. -/
def verdict : Station → Except Fault RunOutcome
  | .leaving (.ok (.found hit)) => .ok (.found hit)
  | .leaving (.error f) => .error f
  | .finished e => e
  | _ => .ok .stopped

theorem round_stops (resume : Option String) (h : Pending s) :
    ∃ t, move r p (.round resume, s) = (.finished (.ok .stopped), t) ∧
      Grows (fun e => e.deed.isStart = false) s t := by
  obtain ⟨t, ht⟩ := stopAsked_pending h
  have hlooked := (stopAsked_steady (p := fun _ => False) s).grows
  rw [ht] at hlooked
  refine ⟨t, move_ok (.round resume) ?_, hlooked.mono fun e he => he.1.elim⟩
  dsimp only [Station.act]
  unfold Station.begin
  rw [bind_apply, ht]
  rfl

theorem node_stops (visited : List String) (id : String) (h : Pending s) :
    ∃ t, move r p (.node visited id, s) = (.leaving (.ok .stopped), t) ∧
      Grows (fun e => e.deed.isStart = false) s t := by
  obtain ⟨t, ht⟩ := stopAsked_pending h
  have hlooked := (stopAsked_steady (p := fun _ => False) s).grows
  rw [ht] at hlooked
  refine ⟨t, move_ok (.node visited id) ?_, hlooked.mono fun e he => he.1.elim⟩
  dsimp only [Station.act]
  unfold Station.visit
  rw [bind_apply, ht]
  rfl

theorem release_starts_nothing (s : Scene τ ι δ σ) :
    Grows (fun e => e.deed.isStart = false) s (Step.releaseKey r s).2 :=
  (Step.releaseKey_ofStep r s).mono fun _ he => Deed.not_start_of_step he

theorem pending_leads {st : Station} (started : st ≠ .outset)
    (h : Pending (nextLook r (st, s))) :
    ∃ t, Leads r p (st, s) (.finished (verdict st), t) ∧
      Grows (fun e => e.deed.isStart = false) s t := by
  have hround : ∀ resume u, Pending u →
      ∃ t, Leads r p (.round resume, u) (.finished (.ok .stopped), t) ∧
        Grows (fun e => e.deed.isStart = false) u t := by
    intro resume u hu
    obtain ⟨t, hmove, hgrows⟩ := round_stops (r := r) (p := p) resume hu
    exact ⟨t, .of_move hmove, hgrows⟩
  cases st with
  | outset => exact absurd rfl started
  | round resume => exact hround resume s h
  | node visited id =>
    obtain ⟨t, hmove, hgrows⟩ := node_stops (r := r) (p := p) visited id h
    exact ⟨_, (Leads.of_move hmove).trans (.of_move (move_leaving _)),
      hgrows.trans (release_starts_nothing t)⟩
  | leaving x =>
    have hrelease : Leads r p (.leaving x, s) (.after x, (Step.releaseKey r s).2) :=
      .of_move (move_leaving x)
    have hnone := release_starts_nothing (r := r) s
    match x with
    | .error f => exact ⟨_, hrelease, hnone⟩
    | .ok (.found hit) => exact ⟨_, hrelease, hnone⟩
    | .ok .stopped => exact ⟨_, hrelease, hnone⟩
    | .ok (.resumed id) =>
      obtain ⟨t, hstops, hgrows⟩ := hround (some id) _ h
      exact ⟨t, hrelease.trans hstops, hnone.trans hgrows⟩
    | .ok .ended =>
      obtain ⟨t, hstops, hgrows⟩ := hround none _ h
      exact ⟨t, hrelease.trans hstops, hnone.trans hgrows⟩
  | finished e => exact ⟨s, ⟨0, rfl⟩, Grows.refl _ s⟩

/-! ### What can forestall a stop -/

def isFinished : Station → Bool
  | .finished _ => true
  | _ => false

/-- What had come to a find or a fault before a stop could be seen, which arrives on the move from
one station to the next: the visit of a node that is the move, the traversal before the release of
the key that is the move, or the delay at the start. -/
inductive Forestalled : Station → Station → RunOutcome → Prop
  | found (visited : List String) (id : String) (hit : Match) :
    Forestalled (.node visited id) (.leaving (.ok (.found hit))) (.found hit)
  | raised (visited : List String) (id : String) (f : Fault) :
    Forestalled (.node visited id) (.leaving (.error f)) (.failed f.text)
  | foundBefore (next : Station) (hit : Match) :
    Forestalled (.leaving (.ok (.found hit))) next (.found hit)
  | raisedBefore (next : Station) (f : Fault) :
    Forestalled (.leaving (.error f)) next (.failed f.text)
  | delayed (f : Fault) : Forestalled .outset (.finished (.error f)) (.failed f.text)

/-- A round ends with its attempts used up, or with a fault, only where no stop is pending. -/
theorem begin_asks (writable : p.maxAttempts.isWritable = true) (resume : Option String) :
    Meets (fun _ : Scene τ ι δ σ => True) (Station.begin r p resume)
      (fun next s => next = .finished (.ok .exhausted) → ¬Pending s) (fun _ s => ¬Pending s) := by
  have hpoll : Meets (fun _ : Scene τ ι δ σ => True) stopAsked
      (fun asked s => asked = false → ¬Pending s) (fun _ s => ¬Pending s) := by
    intro s _
    rcases hs : stopAsked s with ⟨f | asked, t⟩
    · exact stopAsked_clear hs (by simp)
    · intro hasked
      exact stopAsked_clear hs (by simp [hasked])
  refine .bind hpoll fun asked => .ite (fun _ => .pure ?_) fun hasked => ?_
  · rintro s - ⟨⟩
  refine .bind (M := fun v s => v = s ∧ ¬Pending s) ?_ fun v => ?_
  · exact fun s hs => ⟨rfl, hs (by simpa using hasked)⟩
  refine .bind (M := fun _ s => ¬Pending s) (.lift (fun _ _ _ hs => hs.2) ?_) fun reached => ?_
  · intro e s he hs
    exact hs.2
  refine .ite (fun _ => .pure fun s hs _ => hs) fun _ => ?_
  refine .bind ((countAttempt_fault resume).mono (fun _ _ => trivial) (fun _ _ hs => hs) ?_)
    fun _ => .pure ?_
  · intro f s hunwritable
    rw [writable] at hunwritable
    cases hunwritable
  · rintro s - ⟨⟩

/-- As long as the attempts are not over, a stop that the next look sees makes them end as stopped,
unless something has forestalled it. -/
theorem move_forestalls (limit : p.maxAttempts = .int m)
    (writable : p.maxAttempts.isWritable = true) {c : Station × Scene τ ι δ σ}
    (going : isFinished c.1 = false) (asked : Pending (nextLook r (move r p c))) :
    (move r p c).1 ≠ .outset ∧ (.ofEnd (verdict (move r p c).1) = RunOutcome.stopped ∨
      Forestalled c.1 (move r p c).1 (.ofEnd (verdict (move r p c).1))) := by
  obtain ⟨st, s⟩ := c
  cases st with
  | outset =>
    have hdelay : Meets (fun _ => True) (Station.act r p .outset)
        (fun next _ => next = .round none) (fun _ _ => True) :=
      .bind (.any _) fun _ => .pure fun _ _ => rfl
    have hdelay := hdelay s trivial
    unfold move
    dsimp only
    generalize Station.act r p .outset s = x at hdelay ⊢
    rcases x with ⟨f | next, t⟩
    · exact ⟨by simp [Station.broken], .inr (.delayed f)⟩
    · cases hdelay
      exact ⟨by simp, .inl rfl⟩
  | round resume =>
    have hasks := begin_asks (r := r) writable resume s trivial
    have hbegun := begin_begun (r := r) limit s.state.attempts resume s rfl
    unfold move at asked ⊢
    dsimp only [Station.act] at asked ⊢
    generalize Station.begin r p resume s = x at hasks hbegun asked ⊢
    rcases x with ⟨f | next, t⟩
    · exact absurd asked hasks
    · cases hbegun with
      | stopped made => exact ⟨by simp, .inl rfl⟩
      | exhausted made used => exact absurd asked (hasks rfl)
      | node id made left => exact ⟨by simp, .inl rfl⟩
  | node visited id =>
    have hvisits := visit_visits r p.graph visited id s trivial
    unfold move
    dsimp only [Station.act]
    generalize Station.visit r p.graph visited id s = x at hvisits ⊢
    rcases x with ⟨f | next, t⟩
    · exact ⟨by simp [Station.broken], .inr (.raised visited id f)⟩
    · cases hvisits with
      | left x =>
        refine ⟨by simp, ?_⟩
        cases x with
        | found hit => exact .inr (.found visited id hit)
        | stopped => exact .inl rfl
        | resumed id => exact .inl rfl
        | ended => exact .inl rfl
      | on mem named fresh => exact ⟨by simp, .inl rfl⟩
  | leaving x =>
    rw [move_leaving]
    match x with
    | .error f => exact ⟨by simp [Station.after], .inr (.raisedBefore _ f)⟩
    | .ok (.found hit) => exact ⟨by simp [Station.after], .inr (.foundBefore _ hit)⟩
    | .ok .stopped => exact ⟨by simp [Station.after], .inl rfl⟩
    | .ok (.resumed id) => exact ⟨by simp [Station.after], .inl rfl⟩
    | .ok .ended => exact ⟨by simp [Station.after], .inl rfl⟩
  | finished e => cases going

theorem Forestalled.not_exhausted {c d : Station} {o : RunOutcome} (h : Forestalled c d o) :
    o ≠ .exhausted := by
  cases h <;> simp

/-- A stop is asked for while the screen is grabbed. -/
def halted : Script where
  grab := [{ stop := true, result := "image" }]

/-- A stop is asked for while the key, which the click needed, is released. -/
def late : Script where
  key := [{ result := () }, { stop := true, result := () }]
  recognize := [{ result := [⟨.text "+10 to maximum life", .num (.float 96.0)⟩] }]

/-- A click with the key down, and a check that leads to the end. -/
def shifted : Plan :=
  Trial.plan
    [Trial.start,
      { id := "click", kind := .leftClick
        data := .click (some ⟨.int 1, .int 2⟩) true (.int 0) },
      { id := "look", kind := .check
        data := .check (some ⟨.int 0, .int 0, .int 8, .int 8⟩) [.plain "life"] },
      Trial.finish]
    [⟨Graph.startId, "click", none⟩, ⟨"click", "look", none⟩,
      ⟨"look", Graph.endId, some Graph.onFound⟩] 2

def isLeaving : Station → Bool
  | .leaving _ => true
  | _ => false

end Run

end Reroll
