import Mathlib.Data.List.Infix
import Reroll.Proofs.Run.Rule
import Reroll.Proofs.Run.Trial

/-!
# The modifier key

What the device does with the key is read off the journal: its position is the one that the last
call that worked brought it to. The flag of a run is to agree with it. A release that fails leaves
the key down while the flag drops, and the key stays stranded until a call works again; this is the
only way in which the two come apart (`run_followed`).
-/

namespace Reroll

variable {τ ι δ σ α : Type}

open Scene Act

/-! ### The key as a journal tells it -/

namespace Key

/-- The position of the key of the device: the last call that worked brought it there. -/
def position (start : Bool) : List (Note τ ι) → Bool
  | [] => start
  | e :: earlier =>
    match e.deed with
    | .keyed down true => down
    | .released true => false
    | _ => position start earlier

/-- A release failed and no call of the key has worked since. -/
def stranded : List (Note τ ι) → Bool
  | [] => false
  | e :: earlier =>
    match e.deed with
    | .keyed _ true => false
    | .released worked => !worked
    | _ => stranded earlier

/-- The release that the latest deed was has not been told yet, which it still has to be. -/
def releasing : List (Note τ ι) → Bool
  | ⟨.released true, _⟩ :: _ => true
  | _ => false

/-- The node that was dispatched last. -/
def current : List (Note τ ι) → Option Node
  | [] => none
  | e :: earlier =>
    match e.deed with
    | .dispatched n => some n
    | _ => current earlier

/-- The flag tells the position of the key, except for a stranded one, which it takes to be up. -/
def Agrees (start : Bool) (journal : List (Note τ ι)) (held : Bool) : Prop :=
  if stranded journal = true then held = false ∧ position start journal = true
  else held = position start journal

/-- What has to be so when a deed is done with the flag at `held`. Only left clicks call the key,
and they call it to change its position; they are sent with the flag at what their node asks for.
A release lets go of a key that is held, and an attempt begins without one unless the run did. -/
def Fits (start : Bool) (earlier : List (Note τ ι)) (held : Bool) : Deed τ ι → Prop
  | .attempted _ _ => held = true → start = true
  | .keyed down _ => held = !down ∧ ∃ n, current earlier = some n ∧ n.kind = .leftClick
  | .released _ => held = true
  | .clicked x y .left _ => ∃ n post, current earlier = some n ∧ n.kind = .leftClick ∧
      n.data = .click (some ⟨x, y⟩) held post
  | .clicked x y .right _ => ∃ n shift post, current earlier = some n ∧ n.kind = .rightClick ∧
      n.data = .click (some ⟨x, y⟩) shift post
  | _ => True

/-- How things stood when a deed was noted: a release was about to be told, or the flag agreed with
the key and the deed fitted. -/
def Stood (start : Bool) (earlier : List (Note τ ι)) (e : Note τ ι) : Prop :=
  (releasing earlier = true ∧ ∃ v, e.deed = .told v) ∨
    Agrees start earlier e.state.held ∧ Fits start earlier e.state.held e.deed

/-- Whenever a deed was noted, things stood as they should. -/
def Traced (start : Bool) (journal : List (Note τ ι)) : Prop :=
  ∀ e earlier, e :: earlier <:+ journal → Stood start earlier e

/-- The key was followed so far, and the flag agrees with it now. -/
structure Followed (start : Bool) (s : Scene τ ι δ σ) : Prop where
  traced : Traced start s.journal
  agrees : Agrees start s.journal s.state.held

variable {start : Bool} {journal : List (Note τ ι)} {s t : Scene τ ι δ σ}

theorem Traced.nil : Traced start ([] : List (Note τ ι)) := by
  intro e earlier h
  have := h.length_le
  simp at this

theorem Traced.cons {e : Note τ ι} (h : Traced start journal) (he : Stood start journal e) :
    Traced start (e :: journal) := by
  intro d earlier hd
  rcases List.suffix_cons_iff.mp hd with heq | hd
  · obtain ⟨rfl, rfl⟩ := List.cons.inj heq
    exact he
  · exact h d earlier hd

/-- Telling, sleeping, looking and the outcome of a check. -/
def isQuiet : Deed τ ι → Bool
  | .checked _ => true
  | d => d.isIdle || d.isLook

theorem isQuiet_of_idle (d : Deed τ ι) (h : d.isIdle = true) : isQuiet d = true := by
  cases d <;> first | rfl | cases h

theorem isQuiet_of_look (d : Deed τ ι) (h : d.isLook = true) : isQuiet d = true := by
  cases d <;> first | rfl | cases h

/-- Quiet deeds leave the key, and what is known about it, alone. -/
theorem quiet_cons (start : Bool) (journal : List (Note τ ι)) {e : Note τ ι}
    (h : isQuiet e.deed = true) :
    position start (e :: journal) = position start journal ∧
      stranded (e :: journal) = stranded journal ∧ current (e :: journal) = current journal ∧
      ∀ held, Fits start journal held e.deed := by
  obtain ⟨d, state⟩ := e
  cases d <;> first | exact ⟨rfl, rfl, rfl, fun _ => trivial⟩ | cases h

theorem Followed.quiet_append {new : List (Note τ ι)} {held : Bool} (traced : Traced start journal)
    (agrees : Agrees start journal held)
    (hnew : ∀ e ∈ new, isQuiet e.deed = true ∧ e.state.held = held) :
    Traced start (new ++ journal) ∧ Agrees start (new ++ journal) held ∧
      current (new ++ journal) = current journal := by
  induction new with
  | nil => exact ⟨traced, agrees, rfl⟩
  | cons e new ih =>
    obtain ⟨hquiet, hheld⟩ := hnew e (by simp)
    obtain ⟨htraced, hagrees, hcurrent⟩ := ih fun d hd => hnew d (List.mem_cons_of_mem _ hd)
    obtain ⟨hp, hs, hc, hfits⟩ := quiet_cons start (new ++ journal) hquiet
    refine ⟨htraced.cons (.inr ⟨hheld ▸ hagrees, hfits _⟩), ?_, hc.trans hcurrent⟩
    rw [List.cons_append, Agrees, hs, hp]
    exact hagrees

theorem Followed.of_eq (hs : Followed start s) (hj : t.journal = s.journal)
    (hh : t.state.held = s.state.held) : Followed start t := by
  refine ⟨?_, ?_⟩
  · rw [hj]
    exact hs.traced
  · rw [hj, hh]
    exact hs.agrees

theorem steady_quiet (h : Steady (·.isIdle = true) s t) : Steady (isQuiet · = true) s t :=
  ⟨h.grows.mono fun _ he => ⟨isQuiet_of_idle _ he.1, he.2⟩, h.held⟩

/-- The key is followed, and the node that was dispatched last is known. -/
def FollowedAt (start : Bool) (n : Node) (s : Scene τ ι δ σ) : Prop :=
  Followed start s ∧ current s.journal = some n

theorem Followed.of_steady (h : Steady (isQuiet · = true) s t) (hs : Followed start s) :
    Followed start t := by
  obtain ⟨new, hj, hnew⟩ := h.grows.journal
  obtain ⟨htraced, hagrees, -⟩ := Followed.quiet_append hs.traced hs.agrees hnew
  rw [← hj] at htraced hagrees
  exact ⟨htraced, h.held ▸ hagrees⟩

theorem FollowedAt.of_steady {n : Node} (h : Steady (isQuiet · = true) s t)
    (hs : FollowedAt start n s) : FollowedAt start n t := by
  obtain ⟨new, hj, hnew⟩ := h.grows.journal
  obtain ⟨-, -, hcurrent⟩ := Followed.quiet_append hs.1.traced hs.1.agrees hnew
  refine ⟨hs.1.of_steady h, ?_⟩
  rw [hj, hcurrent, hs.2]

/-- A deed that fits keeps the journal traced, whatever it does to the key. -/
theorem Traced.noted {d : Deed τ ι} (hs : Followed start s) (ht : Noted d s t)
    (fits : Fits start s.journal s.state.held d) : Traced start t.journal := by
  rw [ht.journal]
  exact hs.traced.cons (.inr ⟨hs.agrees, fits⟩)

/-- A deed that fits and does not move the key. -/
theorem Followed.noted {d : Deed τ ι} (hs : Followed start s) (ht : Noted d s t)
    (fits : Fits start s.journal s.state.held d)
    (same : ∀ state held,
      Agrees start (⟨d, state⟩ :: s.journal) held = Agrees start s.journal held) :
    Followed start t := by
  refine ⟨Traced.noted hs ht fits, ?_⟩
  rw [ht.journal, same, ht.held]
  exact hs.agrees

/-- A key that is held is not stranded. -/
theorem Followed.of_held (hs : Followed start s) (h : s.state.held = true) :
    stranded s.journal = false ∧ position start s.journal = true := by
  have hagrees := hs.agrees
  unfold Agrees at hagrees
  split at hagrees
  · simp [h] at hagrees
  · next hstranded => exact ⟨by simpa using hstranded, hagrees.symm.trans h⟩

/-! ### What steps do to the key -/

variable {r : Rig τ ι δ σ} {n : Node}

theorem setKey_meets (left : n.kind = .leftClick) (held : Bool) :
    Meets (FollowedAt start n) (Step.setKey r held)
      (fun _ s => FollowedAt start n s ∧ s.state.held = held) (fun _ => FollowedAt start n) := by
  refine .bind .get fun v => .ite (fun h => .pure ?_) fun h => ?_
  · rintro s ⟨rfl, hs⟩
    exact ⟨hs, (beq_iff_eq.mp h).symm⟩
  have hheld : v.state.held = !held := by
    cases hv : v.state.held <;> cases held <;> simp_all
  -- the device has moved the key while the flag still has its old value
  refine .bind (M := fun _ s =>
    Traced start s.journal ∧ Agrees start s.journal held ∧ current s.journal = some n)
    (.operate ?_ ?_) fun _ => ?_
  · rintro u s t - ht ⟨rfl, hs⟩
    refine ⟨Traced.noted hs.1 ht ⟨hheld, n, hs.2, left⟩, ?_, ?_⟩
    · rw [ht.journal]
      rfl
    · rw [ht.journal]
      exact hs.2
  · rintro f s t ht ⟨rfl, hs⟩
    refine ⟨hs.1.noted ht ⟨hheld, n, hs.2, left⟩ fun _ _ => rfl, ?_⟩
    rw [ht.journal]
    exact hs.2
  refine .bind (M := fun _ s => FollowedAt start n s ∧ s.state.held = held) (.modify ?_) fun _ => ?_
  · rintro s ⟨htraced, hagrees, hcurrent⟩
    exact ⟨⟨⟨htraced, hagrees⟩, hcurrent⟩, rfl⟩
  have hquiet : ∀ s t : Scene τ ι δ σ, Steady (isQuiet · = true) s t →
      FollowedAt start n s ∧ s.state.held = held → FollowedAt start n t ∧ t.state.held = held :=
    fun s t hst hs => ⟨hs.1.of_steady hst, hst.held.trans hs.2⟩
  refine .bind (M := fun _ s => FollowedAt start n s ∧ s.state.held = held) ?_ fun _ => ?_
  · exact (Meets.of_within (tell_steady isQuiet_of_idle r _ _) hquiet).fault fun _ _ hs => hs.1
  · exact (Meets.of_within (Delay.pause_steady isQuiet_of_idle r _) hquiet).fault
      fun _ _ hs => hs.1

theorem sendClick_meets {p : Point} {shift : Bool} {post : Value} {b : Button}
    (data : n.data = .click (some p) shift post)
    (kind : n.kind = match b with
      | .left => .leftClick
      | .right => .rightClick) :
    Meets (FollowedAt start n) (Step.sendClick r p shift b) (fun _ => FollowedAt start n)
      (fun _ => FollowedAt start n) := by
  have hnoted : ∀ (x : Except DeviceFault Unit) (s t : Scene τ ι δ σ),
      Noted (.clicked p.x p.y b x.isOk) s t → FollowedAt start n s →
      Fits start s.journal s.state.held (.clicked p.x p.y b x.isOk : Deed τ ι) →
      FollowedAt start n t := by
    intro x s t ht hs hfits
    refine ⟨hs.1.noted ht hfits fun _ _ => rfl, ?_⟩
    rw [ht.journal]
    exact hs.2
  unfold Step.sendClick
  cases b with
  | left =>
    simp only [ite_true]
    refine .bind (setKey_meets kind shift) fun _ => .operate ?_ ?_
    · rintro v s t - ht ⟨hs, rfl⟩
      exact hnoted (.ok v) s t ht hs ⟨n, post, hs.2, kind, data⟩
    · rintro f s t ht ⟨hs, rfl⟩
      exact hnoted (.error f) s t ht hs ⟨n, post, hs.2, kind, data⟩
  | right =>
    simp only [reduceCtorEq, ite_false]
    refine .operate ?_ ?_
    · intro v s t _ ht hs
      exact hnoted (.ok v) s t ht hs ⟨n, shift, post, hs.2, kind, data⟩
    · intro f s t ht hs
      exact hnoted (.error f) s t ht hs ⟨n, shift, post, hs.2, kind, data⟩

theorem clickTarget_ok {p : Point} {shift : Bool} {post : Value}
    (h : Step.clickTarget n = .ok (p, shift, post)) : n.data = .click (some p) shift post := by
  unfold Step.clickTarget at h
  split at h
  · next q shift' post' hdata =>
    split at h
    · cases h
      exact hdata
    · cases h
  · cases h

theorem click_meets {b : Button}
    (kind : n.kind = match b with
      | .left => .leftClick
      | .right => .rightClick) :
    Meets (FollowedAt start n) (Step.click r n b) (fun _ => FollowedAt start n)
      (fun _ => FollowedAt start n) := by
  have hquiet : ∀ s t : Scene τ ι δ σ, Steady (·.isIdle = true) s t →
      FollowedAt start n s → FollowedAt start n t :=
    fun s t hst => FollowedAt.of_steady (steady_quiet hst)
  refine .bind (M := fun x s => Step.clickTarget n = .ok x ∧ FollowedAt start n s)
    (.lift (fun v s hv hs => ⟨hv, hs⟩) fun _ _ _ hs => hs) fun x => ?_
  obtain ⟨p, shift, post⟩ := x
  refine .of_fact fun htarget => ?_
  refine .bind (M := fun _ => FollowedAt start n) ?_ fun clicked => ?_
  · exact Step.trying_meets (sendClick_meets (clickTarget_ok htarget) kind) (fun _ => hquiet)
      (fun _ _ hs => hs) fun _ s t hst hs => ⟨hquiet s t hst hs, fun _ => hquiet s t hst hs⟩
  · refine .ite (fun _ => .bind (M := fun _ => FollowedAt start n) ?_ fun _ => ?_) fun _ => ?_
    · exact .of_within (Delay.pause_steady (fun _ => id) r _) hquiet
    · exact .pure fun _ hs => hs
    · exact .pure fun _ hs => hs

theorem execute_meets : Meets (FollowedAt start n) (Step.execute r n)
    (fun _ => FollowedAt start n) (fun _ => FollowedAt start n) := by
  have htell : ∀ level text, Meets (FollowedAt start n) (tell r level text)
      (fun _ => FollowedAt start n) (fun _ => FollowedAt start n) := fun level text =>
    .of_within (tell_steady isQuiet_of_idle r level text) fun _ _ => .of_steady
  unfold Step.execute
  split
  · next kind => exact .bind (htell _ _) fun _ => click_meets kind
  · next kind => exact .bind (htell _ _) fun _ => click_meets kind
  · refine .bind (htell _ _) fun _ => ?_
    exact .of_within (Step.check_steady isQuiet_of_look isQuiet_of_idle r n) fun _ _ => .of_steady
  · refine .bind (htell _ _) fun _ => ?_
    exact .of_within (Step.delay_steady isQuiet_of_idle r n) fun _ _ => .of_steady
  · exact .bind (htell _ _) fun _ => .pure fun _ hs => hs

theorem advance_meets {g : Graph} : Meets (Followed start) (Traversal.advance r g n)
    (fun _ => Followed start) (fun _ => Followed start) := by
  refine .bind (M := fun _ => FollowedAt start n) ?_ fun _ => ?_
  · intro s hs
    exact ⟨hs.noted (note_noted _ s) trivial fun _ _ => rfl, rfl⟩
  have hexecute : Meets (FollowedAt start n) (Step.execute r n) (fun _ => FollowedAt start n)
      (fun _ => Followed start) := execute_meets.fault fun _ _ hs => hs.1
  split
  · exact .pure fun _ hs => hs.1
  · refine .bind hexecute fun o => .bind (M := fun _ => Followed start) ?_ fun _ => ?_
    · exact fun s hs => Followed.of_steady ((note_noted _ s).steady rfl) hs.1
    · exact .of_within (Traversal.afterCheck_steady isQuiet_of_idle r g n o) fun _ _ =>
        Followed.of_steady
  · refine .bind (M := fun _ => FollowedAt start n) (.bind hexecute fun _ => ?_) fun _ => ?_
    · exact .pure fun _ hs => hs
    · exact .pure fun _ hs => hs.1

/-- After a release the flag is down, be the key stranded or not, and there is no fault. -/
theorem releaseKey_meets : Meets (Followed start) (Step.releaseKey r)
    (fun _ s => Followed start s ∧ s.state.held = false) (fun _ _ => False) := by
  refine .bind .get fun v => .ite (fun held => ?_) fun held => .pure ?_
  · -- until the flag drops, only the journal and what it says about the key are known
    refine .bind (M := fun _ s => Traced start s.journal ∧ Agrees start s.journal false)
      (.outcome (.bind (M := fun _ s => Traced start s.journal ∧ releasing s.journal = true)
        (.operate ?_ ?_) fun _ => ?_)) fun _ => .modify fun s hs => ⟨⟨hs.1, hs.2⟩, rfl⟩
    · rintro u s t - ht ⟨rfl, hs⟩
      refine ⟨Traced.noted hs ht held, ?_⟩
      rw [ht.journal]
      rfl
    · rintro f s t ht ⟨rfl, hs⟩
      refine ⟨Traced.noted hs ht held, ?_⟩
      rw [ht.journal]
      exact ⟨rfl, (hs.of_held held).2⟩
    · intro s hs
      have ht := tell_noted r .info "modifier key released" s
      have hok := tell_ok r .info "modifier key released" s
      generalize tell r .info "modifier key released" s = x at ht hok ⊢
      obtain ⟨_, t⟩ := x
      cases hok
      refine ⟨?_, ?_⟩
      · rw [ht.journal]
        exact hs.1.cons (.inl ⟨hs.2, _, rfl⟩)
      · rw [ht.journal]
        have hreleasing := hs.2
        unfold releasing at hreleasing
        split at hreleasing
        · next hj => rw [hj]; rfl
        · cases hreleasing
  · rintro s ⟨rfl, hs⟩
    exact ⟨hs, by simpa using held⟩

/-! ### Whole runs -/

theorem traversal_rule (g : Graph) : Traversal.Rule r g (fun _ => Followed start)
    (fun _ => Followed start) (fun _ => Followed start) where
  poll _ := (Meets.of_within stopAsked_steady fun _ _ => Followed.of_steady).post
    fun asked s hs => by cases asked <;> exact hs
  missing _ _ _ := .of_within (tell_steady isQuiet_of_idle r _ _) fun _ _ => Followed.of_steady
  finish _ _ _ _ _ hs := hs
  visit _ n _ _ := advance_meets.post fun turn s hs => by
    match turn with
    | .found _ => exact hs
    | .next none => exact hs
    | .next (some _) => exact ⟨hs, hs⟩

/-- Between attempts the key is followed and the flag is down unless the run began with it up. -/
def Rested (start : Bool) (s : Scene τ ι δ σ) : Prop :=
  Followed start s ∧ (s.state.held = true → start = true)

theorem Rested.of_steady (h : Steady (isQuiet · = true) s t) (hs : Rested start s) :
    Rested start t :=
  ⟨hs.1.of_steady h, fun ht => hs.2 (h.held ▸ ht)⟩

theorem Rested.of_eq (hs : Rested start s) (hj : t.journal = s.journal)
    (hh : t.state.held = s.state.held) : Rested start t :=
  ⟨hs.1.of_eq hj hh, fun ht => hs.2 (hh ▸ ht)⟩

variable {p : Plan}

theorem countAttempt_meets (resume : Option String) : Meets (Rested start)
    (Run.countAttempt r p resume) (fun _ => Followed start) (fun _ => Followed start) := by
  refine Run.countAttempt_meets (fun s hs t ht => ?_) ?_ fun _ _ hs => hs
  · have hcounted := hs.of_eq (t := { s with
      state := { s.state with attempts := s.state.attempts + 1 } }) rfl rfl
    exact hcounted.1.noted ht hcounted.2 fun _ _ => rfl
  · exact fun s t hst hs => hs.of_steady (steady_quiet hst)

theorem attempt_meets (resume : Option String) : Meets (Rested start) (Run.attempt r p resume)
    (fun _ => Rested start) (fun _ => Followed start) := by
  have hrelease : Meets (Followed start) (Step.releaseKey r) (fun _ => Rested start)
      (fun _ _ => False) :=
    releaseKey_meets.post fun _ s hs => ⟨hs.1, by simp [hs.2]⟩
  refine .bind (countAttempt_meets resume) fun _ => ?_
  refine .followedBy (Traversal.run_meets (traversal_rule p.graph) resume) (fun _ => ?_) fun _ => ?_
  · exact hrelease.fault fun _ _ => False.elim
  · exact (hrelease.post fun _ _ hs => hs.1).fault fun _ _ => False.elim

theorem run_rule : Run.Rule r p (fun _ _ => Rested start) (fun _ _ => Rested start)
    (fun _ => Followed start) (fun _ => Followed start) where
  out _ _ hs := hs.1
  poll _ _ := by
    have hpoll : Meets (Rested start) (stopAsked : Act τ ι δ σ Bool) (fun _ => Rested start)
        (fun _ => Rested start) := .of_within stopAsked_steady fun _ _ => Rested.of_steady
    refine (hpoll.fault fun _ _ hs => hs.1).post fun asked s hs => ?_
    cases asked with
    | true => exact hs.1
    | false => exact hs
  limit _ _ s hs := by
    unfold Run.Measured
    split
    · exact hs.1
    · exact hs.1
    · exact hs
  attempt _ resume := (attempt_meets resume).post fun t s hs => by
    cases t with
    | found _ => exact hs.1
    | stopped => exact hs.1
    | resumed _ => exact hs
    | ended => exact hs

theorem begin_meets : Meets (Rested start) (Run.begin p : Act τ ι δ σ Unit)
    (fun _ => Rested start) (fun _ => Rested start) :=
  Run.begin_meets (fun _ hs => hs.of_eq rfl rfl) (fun _ _ hs => hs.of_eq rfl rfl) fun _ _ hs => hs

theorem runValid_meets : Meets (Rested start) (Run.runValid r p)
    (fun _ s => Followed start s ∧ s.state.held = false) (fun _ => Rested start) := by
  have hattempts : Meets (Rested start) (Run.attempts r p) (fun _ => Followed start)
      (fun _ => Followed start) := by
    refine Run.attempts_meets run_rule ?_ (fun _ hs => hs) fun _ _ hs => hs.1
    exact fun s t hst hs => hs.of_steady (steady_quiet hst)
  have hrelease : RunOutcome → Meets (Followed start) (Step.releaseKey r)
      (fun _ s => Followed start s ∧ s.state.held = false) (fun _ => Rested start) :=
    fun _ => releaseKey_meets.fault fun _ _ => False.elim
  refine (Run.runValid_meets begin_meets hattempts ?_ hrelease ?_ ?_).post fun _ _ hs => hs.1
  · exact fun _ s t hst hs => hs.of_steady (steady_quiet hst)
  · exact fun _ s hs => ⟨hs.1.of_eq rfl rfl, hs.2⟩
  · exact fun _ s t hst hs => ⟨hs.1.of_steady (steady_quiet hst), hst.held.trans hs.2⟩

/-- The key is followed through every run, and at the end the flag is down unless the run began
with it up and made no attempt. -/
theorem run_followed (r : Rig τ ι δ σ) (p : Plan) (s : Scene τ ι δ σ) :
    Rested s.state.held (Run.run r p s).2 := by
  have hs : Rested s.state.held { s with journal := ([] : List (Note τ ι)) } :=
    ⟨⟨.nil, rfl⟩, id⟩
  by_cases sound : p.graph.problems = []
  · rcases Run.run_ends sound runValid_meets s hs with ⟨x, t, hrun, ht⟩ | ⟨f, t, hrun, ht⟩
    · rw [hrun]
      exact ⟨ht.1, by simp [ht.2]⟩
    · rw [hrun]
      exact ht
  · rw [Run.run_unsound sound]
    exact hs

theorem Stood.agrees {e : Note τ ι} (h : Stood start journal e) :
    (releasing journal = true ∧ ∃ v, e.deed = .told v) ∨ Agrees start journal e.state.held :=
  h.imp id And.left

theorem Stood.fits {e : Note τ ι} (h : Stood start journal e) (untold : ∀ v, e.deed ≠ .told v) :
    Agrees start journal e.state.held ∧ Fits start journal e.state.held e.deed := by
  rcases h with ⟨-, v, hv⟩ | h
  · exact absurd hv (untold v)
  · exact h

theorem Agrees.position {held : Bool} (h : Agrees start journal held) :
    position start journal = (held || stranded journal) := by
  unfold Agrees at h
  split at h
  · next hs => simp [h, hs]
  · next hs => simp [h, hs]

/-- Two left clicks, the second one with the key. -/
def clicking : Plan :=
  Trial.plan
    [Trial.start,
      { id := "plain", kind := .leftClick, data := .click (some ⟨.int 1, .int 2⟩) false (.int 0) },
      { id := "shifted", kind := .leftClick, data := .click (some ⟨.int 3, .int 4⟩) true (.int 0) },
      Trial.finish]
    [⟨Graph.startId, "plain", none⟩, ⟨"plain", "shifted", none⟩, ⟨"shifted", Graph.endId, none⟩] 2

/-- The key can be pressed once and does nothing more. -/
def sticking : Script where
  key := [{ result := () }, { fault := some (.failed "OSError" "stuck"), result := () }]

/-- A left click at a node that asks for the key to be up. -/
def isPlainClick (e : Note τ ι) (earlier : List (Note τ ι)) : Bool :=
  match e.deed, (current earlier).map Node.data with
  | .clicked _ _ .left _, some (.click _ false _) => true
  | _, _ => false

/-- The journal of two attempts at clicking with a key that sticks. -/
def stuckJournal : List (Note Float String) :=
  (Run.run (Trial.rig sticking) clicking Trial.scene).2.journal

end Key

end Reroll
