import Reroll.Proofs.Run.Count
import Reroll.Proofs.Run.Ending

/-!
# Failures in a row

Each device has a counter of failures. It counts the steps since the last one in which the device
worked, or since the start of the run, in which it was used and did not; no other device and no
release of the key touches it. A positive limit is reached just at the step that ends the run.
-/

namespace Reroll

variable {τ ι δ σ α : Type}

open Scene Act

namespace Streak

variable {l : List (Visit τ ι)} {targets : List Spec} {v : Visit τ ι} {d : Devices τ ι δ}
variable {r : Rig τ ι δ σ} {s t : Scene τ ι δ σ} {m : Int} {c : Capability}

/-- The fault that ends the attempts, from the station where it occurs on. -/
def fault? : Station → Option Fault
  | .leaving (.error f) => some f
  | .finished (.error f) => some f
  | _ => none

/-- The counters are right, and none of them has reached the limit. -/
structure Even (targets : List Spec) (m : Int) (s : Scene τ ι δ σ) : Prop where
  agrees : Agrees targets s.failures (steps s.journal)
  below : Below m s.failures

theorem Even.of_quiet (h : Quiet s t) (hs : Even targets m s) : Even targets m t := by
  refine ⟨?_, ?_⟩
  · rw [h.failures, h.steps]
    exact hs.agrees
  · rw [h.failures]
    exact hs.below

/-- What holds of the counters at a station. -/
def Standing (d : Devices τ ι δ) (targets : List Spec) (m : Int) (st : Station)
    (s : Scene τ ι δ σ) : Prop :=
  Even targets m s ∨ ∃ f l, fault? st = some f ∧ Fallen d targets m l s f

variable {p : Plan} {cur : Station × Scene τ ι δ σ}

theorem act_quiet (r : Rig τ ι δ σ) (p : Plan) (st : Station)
    (still : ∀ visited id, st ≠ .node visited id) : Within Quiet (st.act r p) := by
  cases st with
  | outset =>
    refine .bind ?_ fun _ => .pure _
    refine .bind (.lift _ _) fun _ => .ite (.bind (.lift _ _) fun length => ?_) (.pure _)
    exact .bind (tell_quiet r _ _) fun _ => pause_quiet r _
  | round resume =>
    refine .bind stopAsked_quiet fun _ => .ite (.pure _) (.bind .get fun _ => ?_)
    refine .bind (.lift _ _) fun _ => .ite (.pure _) (.bind ?_ fun _ => .pure _)
    refine .bind .get fun _ => .bind (.modify fun _ => ⟨rfl, rfl⟩) fun _ => ?_
    refine .bind (fun _ => ⟨rfl, rfl⟩) fun _ => .ite ?_ (.pure _)
    exact .bind (.lift _ _) fun _ => tell_quiet r _ _
  | node visited id => exact absurd rfl (still visited id)
  | leaving x => exact .bind (releaseKey_quiet r) fun _ => .pure _
  | finished e => exact .pure _

theorem fault_moves {f : Fault} (h : fault? cur.1 = some f) :
    fault? (Run.move r p cur).1 = some f := by
  obtain ⟨st, s⟩ := cur
  unfold fault? at h
  split at h
  · next hst =>
    dsimp only at hst
    rw [hst, Run.move_leaving]
    exact h
  · next hst =>
    dsimp only at hst
    rw [hst, Run.move_finished]
    exact h
  · cases h

/-- What the visit of a node does to the counters: nothing, if it comes to no step, or it adds the
step of the node. -/
theorem visit_counts (limit : r.failureLimit = .int m) (visited : List String) (id : String)
    (s : Scene τ ι δ σ) (even : Even r.targets m s) :
    Quiet s (Run.move r p (.node visited id, s)).2 ∨
      Stepped r.targets m (steps s.journal) (Run.move r p (.node visited id, s)).2 ∧
        fault? (Run.move r p (.node visited id, s)).1 = none ∨
      ∃ f, fault? (Run.move r p (.node visited id, s)).1 = some f ∧ Fallen r.devices r.targets m
        (steps s.journal) (Run.move r p (.node visited id, s)).2 f := by
  have hvisit : Meets (· = s) (Station.visit r p.graph visited id)
      (fun _ t => Quiet s t ∨ Stepped r.targets m (steps s.journal) t)
      (fun f t => Quiet s t ∨ Fallen r.devices r.targets m (steps s.journal) t f) := by
    have hpoll : Meets (· = s) (stopAsked : Act τ ι δ σ Bool) (fun _ => Quiet s)
        (fun _ => Quiet s) := by
      refine (Meets.of_within (P := Quiet s) stopAsked_quiet fun t u htu hst => ?_).mono ?_
        (fun _ _ hs => hs) fun _ _ hs => hs
      · exact trans_of Quiet hst htu
      · rintro t rfl
        exact refl_of Quiet t
    have htell : ∀ text, Meets (Quiet s) (tell r .warning text) (fun _ => Quiet s)
        (fun _ => Quiet s) := fun text =>
      .of_within (tell_quiet r .warning text) fun t u htu hst => trans_of Quiet hst htu
    refine .bind (hpoll.fault fun _ _ hs => .inl hs) fun asked => ?_
    refine .ite (fun _ => .pure fun _ hs => .inl hs) fun _ => ?_
    cases p.graph.node? id with
    | none =>
      refine .bind ((htell _).fault fun _ _ hs => .inl hs) fun _ => .pure fun _ hs => .inl hs
    | some n =>
      refine .ite (fun _ => .pure fun _ hs => .inl hs) fun _ => ?_
      refine .bind ((advance_meets limit even.agrees even.below p.graph n).mono ?_
        (fun _ _ hs => hs) fun _ _ hs => .inr hs) fun _ => .pure fun _ hs => .inr hs
      exact fun t ht => ⟨ht.failures, ht.steps⟩
  have hvisits := Run.visit_visits r p.graph visited id s trivial
  have hvisit := hvisit s rfl
  unfold Run.move
  dsimp only [Station.act]
  generalize Station.visit r p.graph visited id s = x at hvisit hvisits ⊢
  rcases x with ⟨f | next, t⟩
  · rcases hvisit with hquiet | hfallen
    · exact .inl hquiet
    · exact .inr (.inr ⟨f, rfl, hfallen⟩)
  · have hnone : fault? next = none := by cases hvisits <;> rfl
    rcases hvisit with hquiet | hstepped
    · exact .inl hquiet
    · exact .inr (.inl ⟨hstepped, hnone⟩)

theorem Standing.move (limit : r.failureLimit = .int m)
    (h : Standing r.devices r.targets m cur.1 cur.2) :
    Standing r.devices r.targets m (Run.move r p cur).1 (Run.move r p cur).2 := by
  by_cases hnode : ∃ visited id, cur.1 = .node visited id
  · obtain ⟨visited, id, hst⟩ := hnode
    obtain ⟨st, s⟩ := cur
    dsimp only at hst
    subst hst
    rcases h with heven | ⟨f, l, hfault, -⟩
    · rcases visit_counts limit visited id s heven with
        hquiet | ⟨hstepped, -⟩ | ⟨f, hfault, hfallen⟩
      · exact .inl (heven.of_quiet hquiet)
      · exact .inl ⟨hstepped.agrees, hstepped.below⟩
      · exact .inr ⟨f, _, hfault, hfallen⟩
    · cases hfault
  · have hquiet : Quiet cur.2 (Run.move r p cur).2 := by
      rw [Run.move_snd]
      exact act_quiet r p cur.1 (fun visited id hst => hnode ⟨visited, id, hst⟩) cur.2
    rcases h with heven | ⟨f, l, hfault, hfallen⟩
    · exact .inl (heven.of_quiet hquiet)
    · exact .inr ⟨f, l, fault_moves hfault, hfallen.of_quiet hquiet⟩

theorem course_stands (limit : r.failureLimit = .int m) (even : Even r.targets m s) (k : Nat) :
    Standing r.devices r.targets m (Run.course r p s k).1 (Run.course r p s k).2 := by
  have hstart : Standing r.devices r.targets m (Run.course r p s 0).1 (Run.course r p s 0).2 :=
    .inl even
  rw [← Nat.zero_add k]
  exact Run.course_keeps (I := fun c => Standing r.devices r.targets m c.1 c.2) hstart
    (fun c hc => hc.move limit) k

theorem opening_even (targets : List Spec) (m : Int) (begins : Run.Begins p s) :
    Even targets m (Run.opening p s) := by
  obtain ⟨-, hfresh⟩ := Run.begin_opening begins
  have hsteps : steps (Run.opening p s).journal = [] := by
    rw [hfresh.journal]
    rfl
  refine ⟨?_, ?_⟩
  · rw [hfresh.failures, hsteps]
    intro c
    cases c <;> rfl
  · rw [hfresh.failures]
    rintro c ⟨hpositive, hle⟩
    have hzero : (({} : Failures).of c : Int) = 0 := by cases c <;> rfl
    omega

/-- No step fails more than one capability. -/
theorem worked_unique {c' : Capability} (h : worked? targets v c = some false)
    (h' : worked? targets v c' = some false) : c' = c := by
  have hkinds : isClick v.node = true → v.node.kind ≠ .check := by
    intro hclick hkind
    simp [isClick, hkind] at hclick
  cases c <;> cases c' <;> simp_all [worked?]

/-- Where the attempts come to after so many moves of a run. -/
def place (r : Rig τ ι δ σ) (p : Plan) (s : Scene τ ι δ σ) (k : Nat) : Station × Scene τ ι δ σ :=
  Run.course (Run.rigFor r p) p (Run.opening p s) k

/-- A run whose attempts come to a fault ends with it. -/
theorem run_fails {limit : Int} {f : Fault} {k : Nat} (sound : p.graph.problems = [])
    (attempts : p.maxAttempts = .int limit) (begins : Run.Begins p s)
    (h : fault? (place r p s k).1 = some f) :
    ∃ x t, Run.run r p s = (.ok x, t) ∧ x.outcome = .failed f.text := by
  obtain ⟨x, t, hrun, hclosed⟩ := Run.run_closed (r := r) sound begins
  have hnone : (Run.opening p s).state.attempts = 0 := by
    rw [(Run.begin_opening begins).2.state]
    rfl
  obtain ⟨n, hn⟩ := Run.course_finished (r := Run.rigFor r p) attempts hnone
  have hlater := Run.course_keeps (I := fun c => fault? c.1 = some f) h
    (fun c hc => fault_moves hc) n
  rw [Nat.add_comm, Run.course_finished_add hn k] at hlater
  refine ⟨x, t, hrun, ?_⟩
  rw [hclosed.outcome]
  generalize (Run.attempts (Run.rigFor r p) p (Run.opening p s)).1 = e at hlater ⊢
  cases e with
  | error f' =>
    cases hlater
    rfl
  | ok o => cases hlater

theorem Fallen.counter_of {st : Station} {f : Fault} (h : Fallen d targets m l s f)
    (hfault : fault? st = some f) (c : Capability) :
    s.failures.of c = streak targets c (steps s.journal) ∨
      ¬Ordinary d c ∧ (∃ text, fault? st = some (.unavailable text)) ∧
        s.failures.of c + 1 = streak targets c (steps s.journal) := by
  cases h with
  | aside _ v latest agrees below serves =>
    rw [latest]
    exact .inl (agrees c)
  | tooMany v c' text latest agrees fails positive reached =>
    rw [latest]
    exact .inl (agrees c)
  | unavailable v c' text latest special fails agrees behind below =>
    rw [latest]
    by_cases hc : c = c'
    · subst hc
      exact .inr ⟨special, ⟨text, hfault⟩, behind⟩
    · exact .inl (agrees c hc)

/-- If an ordinary device failed in the latest step, and this ended with a fault, then it did so
since the limit is reached. -/
theorem Fallen.of_ordinary {f : Fault} (h : Fallen d targets m l s f) (hordinary : Ordinary d c)
    (hfails : ((steps s.journal).head?.bind fun v => worked? targets v c) = some false) :
    ∃ text, 0 < m ∧ streak targets c (steps s.journal) = m ∧
      f = .unavailable (complaint c (streak targets c (steps s.journal)) text) := by
  cases h with
  | aside _ v latest agrees below serves =>
    rw [latest] at hfails
    exact absurd hfails (serves c)
  | tooMany v c' text latest agrees fails positive reached =>
    rw [latest] at hfails
    have hc : c = c' := worked_unique fails hfails
    subst hc
    rw [agrees c] at reached ⊢
    rw [latest]
    exact ⟨text, positive, reached, rfl⟩
  | unavailable v c' text latest special fails agrees behind below =>
    rw [latest] at hfails
    have hc : c = c' := worked_unique fails hfails
    subst hc
    exact absurd hordinary special

/-- A move that adds a step is the visit of a node. -/
theorem step_counts (limit : r.failureLimit = .int m)
    (h : Standing r.devices r.targets m cur.1 cur.2)
    (hstep : (steps cur.2.journal).length < (steps (Run.move r p cur).2.journal).length) :
    ∃ l, (Stepped r.targets m l (Run.move r p cur).2 ∧ fault? (Run.move r p cur).1 = none) ∨
      ∃ f, fault? (Run.move r p cur).1 = some f ∧
        Fallen r.devices r.targets m l (Run.move r p cur).2 f := by
  have hmoves : ¬Quiet cur.2 (Run.move r p cur).2 := by
    intro hquiet
    rw [hquiet.steps] at hstep
    exact Nat.lt_irrefl _ hstep
  by_cases hnode : ∃ visited id, cur.1 = .node visited id
  · obtain ⟨visited, id, hst⟩ := hnode
    obtain ⟨st, s⟩ := cur
    dsimp only at hst
    subst hst
    rcases h with heven | ⟨f, l, hfault, -⟩
    · rcases visit_counts (p := p) limit visited id s heven with hquiet | hstepped | hfallen
      · exact absurd hquiet hmoves
      · exact ⟨_, .inl hstepped⟩
      · exact ⟨_, .inr hfallen⟩
    · cases hfault
  · refine absurd ?_ hmoves
    rw [Run.move_snd]
    exact act_quiet r p cur.1 (fun visited id hst => hnode ⟨visited, id, hst⟩) cur.2

/-- Nothing can be grabbed from the screen, though the device is there. -/
def dark : Script where
  grab := [{ fault := some (.failed "OSError" "dark"), result := "" }]

theorem dark_ordinary : Ordinary (Trial.rig dark 2).devices .capture := by
  refine ⟨fun region devices text h => ?_, fun image devices text h => ?_⟩
  · have hcue : ((Trial.rig dark 2).devices.grab region devices).1.result =
        .error (.failed "OSError" "dark") := by
      change (Cue.nth dark.grab { result := Rehearsal.plainImage } devices.grabs).answer.result = _
      cases devices.grabs <;> simp [Cue.nth, Cue.answer, dark]
    rw [hcue] at h
    cases h
  · have hcue : ((Trial.rig dark 2).devices.prepare image devices).1.result =
        .ok (Rehearsal.twoImages image) := rfl
    rw [hcue] at h
    cases h

end Streak

end Reroll
