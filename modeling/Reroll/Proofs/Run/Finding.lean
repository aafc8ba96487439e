import Reroll.Proofs.Run.Sighting
import Reroll.Proofs.Run.Trial

/-!
# What a run finds

A run finds something just when one of its visits is a sighting. Until then no visit is one, and
the sighting ends the run, so it is the last visit; what was found is a target of its check and a
line of its readings (`run_finds_sighted`).
-/

namespace Reroll

variable {τ ι δ σ α : Type}

open Scene Act

/-- The run gives a result, which is that something was found. -/
def Run.Finds (r : Rig τ ι δ σ) (p : Plan) (s : Scene τ ι δ σ) (hit : Match) : Prop :=
  ∃ x, (run r p s).1 = .ok x ∧ x.outcome = .found hit

theorem Run.Finds.outcome {r : Rig τ ι δ σ} {p : Plan} {s : Scene τ ι δ σ} {hit : Match}
    {x : RunResult} (h : Finds r p s hit) (hx : (run r p s).1 = .ok x) :
    x.outcome = .found hit := by
  obtain ⟨y, hy, hfound⟩ := h
  rw [hx] at hy
  cases hy
  exact hfound

theorem Run.not_finds {r : Rig τ ι δ σ} {p : Plan} {s : Scene τ ι δ σ} {f : RunError}
    (hf : (run r p s).1 = .error f) : ¬∃ hit, Finds r p s hit := by
  rintro ⟨hit, x, hx, -⟩
  rw [hf] at hx
  cases hx

namespace Visit

variable {r : Rig τ ι δ σ} {g : Graph} {e : Exclusion} {n : Node} {s t : Scene τ ι δ σ}
variable {P Q : List (Visit τ ι) → Prop} {word : String}

/-! ### Visits of nodes -/

theorem note_meets {d : Deed τ ι} {E : Fault → Scene τ ι δ σ → Prop}
    (h : ∀ journal state, P (ofJournal journal) → Q (ofJournal (⟨d, state⟩ :: journal))) :
    Meets (Seen P) (note d : Act τ ι δ σ Unit) (fun _ => Seen Q) E :=
  fun _ hs => h _ _ hs

theorem Clear.dispatch {journal : List (Note τ ι)} (h : Clear r g e (ofJournal journal))
    (state : RunState) : Looking r g e n [] (ofJournal (⟨.dispatched n, state⟩ :: journal)) :=
  ⟨ofJournal journal, rfl, h⟩

/-- The latest visit is one of the node; none before it is a sighting. -/
def Visiting (r : Rig τ ι δ σ) (g : Graph) (e : Exclusion) (n : Node)
    (visits : List (Visit τ ι)) : Prop :=
  ∃ looks, Looking r g e n looks visits

/-- The looks of a step are looks of the latest visit. -/
theorem Visiting.of_grows (h : Grows (fun e => e.deed.isOfStep = true) s t)
    (hs : Seen (Visiting r g e n) s) : Seen (Visiting r g e n) t := by
  obtain ⟨new, hj, hnew⟩ := h.journal
  rw [Seen, hj]
  clear hj
  induction new with
  | nil => exact hs
  | cons e new ih =>
    obtain ⟨looks, rest, hvisits, hclear⟩ := ih fun d hd => hnew d (List.mem_cons_of_mem _ hd)
    have hd := hnew e (List.mem_cons_self ..)
    obtain ⟨d, state⟩ := e
    by_cases hlook : d.isLook = true
    · refine ⟨looks ++ [d], rest, ?_, hclear⟩
      cases d <;> first | simp [ofJournal, Deed.isLook, hvisits, addLook]; done | cases hlook
    · refine ⟨looks, rest, ?_, hclear⟩
      cases d <;> first | exact hvisits | exact absurd rfl hlook | cases hd

/-- A visit of anything but a check is no sighting. -/
theorem Visiting.clear (hk : n.kind ≠ .check) {visits : List (Visit τ ι)}
    (h : Visiting r g e n visits) : Clear r g e visits := by
  obtain ⟨looks, h⟩ := h
  exact h.clear fun hsighted => hk hsighted.kind

theorem execute_meets (hk : n.kind ≠ .check) :
    Meets (Seen (Looking r g e n [])) (Step.execute r n) (fun _ => Seen (Clear r g e))
      (fun _ => Seen (Clear r g e)) := by
  have hstep : Meets (Seen (Visiting r g e n)) (Step.execute r n)
      (fun _ => Seen (Visiting r g e n)) (fun _ => Seen (Visiting r g e n)) :=
    .of_within (Step.execute_ofStep r n) fun _ _ => Visiting.of_grows
  refine hstep.mono ?_ ?_ ?_
  · exact fun s hs => ⟨[], hs⟩
  · exact fun _ s hs => hs.mono fun _ => Visiting.clear hk
  · exact fun _ s hs => hs.mono fun _ => Visiting.clear hk

/-- What a turn after a node says about the visits so far. -/
def Turning (r : Rig τ ι δ σ) (g : Graph) (e : Exclusion) :
    Traversal.Turn → List (Visit τ ι) → Prop
  | .found hit => Hit r g e hit
  | .next _ => Clear r g e

theorem afterCheck_meets (hk : n.kind = .check) (o : StepOutcome) :
    Meets (Seen (Judged r g e n o)) (Traversal.afterCheck r g n o)
      (fun turn => Seen (Turning r g e turn)) (fun _ => Seen (Clear r g e)) := by
  refine .of_exists fun looks => ?_
  obtain ⟨hit?, lines⟩ := o
  unfold Traversal.afterCheck
  cases hit? with
  | none =>
    refine .pure fun s hs => hs.1.clear fun hsighted => ?_
    obtain ⟨spec, line, hsatisfies⟩ := hsighted.seen
    exact hs.2 spec line hsatisfies
  | some hit =>
    dsimp only
    cases hedge : g.nextEdge? n.id (some Graph.onFound) with
    | none =>
      have hnot : ¬Sighted r g e ⟨n, looks⟩ := by
        intro hsighted
        have hfinal := hsighted.final
        simp [hedge] at hfinal
      refine .bind (M := fun _ => Seen (Clear r g e)) (.tell fun s t hst hs => ?_) fun _ =>
        .pure fun _ hs => hs
      exact Seen.of_steady hst (hs.1.clear hnot)
    | some edge =>
      refine .ite (fun hend => .pure fun s hs => ?_) fun hend => .pure fun s hs => ?_
      · obtain ⟨⟨rest, hvisits, hclear⟩, hsatisfies, hshows⟩ := hs
        refine ⟨⟨n, looks⟩, rest, hvisits, hclear, ⟨hk, ?_, hit.spec, hit.line, hsatisfies⟩,
          hsatisfies, hshows⟩
        rw [hedge, Option.map_some, hend]
      · refine hs.1.clear fun hsighted => ?_
        have hfinal := hsighted.final
        rw [hedge, Option.map_some, Option.some.injEq] at hfinal
        exact hend hfinal

/-- Before a visit no visit was a sighting; after it none is, or the traversal has found what the
visit shows. -/
theorem advance_meets (exclusion : r.exclusion = .ok e) (context : e.context = .text word)
    (numeric : r.settings.thresholds.Numeric) (legible : GivesLegible r) :
    Meets (Seen (Clear r g e)) (Traversal.advance r g n) (fun turn => Seen (Turning r g e turn))
      (fun _ => Seen (Clear r g e)) := by
  refine .bind (M := fun _ => Seen (Looking r g e n []))
    (note_meets fun _ state hclear => hclear.dispatch state) fun _ => ?_
  split
  · next hstart =>
    exact .pure fun s hs => hs.mono fun _ h => Visiting.clear (by simp [hstart]) ⟨[], h⟩
  · next hcheck =>
    refine .bind (M := fun o => Seen (Judged r g e n o)) ?_ fun o => ?_
    · unfold Step.execute
      rw [hcheck]
      refine .bind (M := fun _ => Seen (Looking r g e n []))
        (.tell fun _ _ => Seen.of_steady) fun _ => ?_
      exact check_meets exclusion context numeric legible
    · refine .bind (M := fun _ => Seen (Judged r g e n o)) (note_meets fun _ _ hs => hs) fun _ => ?_
      exact afterCheck_meets hcheck o
  · next hcheck =>
    refine .bind (M := fun _ => Seen (Clear r g e)) (.bind (execute_meets hcheck) fun _ => ?_)
      fun _ => .pure fun _ hs => hs
    exact .pure fun _ hs => hs

/-! ### Whole runs -/

/-- What a run that ended so says about its visits. -/
def Ended (r : Rig τ ι δ σ) (g : Graph) (e : Exclusion) : RunOutcome → List (Visit τ ι) → Prop
  | .found hit => Hit r g e hit
  | _ => Clear r g e

/-- What a traversal that ended so says about the visits so far. -/
def Traversed (r : Rig τ ι δ σ) (g : Graph) (e : Exclusion) : Traversal → List (Visit τ ι) → Prop
  | .found hit => Hit r g e hit
  | _ => Clear r g e

section Legible

variable (exclusion : r.exclusion = .ok e) (context : e.context = .text word)
variable (numeric : r.settings.thresholds.Numeric) (legible : GivesLegible r)

include exclusion context numeric legible

theorem traversal_rule : Traversal.Rule r g (fun _ => Seen (Clear r g e))
    (fun result => Seen (Traversed r g e result)) (fun _ => Seen (Clear r g e)) where
  poll id := (Meets.of_within stopAsked_steady fun _ _ => Seen.of_still).post
    fun asked s hs => by cases asked <;> exact hs
  missing id _ text := .tell fun _ _ => Seen.of_steady
  finish id n s _ _ hs := hs
  visit id n _ _ := by
    refine (advance_meets exclusion context numeric legible).post fun turn s hs => ?_
    match turn with
    | .found hit => exact hs
    | .next none => exact hs
    | .next (some id) => exact ⟨hs, hs⟩

variable (p : Plan)

omit exclusion context numeric legible in
theorem countAttempt_meets (resume : Option String) :
    Meets (Seen P) (Run.countAttempt r p resume) (fun _ => Seen P) (fun _ => Seen P) := by
  refine Run.countAttempt_meets (fun s hs t ht => ?_) (fun _ _ => Seen.of_steady) fun _ _ hs => hs
  rw [Seen, ht.journal]
  exact hs

theorem attempt_meets (resume : Option String) :
    Meets (Seen (Clear r p.graph e)) (Run.attempt r p resume)
      (fun result => Seen (Traversed r p.graph e result)) (fun _ => Seen (Clear r p.graph e)) := by
  refine .bind (countAttempt_meets p resume) fun _ => ?_
  have htraversal := Traversal.run_meets
    (traversal_rule (g := p.graph) exclusion context numeric legible) resume
  refine .followedBy htraversal (fun result => ?_) fun f => ?_
  · exact Step.releaseKey_meets fun _ _ => Seen.of_release
  · exact Step.releaseKey_meets fun _ _ => Seen.of_release

theorem run_rule : Run.Rule r p (fun _ _ => Seen (Clear r p.graph e))
    (fun _ _ => Seen (Clear r p.graph e)) (fun o => Seen (Ended r p.graph e o))
    (fun _ => Seen (Clear r p.graph e)) where
  out _ _ hs := hs
  poll _ _ := (Meets.of_within stopAsked_steady fun _ _ => Seen.of_still).post
    fun asked s hs => by cases asked <;> exact hs
  limit _ _ s hs := by
    unfold Run.Measured
    split <;> exact hs
  attempt _ resume := by
    refine (attempt_meets exclusion context numeric legible p resume).post fun result s hs => ?_
    cases result <;> exact hs

omit exclusion context numeric legible in
theorem begin_meets : Meets (fun s => s.journal = []) (Run.begin p : Act τ ι δ σ Unit)
    (fun _ => Seen (Clear r p.graph e)) (fun _ => Seen (Clear r p.graph e)) := by
  refine Run.begin_meets (fun s hs v hv => ?_) (fun _ _ hs => hs) fun _ _ hs => hs
  rw [hs] at hv
  cases hv

theorem runValid_meets : Meets (fun s => s.journal = []) (Run.runValid r p)
    (fun x s => Seen (Ended r p.graph e x.outcome) s ∧ x.attempts = s.state.attempts)
    (fun _ => Seen (Clear r p.graph e)) := by
  have hattempts := Run.attempts_meets (run_rule exclusion context numeric legible p)
    (fun _ _ => Seen.of_steady) (fun _ hs => hs) fun _ _ hs => hs
  have hrelease : ∀ o, Meets (Seen (Ended r p.graph e o)) (Step.releaseKey r)
      (fun _ => Seen (Ended r p.graph e o)) (fun _ => Seen (Clear r p.graph e)) :=
    fun _ => Step.releaseKey_meets fun _ _ => Seen.of_release
  refine Run.runValid_meets (begin_meets p) hattempts ?_ hrelease ?_ ?_
  · exact fun _ _ _ => Seen.of_steady
  · exact fun _ _ hs => hs
  · exact fun _ _ _ => Seen.of_steady

end Legible

/-- The visits of a run that finds nothing are no sightings. A run of an unsound graph visits
nothing. -/
theorem run_meets (r : Rig τ ι δ σ) (p : Plan) (s : Scene τ ι δ σ)
    (exclusion : r.exclusion = .ok e) (context : e.context = .text word)
    (numeric : r.settings.thresholds.Numeric) (legible : GivesLegible r) :
    (∃ hit, Run.Finds r p s hit ∧
        Hit (Run.rigFor r p) p.graph e hit (ofJournal (Run.run r p s).2.journal)) ∨
      (¬∃ hit, Run.Finds r p s hit) ∧
        Clear (Run.rigFor r p) p.graph e (ofJournal (Run.run r p s).2.journal) := by
  by_cases sound : p.graph.problems = []
  · have hvalid := runValid_meets (r := Run.rigFor r p) exclusion context numeric legible p
    rcases Run.run_ends sound hvalid s rfl with ⟨x, t, hrun, hended, -⟩ | ⟨f, t, hrun, hclear⟩
    · have hx : (Run.run r p s).1 = .ok x := by rw [hrun]
      rw [hrun]
      cases houtcome : x.outcome with
      | found hit =>
        rw [houtcome] at hended
        exact .inl ⟨hit, ⟨x, hx, houtcome⟩, hended⟩
      | _ =>
        rw [houtcome] at hended
        refine .inr ⟨?_, hended⟩
        rintro ⟨hit, hfinds⟩
        rw [hfinds.outcome hx] at houtcome
        cases houtcome
    · have hnot : ¬∃ hit, Run.Finds r p s hit := Run.not_finds (by rw [hrun])
      rw [hrun]
      exact .inr ⟨hnot, hclear⟩
  · have hnot : ¬∃ hit, Run.Finds r p s hit := Run.not_finds (by rw [Run.run_unsound sound])
    rw [Run.run_unsound sound]
    exact .inr ⟨hnot, fun v hv => by cases hv⟩

/-- All that is recognized is too short for a line. -/
def short : Script where
  recognize := [{ result := [⟨.text "hp", .num (.float 96.0)⟩] }]

/-- Three attempts at a check that reads something, but no line. -/
def shortRun : Except RunError RunResult × Scene Float String Rehearsal Unit :=
  Run.run (Trial.rig short) Trial.waiting Trial.scene

theorem short_legible : GivesLegible (Trial.rig short) := by
  intro image devices readings hreadings x hx
  have hcue : ((Trial.rig short).devices.recognize image devices).1.result =
      .ok [⟨.text "hp", .num (.float 96.0)⟩] := by
    change (Cue.nth short.recognize { result := [] } devices.recognitions).answer.result = _
    cases devices.recognitions <;> simp [Cue.nth, Cue.answer, short]
  rw [hcue] at hreadings
  cases hreadings
  obtain rfl := List.mem_singleton.mp hx
  refine ⟨"hp", _, rfl, rfl, ?_⟩
  unfold Spec.Countable
  decide +kernel

end Visit

end Reroll
