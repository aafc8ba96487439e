import Mathlib.Logic.Function.Iterate
import Reroll.Proofs.Run.Rule

/-!
# The course of a run

The attempts of a run are two loops, one inside the other, which fuel keeps going. Here they are
taken apart into moves from one station to the next, and no fuel is needed: after finitely many
moves the attempts are finished, with what the loops come to (`course_finished`). What holds
whenever a run stands between two steps is shown along its course, one station at a time
(`course_keeps`).
-/

namespace Reroll

variable {τ ι δ σ : Type}

open Scene Act

/-- Where a run is between two moves: before its delay, before an attempt, before a node, before the
release of the key after a traversal, or at the end of its attempts. -/
inductive Station where
  | outset
  | round (resume : Option String)
  | node (visited : List String) (id : String)
  | leaving (x : Except Fault Traversal)
  | finished (x : Except Fault RunOutcome)

namespace Station

def after : Except Fault Traversal → Station
  | .ok (.found hit) => .finished (.ok (.found hit))
  | .ok .stopped => .finished (.ok .stopped)
  | .ok (.resumed id) => .round (some id)
  | .ok .ended => .round none
  | .error f => .finished (.error f)

def turned (visited : List String) (n : Node) : Traversal.Turn → Station
  | .found hit => .leaving (.ok (.found hit))
  | .next none => .leaving (.ok .ended)
  | .next (some id) =>
    if (n.id :: visited).contains id then .leaving (.ok (.resumed id))
    else .node (n.id :: visited) id

def broken : Station → Fault → Station
  | .node _ _, f => .leaving (.error f)
  | _, f => .finished (.error f)

def begin (r : Rig τ ι δ σ) (p : Plan) (resume : Option String) : Act τ ι δ σ Station := do
  if ← stopAsked then return .finished (.ok .stopped)
  let made := Value.int (← get).state.attempts
  if ← lift .operand (made.related .atLeast p.maxAttempts) then return .finished (.ok .exhausted)
  Run.countAttempt r p resume
  return .node [] ((resume.filter fun s => !s.isEmpty).getD Graph.startId)

def visit (r : Rig τ ι δ σ) (g : Graph) (visited : List String) (id : String) :
    Act τ ι δ σ Station := do
  if ← stopAsked then return .leaving (.ok .stopped)
  match g.node? id with
  | none =>
    tell r .warning ("edge leads to missing node \"" ++ id ++ "\"")
    return .leaving (.ok .ended)
  | some n =>
    if n.kind = .finish then return .leaving (.ok .ended)
    return turned visited n (← Traversal.advance r g n)

/-- What is done at a station, and the station it leads to. -/
def act (r : Rig τ ι δ σ) (p : Plan) : Station → Act τ ι δ σ Station
  | .outset => do
    Run.startDelay r p
    return .round none
  | .round resume => begin r p resume
  | .node visited id => visit r p.graph visited id
  | .leaving x => do
    Step.releaseKey r
    return after x
  | .finished x => return .finished x

end Station

def Scene.Same {β : Type} (f : Scene τ ι δ σ → β) (s t : Scene τ ι δ σ) : Prop := f t = f s

instance {β : Type} (f : Scene τ ι δ σ → β) : IsPreorder (Scene τ ι δ σ) (Same f) where
  refl _ := rfl
  trans _ _ _ h k := k.trans h

theorem Act.Meets.any {α : Type} {P : Scene τ ι δ σ → Prop} (a : Act τ ι δ σ α) :
    Meets P a (fun _ _ => True) (fun _ _ => True) := by
  intro s _
  generalize a s = x
  rcases x with ⟨_ | v, t⟩ <;> trivial

theorem Traversal.advance_grows (r : Rig τ ι δ σ) (g : Graph) (n : Node) :
    Within (Grows fun _ => True) (advance r g n) := by
  have hstep : Within (Grows fun _ => True) (Step.execute r n) :=
    (Step.execute_ofStep r n).of_le fun _ _ h => h.mono fun _ _ => trivial
  have hnote : ∀ d : Deed τ ι, Within (Grows fun _ => True) (note d : Act τ ι δ σ Unit) :=
    fun d => (note_steady (p := fun _ => True) trivial).of_steady
  refine .bind (hnote _) fun _ => ?_
  split
  · exact .pure _
  · refine .bind hstep fun o => .bind (hnote _) fun _ => ?_
    exact (afterCheck_steady (p := fun _ => True) (fun _ _ => trivial) r g n o).of_steady
  · exact .bind (.discard hstep) fun _ => .pure _

namespace Run

/-- One move of a run. -/
def move (r : Rig τ ι δ σ) (p : Plan) (c : Station × Scene τ ι δ σ) : Station × Scene τ ι δ σ :=
  match c.1.act r p c.2 with
  | (.ok next, t) => (next, t)
  | (.error f, t) => (c.1.broken f, t)

/-- Where the attempts of a run are after so many moves. -/
def course (r : Rig τ ι δ σ) (p : Plan) (s : Scene τ ι δ σ) (k : Nat) : Station × Scene τ ι δ σ :=
  (move r p)^[k] (.outset, s)

def Leads (r : Rig τ ι δ σ) (p : Plan) (c d : Station × Scene τ ι δ σ) : Prop :=
  ∃ k, (move r p)^[k] c = d

variable {r : Rig τ ι δ σ} {p : Plan} {c d e : Station × Scene τ ι δ σ} {s t u : Scene τ ι δ σ}

theorem Leads.trans (h : Leads r p c d) (h' : Leads r p d e) : Leads r p c e := by
  obtain ⟨k, hk⟩ := h
  obtain ⟨l, hl⟩ := h'
  refine ⟨l + k, ?_⟩
  rw [Function.iterate_add_apply, hk, hl]

theorem Leads.of_move (h : move r p c = d) : Leads r p c d := ⟨1, h⟩

theorem move_ok (st : Station) {next : Station} (h : st.act r p s = (.ok next, t)) :
    move r p (st, s) = (next, t) := by
  simp only [move, h]

theorem move_error (st : Station) {f : Fault} (h : st.act r p s = (.error f, t)) :
    move r p (st, s) = (st.broken f, t) := by
  simp only [move, h]

theorem move_snd (c : Station × Scene τ ι δ σ) : (move r p c).2 = (c.1.act r p c.2).2 := by
  unfold move
  generalize c.1.act r p c.2 = x
  rcases x with ⟨_ | next, t⟩ <;> rfl

theorem move_leaving (x : Except Fault Traversal) :
    move r p (.leaving x, s) = (.after x, (Step.releaseKey r s).2) := by
  have hrelease : Step.releaseKey r s = (.ok (), (Step.releaseKey r s).2) :=
    Prod.ext (Step.releaseKey_ok r s) rfl
  refine move_ok (.leaving x) ?_
  dsimp only [Station.act]
  rw [bind_apply, hrelease]
  rfl

theorem move_finished (x : Except Fault RunOutcome) :
    move r p (.finished x, s) = (.finished x, s) := rfl

theorem course_succ (k : Nat) : course r p s (k + 1) = move r p (course r p s k) :=
  Function.iterate_succ_apply' _ _ _

/-- What every move keeps holds from then on along the course. -/
theorem course_keeps {I : Station × Scene τ ι δ σ → Prop} {k : Nat} (h : I (course r p s k))
    (kept : ∀ c, I c → I (move r p c)) (l : Nat) : I (course r p s (k + l)) := by
  induction l with
  | zero => exact h
  | succ l ih =>
    rw [← Nat.add_assoc, course_succ]
    exact kept _ ih

theorem course_finished_add {x : Except Fault RunOutcome} {k : Nat}
    (h : course r p s k = (.finished x, t)) (l : Nat) :
    course r p s (k + l) = (.finished x, t) := by
  refine course_keeps (I := fun c => c = (.finished x, t)) h ?_ l
  rintro c rfl
  exact move_finished x

theorem course_finished_unique {x y : Except Fault RunOutcome} {k l : Nat}
    (h : course r p s k = (.finished x, t)) (h' : course r p s l = (.finished y, u)) :
    x = y ∧ t = u := by
  have hk := course_finished_add h l
  have hl := course_finished_add h' k
  rw [Nat.add_comm, hk] at hl
  have hpair := Prod.mk.inj hl
  exact ⟨Station.finished.inj hpair.1, hpair.2⟩

/-! ### One traversal -/

theorem visit_attempts (r : Rig τ ι δ σ) (g : Graph) (visited : List String) (id : String) :
    Within (Same fun s => s.state.attempts) (Station.visit r g visited id) := by
  have hpoll : Within (Same fun s => s.state.attempts) (stopAsked : Act τ ι δ σ Bool) :=
    (stopAsked_steady (p := fun _ => False)).of_le fun _ _ h => h.grows.attempts
  have htell : ∀ text, Within (Same fun s => s.state.attempts) (tell r .warning text) := fun text =>
    (tell_steady (p := fun _ => True) (fun _ _ => trivial) r .warning text).of_le
      fun _ _ h => h.grows.attempts
  refine .bind hpoll fun asked => .ite (.pure _) ?_
  cases g.node? id with
  | none => exact .bind (htell _) fun _ => .pure _
  | some n =>
    refine .ite (.pure _) (.bind ?_ fun turn => .pure _)
    exact (Traversal.advance_grows r g n).of_le fun _ _ h => h.attempts

def walkOn (r : Rig τ ι δ σ) (g : Graph) (fuel : Nat) : Station → Act τ ι δ σ Traversal
  | .leaving (.ok x) => return x
  | .node visited id => Traversal.walk r g visited id fuel
  | _ => return .ended

theorem walk_succ (r : Rig τ ι δ σ) (g : Graph) (visited : List String) (id : String) (fuel : Nat) :
    Traversal.walk r g visited id (fuel + 1) =
      Station.visit r g visited id >>= walkOn r g fuel := by
  unfold Traversal.walk Station.visit
  rw [bind_assoc]
  congr 1
  funext asked
  cases asked with
  | true => rfl
  | false =>
    simp only [Bool.false_eq_true, ite_false]
    cases g.node? id with
    | none => rfl
    | some n =>
      dsimp only
      split
      · rfl
      · rw [bind_assoc]
        congr 1
        funext turn
        rw [pure_bind]
        rcases turn with hit | _ | next
        · rfl
        · rfl
        · dsimp only [Station.turned]
          split <;> rfl

theorem walk_attempts (r : Rig τ ι δ σ) (g : Graph) (visited : List String) (id : String)
    (fuel : Nat) :
    Within (Same fun s => s.state.attempts) (Traversal.walk r g visited id fuel) := by
  induction fuel generalizing visited id with
  | zero => exact .pure _
  | succ fuel ih =>
    rw [walk_succ]
    refine .bind (visit_attempts r g visited id) fun next => ?_
    match next with
    | .leaving (.ok _) => exact .pure _
    | .node visited id => exact ih visited id
    | .leaving (.error _) => exact .pure _
    | .outset => exact .pure _
    | .round _ => exact .pure _
    | .finished _ => exact .pure _

/-- A visit leads to the end of the traversal, or on to a node that is not visited yet. -/
inductive Visited (g : Graph) (visited : List String) (id : String) : Station → Prop
  | left (x : Traversal) : Visited g visited id (.leaving (.ok x))
  | on {n : Node} {next : String} (mem : n ∈ g.nodes) (named : n.id = id)
      (fresh : next ∉ id :: visited) : Visited g visited id (.node (id :: visited) next)

theorem visit_visits (r : Rig τ ι δ σ) (g : Graph) (visited : List String) (id : String) :
    Meets (fun _ => True) (Station.visit r g visited id)
      (fun next _ => Visited g visited id next) (fun _ _ => True) := by
  refine .bind (.any _) fun asked => .ite (fun _ => .pure fun _ _ => .left _) fun _ => ?_
  cases hn : g.node? id with
  | none => exact .bind (.any _) fun _ => .pure fun _ _ => .left _
  | some n =>
    obtain ⟨hmem, hid⟩ := Graph.mem_of_node? hn
    refine .ite (fun _ => .pure fun _ _ => .left _) fun _ => .bind (.any _) fun turn => .pure ?_
    intro s _
    rcases turn with hit | _ | next
    · exact .left _
    · exact .left _
    · dsimp only [Station.turned]
      split
      · exact .left _
      · next hnew =>
        rw [hid] at hnew ⊢
        exact .on hmem hid (by simpa using hnew)

theorem walk_leads (fuel : Nat) (visited : List String) (id : String) (nodup : visited.Nodup)
    (ids : ∀ v ∈ visited, v ∈ p.graph.nodes.map Node.id) (fresh : id ∉ visited)
    (enough : visited.length + fuel = p.graph.nodes.length + 1) (s : Scene τ ι δ σ) :
    Leads r p (.node visited id, s) (.leaving (Traversal.walk r p.graph visited id fuel s).1,
      (Traversal.walk r p.graph visited id fuel s).2) := by
  induction fuel generalizing visited id s with
  | zero =>
    -- the visited ids are distinct ids of nodes, so there are no more of them than nodes
    have hle := (nodup.subperm ids).length_le
    rw [List.length_map] at hle
    omega
  | succ fuel ih =>
    rw [walk_succ, bind_apply]
    have hvisits := visit_visits r p.graph visited id s trivial
    cases hvisit : Station.visit r p.graph visited id s with
    | mk x t =>
      rw [hvisit] at hvisits
      cases x with
      | error f => exact .of_move (move_error (.node visited id) hvisit)
      | ok next =>
        have hmove : move r p (.node visited id, s) = (next, t) :=
          move_ok (.node visited id) hvisit
        cases hvisits with
        | left x => exact .of_move hmove
        | @on n next hmem hid hnew =>
          have hnodup : (id :: visited).Nodup := List.nodup_cons.mpr ⟨fresh, nodup⟩
          have hids : ∀ v ∈ id :: visited, v ∈ p.graph.nodes.map Node.id := by
            intro v hv
            rcases List.mem_cons.mp hv with rfl | hv
            · exact List.mem_map.mpr ⟨n, hmem, hid⟩
            · exact ids v hv
          have hlength : (id :: visited).length + fuel = p.graph.nodes.length + 1 := by
            rw [List.length_cons]
            omega
          exact (Leads.of_move hmove).trans (ih _ next hnodup hids hnew hlength t)

/-! ### One attempt after the other -/

variable {m : Int}

/-- When `a` attempts are made of `m`, a round ends them or begins one more at a node. -/
inductive Begun (a m : Int) (s : Scene τ ι δ σ) : Station → Prop
  | stopped (made : s.state.attempts = a) : Begun a m s (.finished (.ok .stopped))
  | exhausted (made : s.state.attempts = a) (used : m ≤ a) :
    Begun a m s (.finished (.ok .exhausted))
  | node (id : String) (made : s.state.attempts = a + 1) (left : a < m) : Begun a m s (.node [] id)

theorem countAttempt_fault (resume : Option String) :
    Meets (fun _ : Scene τ ι δ σ => True) (countAttempt r p resume) (fun _ _ => True)
      (fun _ _ => p.maxAttempts.isWritable = false) := by
  have hlimit : ∀ e, p.maxAttempts.writtenPlain = .error e → p.maxAttempts.isWritable = false := by
    intro e he
    unfold Value.writtenPlain at he
    split at he
    · cases he
    · next h => simpa using h
  refine .bind (M := fun _ _ => True) (fun _ _ => trivial) fun v => ?_
  refine .bind (M := fun _ _ => True) (fun _ _ => trivial) fun _ => ?_
  refine .bind (M := fun _ _ => True) (fun _ _ => trivial) fun _ => ?_
  refine .ite (fun _ => ?_) fun _ => .pure fun _ _ => trivial
  refine .bind (M := fun _ _ => True) (.lift (fun _ _ _ _ => trivial) ?_) fun _ => ?_
  · exact fun e _ he _ => hlimit e he
  · exact .tell fun _ _ _ _ => trivial

theorem begin_begun (limit : p.maxAttempts = .int m) (a : Int) (resume : Option String) :
    Meets (fun s : Scene τ ι δ σ => s.state.attempts = a) (Station.begin r p resume)
      (fun next s => Begun a m s next)
      (fun _ s => p.maxAttempts.isWritable = true → s.state.attempts = a) := by
  have hpoll := Meets.of_within (P := fun s : Scene τ ι δ σ => s.state.attempts = a)
    (stopAsked_steady (p := fun _ => False)) fun s t hst hs => hst.grows.attempts.trans hs
  refine .bind (hpoll.fault fun _ _ hs _ => hs) fun asked => ?_
  refine .ite (fun _ => .pure fun _ hs => .stopped hs) fun _ => .bind .get fun v => ?_
  refine .bind (M := fun reached s => (if reached then m ≤ a else a < m) ∧ s.state.attempts = a)
    (.lift ?_ ?_) fun reached => ?_
  · rintro reached s hreached ⟨rfl, hs⟩
    rw [limit, hs, related_atLeast, Except.ok.injEq] at hreached
    subst hreached
    refine ⟨?_, hs⟩
    by_cases hle : m ≤ a
    · simp only [hle, decide_true, ite_true]
    · simpa only [hle, decide_false, Bool.false_eq_true, ite_false] using Int.not_le.mp hle
  · rintro e s - ⟨rfl, hs⟩ -
    exact hs
  · refine .of_fact fun hreached => .ite (fun h => .pure fun s hs => ?_) fun h => ?_
    · rw [if_pos h] at hreached
      exact .exhausted hs hreached
    · rw [if_neg h] at hreached
      refine .bind (M := fun _ s => s.state.attempts = a + 1) ?_ fun _ =>
        .pure fun s hs => .node _ hs hreached
      have hcount : Meets (fun s : Scene τ ι δ σ => s.state.attempts = a) (countAttempt r p resume)
          (fun _ s => s.state.attempts = a + 1) (fun _ _ => True) := by
        refine countAttempt_meets ?_ ?_ fun _ _ _ => trivial
        · intro s hs t ht
          rw [ht.attempts, ← hs]
        · exact fun s t hst hs => hst.grows.attempts.trans hs
      refine (hcount.and (countAttempt_fault resume)).mono (fun _ hs => ⟨hs, trivial⟩)
        (fun _ _ hs => hs.1) ?_
      intro f s hs hwritable
      rw [hs.2] at hwritable
      cases hwritable

def attemptOn (r : Rig τ ι δ σ) (p : Plan) (fuel : Nat) : Station → Act τ ι δ σ RunOutcome
  | .finished (.ok o) => return o
  | .node visited id => do
    match ← followedBy (Traversal.walk r p.graph visited id (p.graph.nodes.length + 1))
        (Step.releaseKey r) with
    | .found hit => return .found hit
    | .stopped => return .stopped
    | .resumed id => attemptFrom r p (some id) fuel
    | .ended => attemptFrom r p none fuel
  | _ => return .exhausted

theorem attemptFrom_succ (r : Rig τ ι δ σ) (p : Plan) (resume : Option String) (fuel : Nat) :
    attemptFrom r p resume (fuel + 1) = Station.begin r p resume >>= attemptOn r p fuel := by
  unfold attemptFrom Station.begin
  rw [bind_assoc]
  congr 1
  funext asked
  cases asked with
  | true => rfl
  | false =>
    simp only [Bool.false_eq_true, ite_false]
    rw [bind_assoc]
    congr 1
    funext v
    rw [bind_assoc]
    congr 1
    funext reached
    cases reached with
    | true => rfl
    | false =>
      simp only [Bool.false_eq_true, ite_false]
      unfold attempt
      rw [bind_assoc, bind_assoc]
      rfl

theorem attemptOn_node (fuel : Nat) (visited : List String) (id : String) :
    attemptOn r p fuel (.node visited id) s =
      match Traversal.walk r p.graph visited id (p.graph.nodes.length + 1) s with
      | (.ok (.found hit), t) => (.ok (.found hit), (Step.releaseKey r t).2)
      | (.ok .stopped, t) => (.ok .stopped, (Step.releaseKey r t).2)
      | (.ok (.resumed next), t) => attemptFrom r p (some next) fuel (Step.releaseKey r t).2
      | (.ok .ended, t) => attemptFrom r p none fuel (Step.releaseKey r t).2
      | (.error f, t) => (.error f, (Step.releaseKey r t).2) := by
  dsimp only [attemptOn]
  rw [bind_apply, followedBy, bind_apply, outcome_apply]
  generalize Traversal.walk r p.graph visited id (p.graph.nodes.length + 1) s = w
  obtain ⟨x, t⟩ := w
  have hrelease : Step.releaseKey r t = (.ok (), (Step.releaseKey r t).2) :=
    Prod.ext (Step.releaseKey_ok r t) rfl
  dsimp only
  rw [bind_apply, hrelease]
  match x with
  | .error f => rfl
  | .ok (.found hit) => rfl
  | .ok .stopped => rfl
  | .ok (.resumed next) => rfl
  | .ok .ended => rfl

theorem attemptFrom_leads (limit : p.maxAttempts = .int m) (fuel : Nat) (resume : Option String)
    (s : Scene τ ι δ σ) (positive : 0 < fuel) (made : 0 ≤ s.state.attempts)
    (enough : fuel + s.state.attempts = max 0 m + 1) :
    Leads r p (.round resume, s) (.finished (attemptFrom r p resume fuel s).1,
      (attemptFrom r p resume fuel s).2) := by
  induction fuel generalizing resume s with
  | zero => exact absurd positive (Nat.lt_irrefl 0)
  | succ fuel ih =>
    rw [attemptFrom_succ, bind_apply]
    have hbegun := begin_begun (r := r) limit s.state.attempts resume s rfl
    cases hbegin : Station.begin r p resume s with
    | mk x t =>
      rw [hbegin] at hbegun
      cases x with
      | error f => exact .of_move (move_error (.round resume) hbegin)
      | ok next =>
        have hmove : move r p (.round resume, s) = (next, t) :=
          move_ok (.round resume) hbegin
        cases hbegun with
        | stopped _ => exact .of_move hmove
        | exhausted _ _ => exact .of_move hmove
        | node id hcount hlt =>
          have hwalk := walk_leads (r := r) (p := p) (p.graph.nodes.length + 1) [] id .nil
            (by simp) (by simp) (by simp) t
          have hattempts := walk_attempts r p.graph [] id (p.graph.nodes.length + 1) t
          refine (Leads.of_move hmove).trans (hwalk.trans ?_)
          dsimp only
          rw [attemptOn_node]
          generalize Traversal.walk r p.graph [] id (p.graph.nodes.length + 1) t = w at hattempts ⊢
          obtain ⟨y, v⟩ := w
          have hv : v.state.attempts = t.state.attempts := hattempts
          have hw : (Step.releaseKey r v).2.state.attempts = s.state.attempts + 1 := by
            rw [(Step.releaseKey_ofStep r v).attempts, hv, hcount]
          have hleft : (fuel : Int) + (Step.releaseKey r v).2.state.attempts = max 0 m + 1 := by
            rw [hw]
            push_cast at enough
            omega
          have hmore : 0 < fuel := by
            rw [hw] at hleft
            omega
          have hnonneg : 0 ≤ (Step.releaseKey r v).2.state.attempts := by
            rw [hw]
            omega
          refine (Leads.of_move (move_leaving y)).trans ?_
          match y with
          | .error f => exact ⟨0, rfl⟩
          | .ok (.found hit) => exact ⟨0, rfl⟩
          | .ok .stopped => exact ⟨0, rfl⟩
          | .ok (.resumed id) => exact ih (some id) _ hmore hnonneg hleft
          | .ok .ended => exact ih none _ hmore hnonneg hleft

/-- However large the limit is, the attempts are over after finitely many moves. -/
theorem course_finished (limit : p.maxAttempts = .int m) (fresh : s.state.attempts = 0) :
    ∃ k, course r p s k = (.finished (attempts r p s).1, (attempts r p s).2) := by
  have hdelay := (startDelay_steady (p := fun _ => True) (fun _ _ => trivial) r p s).grows.attempts
  change Leads r p (.outset, s) _
  unfold attempts
  rw [bind_apply]
  generalize hstart : startDelay r p s = x at hdelay ⊢
  obtain ⟨x, t⟩ := x
  cases x with
  | error f =>
    refine .of_move (move_error .outset ?_)
    dsimp only [Station.act]
    rw [bind_apply, hstart]
  | ok _ =>
    have hmove : move r p (.outset, s) = (.round none, t) := by
      refine move_ok .outset ?_
      dsimp only [Station.act]
      rw [bind_apply, hstart]
      rfl
    have hcount : t.state.attempts = 0 := hdelay.trans fresh
    refine (Leads.of_move hmove).trans ?_
    dsimp only
    rw [limit, attemptsWithin_int]
    refine attemptFrom_leads limit _ none t (by omega) (by omega) ?_
    push_cast
    omega

end Run

end Reroll
