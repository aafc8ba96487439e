import Reroll.Proofs.Graph.Interpreter
import Reroll.Proofs.Run.Rule
import Reroll.Proofs.Run.Trial

/-!
# The way of a run

The nodes that a run dispatches, over all its attempts, are the ones that the free interpreter
dispatches for the same outcomes of checks: where an attempt breaks off, the next one resumes. The
one exception is a node with the empty id, which valid graphs may have. An attempt that is to resume
there begins at the start instead, and the run leaves the way (`run_follows_interpreter`).
-/

namespace Reroll

variable {τ ι δ σ α : Type}

open Scene Act Reroll.Graph

/-- What a journal tells about the way of a run, the first things first: the nodes dispatched, the
outcomes of checks, and whether an attempt was to resume at the empty id. -/
structure Way where
  nodes : List Node := []
  outcomes : List Bool := []
  lapsed : Bool := false

namespace Way

/-- The way that a journal tells about. -/
def ofJournal : List (Note τ ι) → Way
  | [] => {}
  | e :: earlier =>
    let w := ofJournal earlier
    match e.deed with
    | .dispatched n => { w with nodes := w.nodes ++ [n] }
    | .checked found => { w with outcomes := w.outcomes ++ [found] }
    | .attempted _ resume => { w with lapsed := w.lapsed || resume == some "" }
    | _ => w

/-- The outcomes begin a sequence of them. -/
def Begins (outcomes : List Bool) (o : Nat → Bool) : Prop :=
  ∀ i b, outcomes[i]? = some b → o i = b

/-- The nodes are the first ones of the interpreter, which has come to a place. -/
def Keeps (g : Graph) (place : Option String) (w : Way) : Prop :=
  ∀ o, Begins w.outcomes o → Interpreter.dispatches g o w.nodes.length = w.nodes ∧
    Interpreter.after g o w.nodes.length = ⟨place, w.outcomes.length⟩

/-- The same, but for the last node, which the interpreter has come to. -/
def Visits (g : Graph) (n : Node) (w : Way) : Prop :=
  ∃ before, w.nodes = before ++ [n] ∧ ∀ o, Begins w.outcomes o →
    Interpreter.dispatches g o before.length = before ∧
      Interpreter.after g o before.length = ⟨some n.id, w.outcomes.length⟩

/-- At some point the interpreter dispatches the node with the empty id and the run another one. -/
def Strays (g : Graph) (w : Way) : Prop :=
  ∃ before m n, before ++ [n] <+: w.nodes ∧ m ∈ g.nodes ∧ m.id = "" ∧ n.id ≠ "" ∧
    ∀ o, Begins w.outcomes o → Interpreter.dispatches g o (before.length + 1) = before ++ [m]

/-- The way is kept unless there was a lapse, which made the run stray. -/
def Course (g : Graph) (place : Option String) (w : Way) : Prop :=
  if w.lapsed = true then Strays g w else Keeps g place w

/-- The way of a run that visits a node. -/
def Visiting (g : Graph) (n : Node) (w : Way) : Prop :=
  if w.lapsed = true then Strays g w else Visits g n w

/-- A node is due: the interpreter has come to it, or there was a lapse just now and it is the
start that takes the place of the node with the empty id. -/
def Due (g : Graph) (id : String) (w : Way) : Prop :=
  Course g (some (settle (some id))) w ∨
    w.lapsed = true ∧ id = startId ∧ (g.node? "").isSome = true ∧ Keeps g (some "") w

/-! ### Lists of outcomes -/

theorem Begins.of_append {outcomes more : List Bool} {o : Nat → Bool}
    (h : Begins (outcomes ++ more) o) : Begins outcomes o := by
  intro i b hi
  have hlt : i < outcomes.length := (List.getElem?_eq_some_iff.mp hi).1
  exact h i b (by rwa [List.getElem?_append_left hlt])

theorem Begins.last {outcomes : List Bool} {b : Bool} {o : Nat → Bool}
    (h : Begins (outcomes ++ [b]) o) : o outcomes.length = b :=
  h outcomes.length b (by simp)

/-- Every list of outcomes begins a sequence. -/
theorem exists_begins (outcomes : List Bool) : ∃ o, Begins outcomes o :=
  ⟨fun i => outcomes.getD i false, fun i b h => by simp [List.getD, h]⟩

/-! ### What a visit does to the way -/

variable {g : Graph} {w : Way} {id : String} {n : Node}

theorem Strays.grow {nodes : List Node} (h : Strays g w) (hnodes : w.nodes <+: nodes)
    (more : List Bool) (lapsed : Bool) : Strays g ⟨nodes, w.outcomes ++ more, lapsed⟩ := by
  obtain ⟨before, m, n, hbefore, hm, hempty, hn, hdispatches⟩ := h
  exact ⟨before, m, n, hbefore.trans hnodes, hm, hempty, hn,
    fun o ho => hdispatches o ho.of_append⟩

theorem settle_of_ne (h : id ≠ endId) : settle (some id) = id := by
  simp [settle, h]

/-- The node that is due is dispatched. -/
theorem Due.dispatch (valid : g.problems = []) (h : Due g id w) (hn : g.node? id = some n)
    (hk : n.kind ≠ .finish) : Visiting g n { w with nodes := w.nodes ++ [n] } := by
  obtain ⟨hmem, hid⟩ := mem_of_node? hn
  have hend : id ≠ endId := by
    rintro rfl
    obtain ⟨m, hm, hfinish⟩ := finish_of_valid valid
    rw [hn] at hm
    cases hm
    exact hk hfinish
  rcases h with h | ⟨hlapsed, hstart, hempty, h⟩
  · unfold Course at h
    unfold Visiting
    split at h
    · next hlapsed =>
      rw [if_pos hlapsed]
      have hgrow := h.grow (List.prefix_append w.nodes [n]) [] w.lapsed
      rwa [List.append_nil] at hgrow
    · next hlapsed =>
      rw [if_neg hlapsed]
      refine ⟨w.nodes, rfl, fun o ho => ?_⟩
      rw [settle_of_ne hend, ← hid] at h
      exact h o ho
  · rw [Visiting, if_pos hlapsed]
    obtain ⟨m, hm⟩ := Option.isSome_iff_exists.mp hempty
    obtain ⟨hmem', hid'⟩ := mem_of_node? hm
    refine ⟨w.nodes, m, n, List.prefix_refl _, hmem', hid', ?_, fun o ho => ?_⟩
    · rw [hid, hstart]
      decide
    · obtain ⟨hdispatches, hafter⟩ := h o ho
      have hnode : (Interpreter.after g o w.nodes.length).node? g = some m := by
        rw [hafter]
        exact hm
      rw [Interpreter.dispatches_succ hnode, hdispatches]

/-- A check comes out one way or the other. -/
theorem Visiting.check (h : Visiting g n w) (hn : g.node? n.id = some n) (hk : n.kind = .check)
    (found : Bool) :
    Course g (g.following n found) { w with outcomes := w.outcomes ++ [found] } := by
  unfold Visiting at h
  unfold Course
  split at h
  · next hlapsed =>
    rw [if_pos hlapsed]
    exact h.grow (List.prefix_refl _) [found] w.lapsed
  · next hlapsed =>
    rw [if_neg hlapsed]
    obtain ⟨before, hnodes, h⟩ := h
    intro o ho
    obtain ⟨hdispatches, hafter⟩ := h o ho.of_append
    have hnode : (Interpreter.after g o before.length).node? g = some n := by
      rw [hafter]
      exact hn
    simp only [hnodes, List.length_append, List.length_singleton]
    rw [Interpreter.dispatches_succ hnode, Interpreter.after_succ hnode, hdispatches, hafter]
    simp [hk, ho.last]

/-- Any other node has just one way on. -/
theorem Visiting.other (h : Visiting g n w) (hn : g.node? n.id = some n) (hk : n.kind ≠ .check) :
    Course g (g.following n false) w := by
  have hfollowing : ∀ b, g.following n b = g.following n false := by
    intro b
    simp [following, target?, hk]
  unfold Visiting at h
  unfold Course
  split at h
  · next hlapsed =>
    rw [if_pos hlapsed]
    exact h
  · next hlapsed =>
    rw [if_neg hlapsed]
    obtain ⟨before, hnodes, h⟩ := h
    intro o ho
    obtain ⟨hdispatches, hafter⟩ := h o ho
    have hnode : (Interpreter.after g o before.length).node? g = some n := by
      rw [hafter]
      exact hn
    simp only [hnodes, List.length_append, List.length_singleton]
    rw [Interpreter.dispatches_succ hnode, Interpreter.after_succ hnode, hdispatches, hafter]
    simp [hk, hfollowing]

/-- A run that strays does not dispatch what the interpreter does. -/
theorem Strays.differs {o : Nat → Bool} (h : Strays g w) (ho : Begins w.outcomes o) :
    Interpreter.dispatches g o w.nodes.length ≠ w.nodes := by
  obtain ⟨before, m, n, hbefore, -, hempty, hn, hdispatches⟩ := h
  intro heq
  have hle : before.length + 1 ≤ w.nodes.length := by simpa using hbefore.length_le
  have hbegins := Interpreter.dispatches_prefix (g := g) (o := o) hle
  rw [heq, hdispatches o ho] at hbegins
  have hsame : before ++ [m] = before ++ [n] :=
    (List.prefix_of_prefix_length_le hbegins hbefore (by simp)).eq_of_length (by simp)
  have hmn : m = n := by simpa using hsame
  exact hn (hmn ▸ hempty)

/-- Where an attempt ends the next one resumes, but not at the empty id. -/
theorem Course.resume {resume : Option String} (h : Course g (some (settle resume)) w)
    (known : ∀ id, resume = some id → (g.node? id).isSome = true) :
    Due g ((resume.filter fun s => !s.isEmpty).getD startId)
      { w with lapsed := w.lapsed || resume == some "" } := by
  obtain ⟨nodes, outcomes, lapsed⟩ := w
  cases lapsed with
  | true => exact .inl h
  | false =>
    cases resume with
    | none => exact .inl h
    | some id =>
      by_cases hid : id = ""
      · subst hid
        exact .inr ⟨rfl, rfl, known "" rfl, h⟩
      · have hempty : id.isEmpty = false := by simpa using hid
        have hlapsed : (some id == some "") = false := by simpa using hid
        simp only [Option.filter, hempty, Bool.not_false, ite_true, Option.getD_some,
          Bool.false_or, hlapsed]
        exact .inl h

/-! ### What acts do to the way -/

/-- Deeds of a step leave the way as it is. -/
theorem ofJournal_append {new journal : List (Note τ ι)}
    (h : ∀ e ∈ new, e.deed.isOfStep = true) : ofJournal (new ++ journal) = ofJournal journal := by
  induction new with
  | nil => rfl
  | cons e new ih =>
    have hd := h e (List.mem_cons_self ..)
    have ih := ih fun d hd => h d (List.mem_cons_of_mem _ hd)
    obtain ⟨d, state⟩ := e
    cases d <;> first | exact ih | cases hd

/-- So many attempts were made, and the way is such. -/
def At (a : Int) (P : Way → Prop) (s : Scene τ ι δ σ) : Prop :=
  s.state.attempts = a ∧ P (ofJournal s.journal)

variable {a : Int} {P : Way → Prop} {s t : Scene τ ι δ σ} {r : Rig τ ι δ σ}

theorem At.of_grows (h : Grows (fun e => e.deed.isOfStep = true) s t) (hs : At a P s) :
    At a P t := by
  obtain ⟨new, hj, hnew⟩ := h.journal
  refine ⟨h.attempts.trans hs.1, ?_⟩
  rw [hj, ofJournal_append hnew]
  exact hs.2

theorem At.of_steady (h : Steady (·.isIdle = true) s t) (hs : At a P s) : At a P t :=
  hs.of_grows h.ofStep

theorem At.of_still (h : Steady (fun _ => False) s t) (hs : At a P s) : At a P t :=
  hs.of_grows (h.grows.mono fun _ he => he.1.elim)

theorem tell_meets (level : EventLevel) (text : String) : Meets (At a P) (tell r level text)
    (fun _ => At a P) (fun _ _ => True) :=
  .tell fun _ _ => At.of_steady

/-- What a turn after a node says about the way on from it. -/
def Leads (g : Graph) (n : Node) (found : Bool) : Traversal.Turn → Prop
  | .found _ => g.following n found = none
  | .next target => target = g.target? n found ∧ g.following n found = some (settle target)

theorem afterCheck_meets (hk : n.kind = .check) (o : StepOutcome) :
    Meets (At a P) (Traversal.afterCheck r g n o)
      (fun turn s => At a P s ∧ Leads g n o.hit.isSome turn) (fun _ _ => True) := by
  unfold Traversal.afterCheck
  cases o.hit with
  | none =>
    refine .pure fun s hs => ⟨hs, ?_⟩
    simp [Leads, following, target?, hk]
  | some hit =>
    have htarget : g.target? n true = (g.nextEdge? n.id (some onFound)).map Edge.target := by
      simp [target?, hk]
    cases he : g.nextEdge? n.id (some onFound) with
    | none =>
      refine .bind (tell_meets _ _) fun _ => .pure fun s hs => ⟨hs, ?_⟩
      simp [Leads, following, htarget, he]
    | some e =>
      refine .ite (fun h => .pure fun s hs => ⟨hs, ?_⟩) fun h => .pure fun s hs => ⟨hs, ?_⟩
      · simp [Leads, following, htarget, he, hk, h]
      · simp [Leads, following, htarget, he, h]

theorem target?_known (valid : g.problems = []) {found : Bool} {target : String}
    (h : g.target? n found = some target) : (g.node? target).isSome = true := by
  unfold target? at h
  split at h
  · exact target_of_nextEdge? valid h
  · exact target_of_nextEdge? valid h

theorem note_meets {Q : Way → Prop} {d : Deed τ ι}
    (h : ∀ journal state, P (ofJournal journal) → Q (ofJournal (⟨d, state⟩ :: journal))) :
    Meets (At a P) (note d : Act τ ι δ σ Unit) (fun _ => At a Q) (fun _ _ => True) :=
  fun _ hs => ⟨hs.1, h _ _ hs.2⟩

theorem execute_meets : Meets (At a P) (Step.execute r n) (fun _ => At a P) (fun _ _ => True) :=
  (Meets.of_within (Step.execute_ofStep r n) fun _ _ => At.of_grows).fault fun _ _ _ => trivial

/-- A visit dispatches the node that is due and leads on as the interpreter goes on. -/
theorem advance_meets (valid : g.problems = []) (hn : g.node? id = some n)
    (hk : n.kind ≠ .finish) :
    Meets (At a (Due g id)) (Traversal.advance r g n)
      (fun turn => At a fun w => ∃ found, Course g (g.following n found) w ∧ Leads g n found turn)
      (fun _ _ => True) := by
  have hid : g.node? n.id = some n := by
    rw [(mem_of_node? hn).2]
    exact hn
  refine .bind (M := fun _ => At a (Visiting g n)) ?_ fun _ => ?_
  · exact note_meets fun _ _ h => h.dispatch valid hn hk
  have hother : n.kind ≠ .check → ∀ s : Scene τ ι δ σ, At a (Visiting g n) s →
      At a (fun w => ∃ found, Course g (g.following n found) w ∧
        Leads g n found (.next ((g.nextEdge? n.id).map Edge.target))) s := by
    intro hcheck s hs
    refine ⟨hs.1, false, hs.2.other hid hcheck, ?_, ?_⟩
    · simp [target?, hcheck]
    · simp [following, target?, hcheck]
  split
  · next hstart => exact .pure (hother (by rw [hstart]; simp))
  · next hcheck =>
    refine .bind execute_meets fun o => ?_
    refine .bind (M := fun _ => At a (Course g (g.following n o.hit.isSome))) ?_ fun _ => ?_
    · exact note_meets fun _ _ h => h.check hid hcheck _
    · exact (afterCheck_meets hcheck o).post fun _ s hs => ⟨hs.1.1, _, hs.1.2, hs.2⟩
  · next hcheck =>
    refine .bind (M := fun _ => At a (Visiting g n)) (.bind execute_meets fun _ => ?_) fun _ => ?_
    · exact .pure fun _ hs => hs
    · exact .pure (hother hcheck)

/-- What holds when a traversal has ended. -/
def Traversed (g : Graph) (a : Int) : Traversal → Scene τ ι δ σ → Prop
  | .found _, s => At a (Course g none) s
  | .stopped, s => s.state.stopRequested = true
  | .resumed id, s => (g.node? id).isSome = true ∧ At a (Course g (some (settle (some id)))) s
  | .ended, s => At a (Course g (some (settle none))) s

theorem traversal_rule (valid : g.problems = []) : Traversal.Rule r g
    (fun id s => (g.node? id).isSome = true ∧ At a (Due g id) s) (Traversed g a)
    (fun _ _ => True) where
  poll id := by
    refine (Meets.stopAsked fun s t hst hs => ⟨hs.1, hs.2.of_still hst⟩).mono (fun _ hs => hs)
      (fun asked s hs => ?_) fun _ _ _ => trivial
    cases asked with
    | true => exact hs.2.symm
    | false => exact hs.1
  missing id hn _ := fun s hs => by simp [hn] at hs
  finish id n s hn hk hs := by
    obtain rfl := finish_id valid hn hk
    refine ⟨hs.2.1, ?_⟩
    rcases hs.2.2 with h | ⟨-, hstart, -⟩
    · exact h
    · exact absurd hstart (by decide)
  visit id n hn hk := by
    refine Meets.mono (advance_meets valid hn hk) (fun _ hs => hs.2) ?_ fun _ _ hs => hs
    intro turn s hs
    obtain ⟨hattempts, found, hcourse, hleads⟩ := hs
    match turn with
    | .found hit =>
      rw [hleads] at hcourse
      exact ⟨hattempts, hcourse⟩
    | .next none =>
      rw [hleads.2] at hcourse
      exact ⟨hattempts, hcourse⟩
    | .next (some target) =>
      rw [hleads.2] at hcourse
      have hknown := target?_known valid hleads.1.symm
      exact ⟨⟨hknown, hattempts, .inl hcourse⟩, hknown, hattempts, hcourse⟩

theorem Traversed.of_grows {result : Traversal} (h : Grows (fun e => e.deed.isOfStep = true) s t)
    (hs : Traversed g a result s) : Traversed g a result t := by
  cases result with
  | found hit => exact At.of_grows h hs
  | stopped => exact h.stop hs
  | resumed id => exact ⟨hs.1, hs.2.of_grows h⟩
  | ended => exact At.of_grows h hs

/-! ### Whole runs -/

/-- The next attempt is to resume at a node, or to begin at the start, as the interpreter does. -/
def Awaits (g : Graph) (resume : Option String) (w : Way) : Prop :=
  (∀ id, resume = some id → (g.node? id).isSome = true) ∧ Course g (some (settle resume)) w

/-- What holds when the attempts, at most `m` of them, are over. -/
def Ended (g : Graph) (m : Int) : RunOutcome → Scene τ ι δ σ → Prop
  | .found _, s => ∃ a, At a (Course g none) s
  | .exhausted, s => ∃ place, At (max 0 m) (Course g place) s
  | .stopped, s => s.state.stopRequested = true
  | .failed _, _ => True

theorem Ended.of_grows {m : Int} {o : RunOutcome} (h : Grows (fun e => e.deed.isOfStep = true) s t)
    (hs : Ended g m o s) : Ended g m o t := by
  cases o with
  | found hit => exact ⟨hs.choose, hs.choose_spec.of_grows h⟩
  | exhausted => exact ⟨hs.choose, hs.choose_spec.of_grows h⟩
  | stopped => exact h.stop hs
  | failed text => trivial

variable {p : Plan} {m : Int}

theorem countAttempt_meets (valid : p.graph.problems = []) (resume : Option String) :
    Meets (At a (Awaits p.graph resume)) (Run.countAttempt r p resume)
      (fun _ s =>
        (p.graph.node? ((resume.filter fun s => !s.isEmpty).getD startId)).isSome = true ∧
          At (a + 1) (Due p.graph ((resume.filter fun s => !s.isEmpty).getD startId)) s)
      (fun _ _ => True) := by
  have hknown : (∀ id, resume = some id → (p.graph.node? id).isSome = true) →
      (p.graph.node? ((resume.filter fun s => !s.isEmpty).getD startId)).isSome = true := by
    intro h
    cases hfilter : resume.filter fun s => !s.isEmpty with
    | none =>
      obtain ⟨n, hn, -⟩ := start_of_valid valid
      simp [hn]
    | some id => exact h id (Option.filter_eq_some_iff.mp hfilter).1
  refine Run.countAttempt_meets (fun s hs t ht => ?_) ?_ fun _ _ _ => trivial
  · refine ⟨hknown hs.2.1, ?_, ?_⟩
    · rw [ht.attempts, hs.1]
    · rw [ht.journal]
      exact hs.2.2.resume hs.2.1
  · exact fun s t hst hs => ⟨hs.1, hs.2.of_steady hst⟩

theorem attempt_meets (valid : p.graph.problems = []) (resume : Option String) :
    Meets (At a (Awaits p.graph resume)) (Run.attempt r p resume)
      (Traversed p.graph (a + 1)) (fun _ _ => True) := by
  refine .bind (countAttempt_meets valid resume) fun _ => ?_
  refine .followedBy (Traversal.run_meets (traversal_rule valid) resume) (fun result => ?_)
    fun _ _ _ => ?_
  · exact (Meets.of_within (Step.releaseKey_ofStep r) fun _ _ => Traversed.of_grows).fault
      fun _ _ _ => trivial
  · generalize Step.releaseKey r _ = x
    rcases x with ⟨_ | v, t⟩ <;> trivial

theorem run_rule (valid : p.graph.problems = []) (limit : p.maxAttempts = .int m) :
    Run.Rule r p
      (fun k resume s => ∃ a, 0 < k ∧ 0 ≤ a ∧ k + a = max 0 m + 1 ∧ At a (Awaits p.graph resume) s)
      (fun k resume s => ∃ a, 0 ≤ a ∧ a < m ∧ k + a = max 0 m ∧ At a (Awaits p.graph resume) s)
      (Ended p.graph m) (fun _ _ => True) where
  out resume s hs := absurd hs.choose_spec.1 (Nat.lt_irrefl 0)
  poll k resume := by
    refine (Meets.stopAsked ?_).mono (fun _ hs => hs) (fun asked s hs => ?_) fun _ _ _ => trivial
    · rintro s t hst ⟨a, hk, ha, hsum, hs⟩
      exact ⟨a, hk, ha, hsum, hs.of_still hst⟩
    · cases asked with
      | true => exact hs.2.symm
      | false => exact hs.1
  limit k resume s hs := by
    obtain ⟨a, hk, ha, hsum, hs⟩ := hs
    unfold Run.Measured
    rw [limit, hs.1, Run.related_atLeast]
    by_cases hle : m ≤ a
    · rw [decide_eq_true hle]
      have hmax : a = max 0 m := by omega
      exact ⟨_, hmax ▸ hs.1, hs.2.2⟩
    · rw [decide_eq_false hle]
      exact ⟨a, ha, by omega, by omega, hs⟩
  attempt k resume := by
    refine .of_exists fun a => ?_
    rintro s ⟨ha, hlt, hsum, hs⟩
    refine (attempt_meets valid resume).mono (fun _ hs => hs) ?_ (fun _ _ hs => hs) s hs
    intro result t ht
    have hcount : 0 < k ∧ 0 ≤ a + 1 ∧ k + (a + 1) = max 0 m + 1 := by omega
    cases result with
    | found hit => exact ⟨_, ht⟩
    | stopped => exact ht
    | resumed id =>
      refine ⟨a + 1, hcount.1, hcount.2.1, hcount.2.2, ht.2.1, ?_, ht.2.2⟩
      rintro _ ⟨⟩
      exact ht.1
    | ended =>
      refine ⟨a + 1, hcount.1, hcount.2.1, hcount.2.2, ht.1, ?_, ht.2⟩
      rintro _ ⟨⟩

theorem begin_meets : Meets (fun s => s.journal = []) (Run.begin p : Act τ ι δ σ Unit)
    (fun _ => At 0 (Awaits p.graph none)) (fun _ _ => True) := by
  refine Run.begin_meets (fun s hs => ⟨rfl, by simp, ?_⟩) (fun _ _ hs => hs) fun _ _ _ => trivial
  dsimp only
  rw [hs]
  exact fun o _ => ⟨rfl, rfl⟩

theorem runValid_meets (valid : p.graph.problems = []) (limit : p.maxAttempts = .int m) :
    Meets (fun s => s.journal = []) (Run.runValid r p)
      (fun x s => Ended p.graph m x.outcome s ∧ x.attempts = s.state.attempts)
      (fun _ _ => True) := by
  have hattempts : Meets (At 0 (Awaits p.graph none)) (Run.attempts r p) (Ended p.graph m)
      (fun _ _ => True) := by
    refine Run.attempts_meets (run_rule valid limit) ?_ ?_ fun _ _ _ => trivial
    · exact fun _ _ => At.of_steady
    · intro s hs
      rw [limit, Run.attemptsWithin_int]
      exact ⟨0, by omega, by omega, by omega, hs⟩
  have hrelease : ∀ o, Meets (Ended p.graph m o) (Step.releaseKey r) (fun _ => Ended p.graph m o)
      (fun _ _ => True) := fun o =>
    (Meets.of_within (Step.releaseKey_ofStep r) fun _ _ => Ended.of_grows).fault
      fun _ _ _ => trivial
  refine Run.runValid_meets begin_meets hattempts (fun _ _ _ _ _ => trivial) hrelease ?_ ?_
  · intro o s hs
    cases o <;> exact hs
  · exact fun o s t hst hs => hs.of_grows hst.ofStep

/-- A course without a lapse is one that keeps the way, and only that. -/
theorem Course.keeps_iff {place : Option String} {o : Nat → Bool} (h : Course g place w)
    (ho : Begins w.outcomes o) :
    w.lapsed = false ↔ Interpreter.dispatches g o w.nodes.length = w.nodes := by
  unfold Course at h
  split at h
  · next hlapsed => simp [hlapsed, h.differs ho]
  · next hlapsed => simp [hlapsed, (h o ho).1]

/-- Without a node that has the empty id there is no lapse. -/
theorem Course.not_lapsed {place : Option String} (h : Course g place w)
    (named : ∀ n ∈ g.nodes, n.id ≠ "") : w.lapsed = false := by
  unfold Course at h
  split at h
  · obtain ⟨_, m, _, _, hm, hempty, _⟩ := h
    exact absurd hempty (named m hm)
  · next hlapsed => simpa using hlapsed

/-- When a run of a valid graph ends by itself, the nodes it dispatched are the first ones of the
interpreter, as long as no attempt was to resume at the empty id and only then. It has come to where
the interpreter halts, or it has made all its attempts. -/
theorem run_follows_interpreter (r : Rig τ ι δ σ) (p : Plan) (s t : Scene τ ι δ σ) (m : Int)
    (x : RunResult) (valid : p.graph.problems = []) (limit : p.maxAttempts = .int m)
    (ended : Run.run r p s = (.ok x, t)) (unstopped : t.state.stopRequested = false)
    (unfailed : ∀ text, x.outcome ≠ .failed text) :
    (∀ o, Begins (ofJournal t.journal).outcomes o →
      ((ofJournal t.journal).lapsed = false ↔
        Interpreter.dispatches p.graph o (ofJournal t.journal).nodes.length =
          (ofJournal t.journal).nodes)) ∧
    ((∀ n ∈ p.graph.nodes, n.id ≠ "") → (ofJournal t.journal).lapsed = false) ∧
    ((∃ hit, x.outcome = .found hit) ∧
      ((ofJournal t.journal).lapsed = false → ∀ o, Begins (ofJournal t.journal).outcomes o →
        (Interpreter.after p.graph o (ofJournal t.journal).nodes.length).place = none) ∨
      x.outcome = .exhausted ∧ x.attempts = max 0 m) := by
  have hended : Ended p.graph m x.outcome t ∧ x.attempts = t.state.attempts := by
    rcases Run.run_ends valid (runValid_meets valid limit) s rfl with
      ⟨y, u, hrun, hu⟩ | ⟨f, u, hrun, -⟩
    · rw [ended] at hrun
      cases hrun
      exact hu
    · rw [ended] at hrun
      cases hrun
  obtain ⟨hended, hattempts⟩ := hended
  cases houtcome : x.outcome with
  | found hit =>
    rw [houtcome] at hended
    obtain ⟨a, -, hcourse⟩ := hended
    refine ⟨fun o ho => hcourse.keeps_iff ho, hcourse.not_lapsed, .inl ⟨⟨hit, rfl⟩, ?_⟩⟩
    intro hlapsed o ho
    rw [Course, if_neg (by simp [hlapsed])] at hcourse
    rw [(hcourse o ho).2]
  | exhausted =>
    rw [houtcome] at hended
    obtain ⟨place, hmax, hcourse⟩ := hended
    exact ⟨fun o ho => hcourse.keeps_iff ho, hcourse.not_lapsed, .inr ⟨rfl, hattempts.trans hmax⟩⟩
  | stopped =>
    rw [houtcome] at hended
    exact absurd hended (by simp [Ended, unstopped])
  | failed text => exact absurd houtcome (unfailed text)

/-- Nothing can be grabbed from the screen. -/
def blind : Script where
  grab := [{ fault := some (.failed "OSError" "dark"), result := "" }]

/-- Three attempts at a check without seeing anything. -/
def blindRun : Except RunError RunResult × Scene Float String Rehearsal Unit :=
  Run.run (Trial.rig blind) Trial.waiting Trial.scene

theorem run_follows_interpreter_blindly :
    ∃ x t, blindRun = (.ok x, t) ∧ t.state.stopRequested = false ∧
      (∀ text, x.outcome ≠ .failed text) ∧
      (ofJournal t.journal).outcomes = [false, false, false] ∧
      Interpreter.dispatches Trial.waiting.graph (fun _ => false) 4 =
        (ofJournal t.journal).nodes := by
  have houtcome : blindRun.1.toOption.map (fun x => x.outcome.name) = some "exhausted" := by
    decide +kernel
  have houtcomes : (ofJournal blindRun.2.journal).outcomes = [false, false, false] := by
    decide +kernel
  have hlength : (ofJournal blindRun.2.journal).nodes.length = 4 := by decide +kernel
  have unstopped : blindRun.2.state.stopRequested = false := by decide +kernel
  have hbegins : Begins (ofJournal blindRun.2.journal).outcomes fun _ => false := by
    rw [houtcomes]
    intro i b hi
    simpa using List.mem_of_getElem? hi
  cases hx : blindRun.1 with
  | error e => simp [hx, Except.toOption] at houtcome
  | ok x =>
    have ended : blindRun = (.ok x, blindRun.2) := Prod.ext hx (by dsimp only)
    have unfailed : ∀ text, x.outcome ≠ .failed text := by
      intro text htext
      simp [hx, Except.toOption, htext, RunOutcome.name] at houtcome
    obtain ⟨hiff, hnamed, -⟩ := run_follows_interpreter (Trial.rig blind) Trial.waiting Trial.scene
      blindRun.2 3 x (by decide) rfl ended unstopped unfailed
    have hnodes := (hiff _ hbegins).mp (hnamed (by decide))
    rw [hlength] at hnodes
    exact ⟨x, blindRun.2, ended, unstopped, unfailed, houtcomes, hnodes⟩

/-- A delay that leads to one with the empty id, which repeats itself. -/
def lapsing : Plan :=
  Trial.plan
    [Trial.start, { id := "a", kind := .delay, data := .delay (.int 0) },
      { id := "", kind := .delay, data := .delay (.int 0) }, Trial.finish]
    [⟨Graph.startId, "a", none⟩, ⟨"a", "", none⟩, ⟨"", "", none⟩] 2

/-- The second attempt begins at the start, not where the first one broke off. -/
theorem run_leaves_way_at_empty_id :
    lapsing.graph.problems = [] ∧
    (Run.run (Trial.rig {}) lapsing Trial.scene).1.toOption.map (fun x => x.outcome.name) =
      some "exhausted" ∧
    (ofJournal (Run.run (Trial.rig {}) lapsing Trial.scene).2.journal).nodes.map Node.id =
      ["start", "a", "", "start", "a", ""] ∧
    (Interpreter.dispatches lapsing.graph (fun _ => false) 6).map Node.id =
      ["start", "a", "", "", "", ""] := by
  refine ⟨by decide, by decide +kernel, by decide +kernel, by decide +kernel⟩

end Way

end Reroll
