import Mathlib.Data.List.Perm.Subperm
import Reroll.Proofs.Document.Convert
import Reroll.Proofs.Graph.Validity
import Reroll.Proofs.Run.Frame

/-!
# Rules for runs

`Act.Meets` is the triple of a condition before an act and conditions on what it gives or on the
fault it ends with. Two rules open the loops of a run: `walk_meets` for one traversal of a graph,
`attemptFrom_meets` for one attempt after the other. What they ask for is about a single visit of
a node and a single attempt.
-/

namespace Reroll

variable {τ ι δ σ α β : Type}

open Scene Act

namespace Act

/-- What an act came to: it gave `v` where `M v` holds, or it ended with a fault `f` where `E f`
holds. -/
def Ends (M : α → Scene τ ι δ σ → Prop) (E : Fault → Scene τ ι δ σ → Prop) :
    Except Fault α × Scene τ ι δ σ → Prop
  | (.ok v, t) => M v t
  | (.error f, t) => E f t

/-- Started where `P` holds, the act ends as `M` and `E` say. -/
def Meets (P : Scene τ ι δ σ → Prop) (a : Act τ ι δ σ α) (M : α → Scene τ ι δ σ → Prop)
    (E : Fault → Scene τ ι δ σ → Prop) : Prop :=
  ∀ s, P s → Ends M E (a s)

namespace Meets

variable {P P' : Scene τ ι δ σ → Prop} {M M' : α → Scene τ ι δ σ → Prop}
variable {N : β → Scene τ ι δ σ → Prop} {E E' : Fault → Scene τ ι δ σ → Prop}

theorem bind {a : Act τ ι δ σ α} {f : α → Act τ ι δ σ β} (ha : Meets P a M E)
    (hf : ∀ v, Meets (M v) (f v) N E) : Meets P (a >>= f) N E := by
  intro s hs
  have h := ha s hs
  rw [bind_apply]
  generalize a s = x at h ⊢
  rcases x with ⟨_ | v, t⟩
  · exact h
  · exact hf v t h

theorem pure {v : α} (h : ∀ s, P s → M v s) : Meets P (pure v) M E := h

theorem throw {f : Fault} (h : ∀ s, P s → E f s) : Meets P (throw f : Act τ ι δ σ α) M E := h

theorem get : Meets P (get : Act τ ι δ σ _) (fun v s => v = s ∧ P s) E :=
  fun _ hs => ⟨rfl, hs⟩

theorem modify {f : Scene τ ι δ σ → Scene τ ι δ σ} {M : PUnit → Scene τ ι δ σ → Prop}
    (h : ∀ s, P s → M ⟨⟩ (f s)) : Meets P (modify f) M E := h

theorem lift {ε : Type} {c : ε → Fault} {x : Except ε α} (h : ∀ v s, x = .ok v → P s → M v s)
    (he : ∀ e s, x = .error e → P s → E (c e) s) : Meets P (lift c x) M E := by
  intro s hs
  rw [lift_apply]
  cases x with
  | error e => exact he e s rfl hs
  | ok v => exact h v s rfl hs

theorem lift_ok {ε : Type} {c : ε → Fault} {x : Except ε α} {v : α} (hx : x = .ok v)
    (h : ∀ s, P s → M v s) : Meets P (Act.lift c x) M E := by
  subst hx
  exact h

theorem outcome {a : Act τ ι δ σ α} {M : Except Fault α → Scene τ ι δ σ → Prop}
    (h : Meets P a (fun v => M (.ok v)) (fun f => M (.error f))) : Meets P (outcome a) M E := by
  intro s hs
  have h := h s hs
  rw [outcome_apply]
  generalize a s = x at h ⊢
  rcases x with ⟨_ | v, t⟩
  · exact h
  · exact h

theorem mono {a : Act τ ι δ σ α} (h : Meets P a M E) (hP : ∀ s, P' s → P s)
    (hM : ∀ v s, M v s → M' v s) (hE : ∀ f s, E f s → E' f s) : Meets P' a M' E' := by
  intro s hs
  have h := h s (hP s hs)
  generalize a s = x at h ⊢
  rcases x with ⟨_ | v, t⟩
  · exact hE _ _ h
  · exact hM _ _ h

theorem post {a : Act τ ι δ σ α} (h : Meets P a M E) (hM : ∀ v s, M v s → M' v s) :
    Meets P a M' E := h.mono (fun _ hs => hs) hM fun _ _ hs => hs

theorem fault {a : Act τ ι δ σ α} (h : Meets P a M E) (hE : ∀ f s, E f s → E' f s) :
    Meets P a M E' := h.mono (fun _ hs => hs) (fun _ _ hs => hs) hE

/-- Two things that an act keeps hold together after it. -/
theorem and {a : Act τ ι δ σ α} (h : Meets P a M E) (h' : Meets P' a M' E') :
    Meets (fun s => P s ∧ P' s) a (fun v s => M v s ∧ M' v s) fun f s => E f s ∧ E' f s := by
  rintro s ⟨hs, hs'⟩
  have hl := h s hs
  have hr := h' s hs'
  generalize a s = x at hl hr ⊢
  rcases x with ⟨_ | v, t⟩
  · exact ⟨hl, hr⟩
  · exact ⟨hl, hr⟩

theorem ite {c : Prop} [Decidable c] {a b : Act τ ι δ σ α} (ha : c → Meets P a M E)
    (hb : ¬c → Meets P b M E) : Meets P (if c then a else b) M E := by
  split
  · exact ha ‹_›
  · exact hb ‹_›

/-- A fact that does not depend on the scene may be assumed. -/
theorem of_fact {c : Prop} {a : Act τ ι δ σ α} (h : c → Meets P a M E) :
    Meets (fun s => c ∧ P s) a M E := fun s hs => h hs.1 s hs.2

theorem of_exists {γ : Type} {P : γ → Scene τ ι δ σ → Prop} {a : Act τ ι δ σ α}
    (h : ∀ c, Meets (P c) a M E) : Meets (fun s => ∃ c, P c s) a M E :=
  fun s ⟨c, hs⟩ => h c s hs

/-- A condition that a relation passes on holds after an act within the relation. -/
theorem of_within {R : Scene τ ι δ σ → Scene τ ι δ σ → Prop} {a : Act τ ι δ σ α}
    (ha : Within R a) (hR : ∀ s t, R s t → P s → P t) :
    Meets P a (fun _ => P) (fun _ => P) := by
  intro s hs
  have h := hR _ _ (ha s) hs
  generalize a s = x at h ⊢
  rcases x with ⟨_ | v, t⟩
  · exact h
  · exact h

theorem operate {op : δ → Answer α × δ} {deed : Except DeviceFault α → Deed τ ι}
    (hok : ∀ v s t, (op s.devices).1.result = .ok v → Noted (deed (.ok v)) s t → P s → M v t)
    (herr : ∀ f s t, Noted (deed (.error f)) s t → P s → E (.ofDevice f) t) :
    Meets P (operate op deed) M E := by
  intro s hs
  obtain ⟨t, hop, ht⟩ := operate_noted op deed s
  rw [hop]
  cases hx : (op s.devices).1.result with
  | error f => exact herr f s t (hx ▸ ht) hs
  | ok v => exact hok v s t hx (hx ▸ ht) hs

/-- Looking for a stop tells whether one is requested. -/
theorem stopAsked (h : ∀ s t, Steady (fun _ => False) s t → P s → P t) :
    Meets P stopAsked (fun asked s => P s ∧ asked = s.state.stopRequested) (fun _ => P) := by
  intro s hs
  have hsteady := h _ _ (stopAsked_steady s) hs
  rw [stopAsked_apply] at hsteady ⊢
  generalize s.state.poll s.files = x at hsteady ⊢
  cases x with
  | error e => exact hs
  | ok x => exact ⟨hsteady, rfl⟩

/-- Telling never ends with a fault. -/
theorem tell {r : Rig τ ι δ σ} {level : EventLevel} {message : String}
    {M : Unit → Scene τ ι δ σ → Prop}
    (h : ∀ s t, Steady (·.isIdle = true) s t → P s → M () t) :
    Meets P (tell r level message) M E := by
  intro s hs
  have hm := h _ _ (tell_steady (fun _ => id) r level message s) hs
  have hok := tell_ok r level message s
  generalize Act.tell r level message s = x at hm hok ⊢
  obtain ⟨_, t⟩ := x
  cases hok
  exact hm

theorem followedBy {a : Act τ ι δ σ α} {b : Act τ ι δ σ Unit} {E₁ : Fault → Scene τ ι δ σ → Prop}
    (ha : Meets P a M E₁) (hok : ∀ v, Meets (M v) b (fun _ => M' v) E)
    (herr : ∀ f, Meets (E₁ f) b (fun _ => E f) E) : Meets P (a.followedBy b) M' E := by
  refine bind (M := fun x s => Ends M E₁ (x, s)) (outcome ha) fun x => ?_
  cases x with
  | ok v => exact (hok v).bind fun _ => .pure fun _ hs => hs
  | error f => exact (herr f).bind fun _ => .throw fun _ hs => hs

end Meets

end Act

/-! ### Trying a device -/

theorem Step.trying_meets {P : Scene τ ι δ σ → Prop} {M : α → Scene τ ι δ σ → Prop}
    {N : Option α → Scene τ ι δ σ → Prop} {E E₁ : Fault → Scene τ ι δ σ → Prop}
    {r : Rig τ ι δ σ} {c : Capability} {n : Node} {a : Act τ ι δ σ α} (ha : Meets P a M E₁)
    (worked : ∀ v s t, Steady (·.isIdle = true) s t → M v s → N (some v) t)
    (broken : ∀ text s, E₁ (.unavailable text) s → E (.unavailable text) s)
    (failed : ∀ f s t, Steady (·.isIdle = true) s t → E₁ f s → N none t ∧ ∀ f, E f t) :
    Meets P (trying r c n a) N E := by
  refine .bind (M := fun x s => Ends M E₁ (x, s)) (.outcome ha) fun x => ?_
  have hfailed : ∀ f text, Meets (E₁ f) (Step.failed r c n text)
      (fun _ => N none) (fun f t => E f t) := by
    intro f text s hs
    have hsteady := failed_steady (fun _ => id) r c n text s
    generalize Step.failed r c n text s = x at hsteady ⊢
    obtain ⟨hnone, hfault⟩ := failed f s x.2 hsteady hs
    rcases x with ⟨_ | v, t⟩
    · exact hfault _
    · exact hnone
  split
  · next v =>
    refine .bind (M := fun _ => N (some v)) ?_ fun _ => .pure fun _ hs => hs
    exact .modify fun s hs => worked v s _ (succeeded_steady c s) hs
  · exact .throw (broken _)
  · exact .bind (hfailed _ _) fun _ => .pure fun _ hs => hs

theorem Step.releaseKey_meets {P Q : Scene τ ι δ σ → Prop} {E : Fault → Scene τ ι δ σ → Prop}
    {r : Rig τ ι δ σ}
    (h : ∀ s t, Grows (fun e => (e.deed.isIdle || e.deed.isTouch) = true) s t → P s → Q t) :
    Meets P (releaseKey r) (fun _ => Q) E := by
  intro s hs
  have hgrows := releaseKey_grows (p := fun d => (d.isIdle || d.isTouch) = true)
    (fun d hd => by simp [hd]) (fun d hd => by simp [hd]) r s
  have hok := releaseKey_ok r s
  generalize releaseKey r s = x at hgrows hok ⊢
  obtain ⟨_, t⟩ := x
  cases hok
  exact h s t hgrows hs

/-- A wait only looks for stops and sleeps. -/
theorem Delay.waitFrom_meets {P : Scene τ ι δ σ → Prop} {E : Fault → Scene τ ι δ σ → Prop}
    {r : Rig τ ι δ σ} (asks : Meets P stopAsked (fun _ => P) E)
    (sleeps : ∀ length, Meets P (Act.sleep r length) (fun _ => P) E) (watched : Bool)
    (interval total abortAfter started : τ) (fuel : Nat) :
    Meets P (waitFrom r watched interval total abortAfter started fuel) (fun _ => P) E := by
  induction fuel with
  | zero => exact .pure fun _ hs => hs
  | succ fuel ih =>
    have hnow : Meets P (now r) (fun _ => P) E := fun _ hs => hs
    unfold waitFrom
    refine hnow.bind fun now => .ite (fun _ => .pure fun _ hs => hs) fun _ => ?_
    refine .ite (fun _ => asks.bind fun _ => ?_) fun _ => (sleeps _).bind fun _ => ih
    exact .ite (fun _ => .pure fun _ hs => hs) fun _ => (sleeps _).bind fun _ => ih

/-! ### One traversal -/

namespace Traversal

/-- Where a turn leaves a traversal: at its end, or before the next node, which may be one where
it breaks off. -/
def Turned (Head : String → Scene τ ι δ σ → Prop) (Done : Traversal → Scene τ ι δ σ → Prop) :
    Turn → Scene τ ι δ σ → Prop
  | .found hit, s => Done (.found hit) s
  | .next none, s => Done .ended s
  | .next (some id), s => Head id s ∧ Done (.resumed id) s

/-- What a visit has to keep: `Head id` holds whenever the traversal is about to visit `id`. -/
structure Rule (r : Rig τ ι δ σ) (g : Graph) (Head : String → Scene τ ι δ σ → Prop)
    (Done : Traversal → Scene τ ι δ σ → Prop) (E : Fault → Scene τ ι δ σ → Prop) : Prop where
  poll : ∀ id, Meets (Head id) stopAsked
    (fun asked s => if asked = true then Done .stopped s else Head id s) E
  missing : ∀ id, g.node? id = none → ∀ text,
    Meets (Head id) (tell r .warning text) (fun _ => Done .ended) E
  finish : ∀ id n s, g.node? id = some n → n.kind = .finish → Head id s → Done .ended s
  visit : ∀ id n, g.node? id = some n → n.kind ≠ .finish →
    Meets (Head id) (advance r g n) (Turned Head Done) E

variable {r : Rig τ ι δ σ} {g : Graph} {Head : String → Scene τ ι δ σ → Prop}
variable {Done : Traversal → Scene τ ι δ σ → Prop} {E : Fault → Scene τ ι δ σ → Prop}

/-- The visited ids are distinct ids of nodes, so there are no more of them than nodes and the
fuel lasts. -/
theorem walk_meets (rule : Rule r g Head Done E) (fuel : Nat) (visited : List String)
    (id : String) (nodup : visited.Nodup) (ids : ∀ v ∈ visited, v ∈ g.nodes.map Node.id)
    (fresh : id ∉ visited) (enough : visited.length + fuel = g.nodes.length + 1) :
    Meets (Head id) (walk r g visited id fuel) Done E := by
  induction fuel generalizing visited id with
  | zero =>
    have hle := (nodup.subperm ids).length_le
    simp only [List.length_map] at hle
    omega
  | succ fuel ih =>
    unfold walk
    refine .bind (rule.poll id) fun asked => ?_
    refine .ite (fun h => .pure fun s hs => by simpa [h] using hs) fun h => ?_
    simp only [h, Bool.false_eq_true, ite_false]
    cases hn : g.node? id with
    | none => exact .bind (rule.missing id hn _) fun _ => .pure fun _ hs => hs
    | some n =>
      refine .ite (fun hk => .pure fun s hs => rule.finish id n s hn hk hs) fun hk => ?_
      refine .bind (rule.visit id n hn hk) fun turn => ?_
      obtain ⟨hmem, rfl⟩ := Graph.mem_of_node? hn
      match turn with
      | .found hit => exact .pure fun _ hs => hs
      | .next none => exact .pure fun _ hs => hs
      | .next (some next) =>
        refine .ite (fun _ => .pure fun _ hs => hs.2) fun hv => ?_
        have hnew : next ∉ n.id :: visited := by simpa using hv
        have hnodup := List.nodup_cons.mpr ⟨fresh, nodup⟩
        refine (ih (n.id :: visited) next hnodup ?_ hnew ?_).mono (fun _ hs => hs.1)
          (fun _ _ => id) fun _ _ => id
        · intro v hv
          rcases List.mem_cons.mp hv with rfl | hv
          · exact List.mem_map_of_mem hmem
          · exact ids v hv
        · simp only [List.length_cons]
          omega

theorem run_meets (rule : Rule r g Head Done E) (start : Option String) :
    Meets (Head ((start.filter fun s => !s.isEmpty).getD Graph.startId)) (run r g start) Done E :=
  walk_meets rule _ [] _ .nil (by simp) (by simp) (by simp)

end Traversal

/-! ### One attempt after the other -/

namespace Run

/-- What is left to do after a traversal: the run is over, or another attempt follows. -/
def Continued (Head : Option String → Scene τ ι δ σ → Prop)
    (Done : RunOutcome → Scene τ ι δ σ → Prop) : Traversal → Scene τ ι δ σ → Prop
  | .found hit, s => Done (.found hit) s
  | .stopped, s => Done .stopped s
  | .resumed id, s => Head (some id) s
  | .ended, s => Head none s

/-- The limit of attempts has been looked at. -/
def Measured (Open : Scene τ ι δ σ → Prop) (Done : RunOutcome → Scene τ ι δ σ → Prop)
    (E : Fault → Scene τ ι δ σ → Prop) (limit : Value) (s : Scene τ ι δ σ) : Prop :=
  match (Value.int s.state.attempts).related .atLeast limit with
  | .error e => E (.operand e) s
  | .ok true => Done .exhausted s
  | .ok false => Open s

/-- What an attempt has to keep: `Head k resume` holds before each, when the fuel is `k`, and
`Open k resume` once the attempt is known to be within the limit. -/
structure Rule (r : Rig τ ι δ σ) (p : Plan)
    (Head Open : Nat → Option String → Scene τ ι δ σ → Prop)
    (Done : RunOutcome → Scene τ ι δ σ → Prop) (E : Fault → Scene τ ι δ σ → Prop) : Prop where
  out : ∀ resume s, Head 0 resume s → Done .exhausted s
  poll : ∀ k resume, Meets (Head (k + 1) resume) stopAsked
    (fun asked s => if asked = true then Done .stopped s else Head (k + 1) resume s) E
  limit : ∀ k resume s, Head (k + 1) resume s →
    Measured (Open k resume) Done E p.maxAttempts s
  attempt : ∀ k resume, Meets (Open k resume) (attempt r p resume) (Continued (Head k) Done) E

variable {r : Rig τ ι δ σ} {p : Plan} {Head Open : Nat → Option String → Scene τ ι δ σ → Prop}
variable {Done : RunOutcome → Scene τ ι δ σ → Prop} {E : Fault → Scene τ ι δ σ → Prop}

/-- Counting an attempt changes the count and notes the attempt; the rest is telling. -/
theorem countAttempt_meets {P Q : Scene τ ι δ σ → Prop} {resume : Option String}
    (counted : ∀ s, P s → ∀ t,
      Noted (.attempted (s.state.attempts + 1) resume)
        { s with state := { s.state with attempts := s.state.attempts + 1 } } t → Q t)
    (idle : ∀ s t, Steady (·.isIdle = true) s t → Q s → Q t) (fault : ∀ f s, Q s → E f s) :
    Meets P (countAttempt r p resume) (fun _ => Q) E := by
  refine .bind .get fun v => ?_
  refine .bind (M := fun _ s => P v ∧
    s = { v with state := { v.state with attempts := v.state.attempts + 1 } })
    (.modify ?_) fun _ => ?_
  · rintro s ⟨rfl, hs⟩
    exact ⟨hs, rfl⟩
  refine .bind (M := fun _ => Q) ?_ fun _ => .ite (fun _ => ?_) fun _ => .pure fun _ hs => hs
  · rintro s ⟨hv, rfl⟩
    exact counted v hv _ (note_noted _ _)
  · exact .bind (.lift (fun _ _ _ hs => hs) fun _ s _ hs => fault _ s hs) fun _ => .tell idle

theorem attemptFrom_meets (rule : Rule r p Head Open Done E) (fuel : Nat) (resume : Option String) :
    Meets (Head fuel resume) (attemptFrom r p resume fuel) Done E := by
  induction fuel generalizing resume with
  | zero => exact .pure (rule.out resume)
  | succ fuel ih =>
    unfold attemptFrom
    refine .bind (rule.poll fuel resume) fun asked => ?_
    refine .ite (fun h => .pure fun s hs => by simpa [h] using hs) fun h => ?_
    simp only [h, Bool.false_eq_true, ite_false]
    refine .bind .get fun v => ?_
    refine .bind (M := fun b s => if b = true then Done .exhausted s else Open fuel resume s)
      (.lift ?_ ?_) fun b => ?_
    · rintro b s hb ⟨rfl, hs⟩
      have hm := rule.limit fuel resume v hs
      rw [Measured, hb] at hm
      cases b <;> exact hm
    · rintro e s he ⟨rfl, hs⟩
      have hm := rule.limit fuel resume v hs
      rwa [Measured, he] at hm
    · refine .ite (fun h => .pure fun s hs => by simpa [h] using hs) fun h => ?_
      simp only [h, Bool.false_eq_true, ite_false]
      refine .bind (rule.attempt fuel resume) fun t => ?_
      cases t with
      | found hit => exact .pure fun _ hs => hs
      | stopped => exact .pure fun _ hs => hs
      | resumed id => exact ih (some id)
      | ended => exact ih none

theorem related_atLeast (a m : Int) :
    (Value.int a).related .atLeast (.int m) = .ok (decide (m ≤ a)) := by
  have h : (Value.int a).related .atLeast (.int m) =
      .ok ((Number.int m).lt (.int a) || (Number.int a).same (.int m)) := rfl
  rw [h, Number.lt_int, Number.same_int, ← Bool.decide_or]
  exact congrArg Except.ok (decide_eq_decide.mpr (by omega))

theorem attemptsWithin_int (m : Int) : attemptsWithin (.int m) = m.toNat := by
  simp [attemptsWithin, Value.int, Value.number?, Number.magnitude?]

theorem attempts_meets (rule : Rule r p Head Open Done E) {I : Scene τ ι δ σ → Prop}
    (idle : ∀ s t, Steady (·.isIdle = true) s t → I s → I t)
    (head : ∀ s, I s → Head (attemptsWithin p.maxAttempts + 1) none s)
    (fault : ∀ f s, I s → E f s) : Meets I (attempts r p) Done E := by
  have hdelay := Meets.of_within (startDelay_steady (fun _ => id) r p) idle
  refine .bind (M := fun _ => I) (hdelay.fault fault) fun _ => ?_
  exact (attemptFrom_meets rule _ none).mono head (fun _ _ => id) fun _ _ => id

theorem announce_steady {q : Deed τ ι → Prop} (idle : ∀ d : Deed τ ι, d.isIdle = true → q d)
    (r : Rig τ ι δ σ) (attempts : Int) (o : RunOutcome) :
    Within (Steady q) (announce r attempts o) := by
  cases o with
  | found hit => exact .bind (tell_steady idle r _ _) fun _ => tell_steady idle r _ _
  | exhausted => exact tell_steady idle r _ _
  | stopped => exact tell_steady idle r _ _
  | failed text => exact .pure _

theorem announce_ok (r : Rig τ ι δ σ) (attempts : Int) (o : RunOutcome) (s : Scene τ ι δ σ) :
    (announce r attempts o s).1 = .ok () := by
  cases o with
  | found hit => rw [announce, bind_apply]; rfl
  | exhausted => rfl
  | stopped => rfl
  | failed text => rfl

/-- Beginning a run resets its state and the counts of failures, and may remove a file. -/
theorem begin_meets {P I : Scene τ ι δ σ → Prop}
    (reset : ∀ s, P s → I { s with state := s.state.begin, failures := {} })
    (files : ∀ s files, I s → I { s with files }) (fault : ∀ f s, I s → E f s) :
    Meets P (begin p) (fun _ => I) E := by
  refine .bind (M := fun _ => I) (.modify reset) fun _ => .bind .get fun v => ?_
  refine .bind (.lift (fun _ _ _ hs => hs) fun _ s _ hs => fault _ s hs.2) fun x => ?_
  refine .bind (M := fun _ => I) ?_ fun _ => .bind (M := fun _ => I) (.lift ?_ ?_) fun _ => ?_
  · rintro s ⟨rfl, hs⟩
    exact files _ _ hs
  · exact fun _ _ _ hs => hs
  · exact fun _ s _ hs => fault _ s hs
  · exact .pure fun _ hs => hs

/-- After the attempts of a run only the release of the key and telling are left. -/
theorem runValid_meets {P I : Scene τ ι δ σ → Prop} {Final : RunOutcome → Scene τ ι δ σ → Prop}
    {F : Fault → Scene τ ι δ σ → Prop} (hbegin : Meets P (begin p) (fun _ => I) F)
    (hattempts : Meets I (attempts r p) Done E)
    (failed : ∀ f s t, Steady (·.isIdle = true) s t → E f s → Done (.failed f.text) t)
    (release : ∀ o, Meets (Done o) (Step.releaseKey r) (fun _ => Final o) F)
    (finish : ∀ o s, Final o s → Final o { s with state := s.state.finish })
    (idle : ∀ o s t, Steady (·.isIdle = true) s t → Final o s → Final o t) :
    Meets P (runValid r p)
      (fun x s => Final x.outcome s ∧ x.attempts = s.state.attempts) F := by
  have hguarded : Meets I (guarded r p) Done F := by
    refine .bind (M := fun x s => Ends Done E (x, s)) (.outcome ?_) fun x => ?_
    · exact hattempts
    · cases x with
      | ok o => exact .pure fun _ hs => hs
      | error f =>
        refine .bind (M := fun _ => Done (.failed f.text)) (.tell (failed f)) fun _ => ?_
        exact .pure fun _ hs => hs
  refine .bind (M := fun _ => P) (.bind .get fun _ => .pure fun _ hs => hs.2) fun started => ?_
  refine .bind hbegin fun _ => .bind hguarded fun o => .bind (release o) fun _ => ?_
  refine .bind (M := fun _ => Final o) (.modify (finish o)) fun _ => ?_
  refine .bind (M := fun _ => Final o) (.bind .get fun _ => .pure fun _ hs => hs.2) fun ended => ?_
  refine .bind .get fun v => ?_
  refine .bind (M := fun _ s => Final o s ∧ v.state.attempts = s.state.attempts) ?_ fun _ =>
    .pure fun _ hs => hs
  rintro s ⟨rfl, hs⟩
  have hsteady := announce_steady (fun _ => id) r v.state.attempts o v
  have hok := announce_ok r v.state.attempts o v
  generalize announce r v.state.attempts o v = x at hsteady hok ⊢
  obtain ⟨_, t⟩ := x
  cases hok
  exact ⟨idle o _ _ hsteady hs, hsteady.grows.attempts.symm⟩

/-- What a run of a sound graph keeps is what its valid run keeps, begun with an empty journal. -/
theorem run_ends {P : Scene τ ι δ σ → Prop} {M : RunResult → Scene τ ι δ σ → Prop}
    {F : Fault → Scene τ ι δ σ → Prop} (sound : p.graph.problems = [])
    (h : Meets P (runValid (rigFor r p) p) M F) (s : Scene τ ι δ σ)
    (hs : P { s with journal := [] }) :
    (∃ x t, run r p s = (.ok x, t) ∧ M x t) ∨
      ∃ f t, run r p s = (.error (.fault f), t) ∧ F f t := by
  have h := h _ hs
  unfold run
  rw [sound]
  dsimp only
  generalize runValid (rigFor r p) p { s with journal := [] } = x at h ⊢
  rcases x with ⟨f | v, t⟩
  · exact .inr ⟨f, t, rfl, h⟩
  · exact .inl ⟨v, t, rfl, h⟩

/-- A plan whose graph has problems does nothing. -/
theorem run_unsound (h : p.graph.problems ≠ []) (s : Scene τ ι δ σ) :
    run r p s = (.error (.graph p.graph.problems), { s with journal := [] }) := by
  unfold run
  split
  · contradiction
  · rfl

end Run

end Reroll
