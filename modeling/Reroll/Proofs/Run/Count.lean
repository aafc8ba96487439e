import Reroll.Proofs.Run.Use

/-!
# Counters after a step

A step adds one to the steps of a run, and keeps each counter at the number of failures since its
device worked, whatever the devices do (`execute_meets`). How a step ends with a fault says whether
a device is to blame for it (`Fallen`).
-/

namespace Reroll

variable {τ ι δ σ α : Type}

open Scene Act

namespace Streak

variable {l : List (Visit τ ι)}
variable {r : Rig τ ι δ σ} {s t : Scene τ ι δ σ} {n : Node} {counts : Failures} {m : Int}
variable {P : List (Visit τ ι) → Prop} {c : Capability}
variable {targets : List Spec} {before : Failures} {v : Visit τ ι} {d : Devices τ ι δ}

theorem of_set (f : Failures) (c c' : Capability) (count : Nat) :
    (f.set c count).of c' = if c' = c then count else f.of c' := by
  cases c <;> cases c' <;> rfl

/-- The counters tell the failures since a device worked. -/
def Agrees (targets : List Spec) (counts : Failures) (l : List (Visit τ ι)) : Prop :=
  ∀ c, counts.of c = streak targets c l

def Below (m : Int) (counts : Failures) : Prop := ∀ c, ¬isTooMany m (counts.of c)

/-- A capability did not fail in a step, and its counter was kept accordingly. -/
def Serves (targets : List Spec) (before counts : Failures) (v : Visit τ ι) (c : Capability) :
    Prop :=
  worked? targets v c ≠ some false ∧ counts.of c = counted (worked? targets v c) (before.of c)

theorem Serves.below (h : Serves targets before counts v c) (below : Below m before) :
    ¬isTooMany m (counts.of c) := by
  obtain ⟨hserves, hcount⟩ := h
  rw [hcount]
  cases hworked : worked? targets v c with
  | none => exact below c
  | some worked =>
    cases worked with
    | true =>
      rintro ⟨hpositive, hle⟩
      simp only [counted] at hle
      omega
    | false => exact absurd hworked hserves

/-- A step was done, and the run can go on. -/
structure Stepped (targets : List Spec) (m : Int) (l : List (Visit τ ι)) (s : Scene τ ι δ σ) :
    Prop where
  latest : ∃ v, steps s.journal = v :: l
  agrees : Agrees targets s.failures (steps s.journal)
  below : Below m s.failures

/-- How the latest step ended with a fault: with no device to blame for it, with one that has now
failed as often as the limit allows, or with one that is unavailable, which does not count. -/
inductive Fallen (d : Devices τ ι δ) (targets : List Spec) (m : Int) (l : List (Visit τ ι))
    (s : Scene τ ι δ σ) : Fault → Prop
  | aside (f : Fault) (v : Visit τ ι) (latest : steps s.journal = v :: l)
    (agrees : Agrees targets s.failures (v :: l)) (below : Below m s.failures)
    (serves : ∀ c, worked? targets v c ≠ some false) : Fallen d targets m l s f
  | tooMany (v : Visit τ ι) (c : Capability) (text : String) (latest : steps s.journal = v :: l)
    (agrees : Agrees targets s.failures (v :: l)) (fails : worked? targets v c = some false)
    (positive : 0 < m) (reached : s.failures.of c = m) :
    Fallen d targets m l s (.unavailable (complaint c (s.failures.of c) text))
  | unavailable (v : Visit τ ι) (c : Capability) (text : String)
    (latest : steps s.journal = v :: l) (special : ¬Ordinary d c)
    (fails : worked? targets v c = some false)
    (agrees : ∀ c', c' ≠ c → s.failures.of c' = streak targets c' (v :: l))
    (behind : s.failures.of c + 1 = streak targets c (v :: l)) (below : Below m s.failures) :
    Fallen d targets m l s (.unavailable text)

theorem Agrees.cons (h : Agrees targets before l)
    (counts' : ∀ c, counts.of c = counted (worked? targets v c) (before.of c)) :
    Agrees targets counts (v :: l) := by
  intro c
  rw [streak_cons, counts' c, h c]

theorem Stepped.of_serves (agrees : Agrees targets before l) (below : Below m before)
    (h : At counts P s) (serves : ∀ visits, P visits →
      ∃ v, visits = v :: l ∧ ∀ c, Serves targets before counts v c) :
    Stepped targets m l s := by
  obtain ⟨v, hlatest, hserves⟩ := serves _ h.2
  have hagrees : Agrees targets counts (v :: l) := agrees.cons fun c => (hserves c).2
  refine ⟨⟨v, hlatest⟩, ?_, ?_⟩
  · rw [h.1, hlatest]
    exact hagrees
  · rw [h.1]
    exact fun c => (hserves c).below below

theorem Fallen.of_serves {f : Fault} (agrees : Agrees targets before l) (below : Below m before)
    (h : At counts P s) (serves : ∀ visits, P visits →
      ∃ v, visits = v :: l ∧ ∀ c, Serves targets before counts v c) :
    Fallen d targets m l s f := by
  obtain ⟨v, hlatest, hserves⟩ := serves _ h.2
  have hagrees : Agrees targets counts (v :: l) := agrees.cons fun c => (hserves c).2
  refine .aside f v hlatest ?_ ?_ fun c => (hserves c).1
  · rw [h.1]
    exact hagrees
  · rw [h.1]
    exact fun c => (hserves c).below below

/-- A capability failed in the latest step, and no other one did; its counter is not yet raised. -/
def Fails (targets : List Spec) (before counts : Failures) (c : Capability)
    (l visits : List (Visit τ ι)) : Prop :=
  ∃ v, visits = v :: l ∧ worked? targets v c = some false ∧ counts.of c = before.of c ∧
    ∀ c', c' ≠ c → Serves targets before counts v c'

theorem Fails.agrees (agrees : Agrees targets before l) (hfails : worked? targets v c = some false)
    (hcount : counts.of c = before.of c)
    (hserves : ∀ c', c' ≠ c → Serves targets before counts v c') :
    Agrees targets (counts.set c (counts.of c + 1)) (v :: l) := by
  refine agrees.cons fun c' => ?_
  rw [of_set]
  by_cases hc : c' = c
  · subst hc
    rw [if_pos rfl, hfails, hcount]
    rfl
  · rw [if_neg hc]
    exact (hserves c' hc).2

theorem Missed.stepped (agrees : Agrees targets before l) (below : Below m before)
    (h : Missed m c counts P s)
    (fails : ∀ visits, P visits → Fails targets before counts c l visits) :
    Stepped targets m l s := by
  obtain ⟨⟨hcounts, hP⟩, hfew⟩ := h
  obtain ⟨v, hlatest, hfails, hcount, hserves⟩ := fails _ hP
  refine ⟨⟨v, hlatest⟩, ?_, ?_⟩
  · rw [hcounts, hlatest]
    exact Fails.agrees agrees hfails hcount hserves
  · rw [hcounts]
    intro c'
    rw [of_set]
    by_cases hc : c' = c
    · rw [if_pos hc]
      exact hfew
    · rw [if_neg hc]
      exact (hserves c' hc).below below

theorem Tripped.fallen {f : Fault} (agrees : Agrees targets before l) (below : Below m before)
    (h : Tripped d m c counts P s f)
    (fails : ∀ visits, P visits → Fails targets before counts c l visits) :
    Fallen d targets m l s f := by
  cases h with
  | unavailable text special here =>
    obtain ⟨hcounts, hP⟩ := here
    obtain ⟨v, hlatest, hfails, hcount, hserves⟩ := fails _ hP
    refine .unavailable v c text hlatest special hfails ?_ ?_ ?_
    · intro c' hc
      rw [hcounts, (hserves c' hc).2, streak_cons, agrees c']
    · rw [hcounts, streak_cons, hfails, hcount, agrees c]
      rfl
    · rw [hcounts]
      intro c'
      by_cases hc : c' = c
      · rw [hc, hcount]
        exact below c
      · exact (hserves c' hc).below below
  | tooMany text many here =>
    obtain ⟨hcounts, hP⟩ := here
    obtain ⟨v, hlatest, hfails, hcount, hserves⟩ := fails _ hP
    have hself : s.failures.of c = counts.of c + 1 := by
      rw [hcounts, of_set, if_pos rfl]
    have hbefore := below c
    rw [← hself]
    refine .tooMany v c text hlatest ?_ hfails many.1 ?_
    · rw [hcounts]
      exact Fails.agrees agrees hfails hcount hserves
    · have hle : m ≤ (counts.of c + 1 : Nat) := many.2
      have hlt : ¬m ≤ (before.of c : Nat) := fun hle => hbefore ⟨many.1, hle⟩
      rw [hself]
      omega

/-! ### Whole steps -/

/-- The step of the node comes to use a capability first. -/
def isClicking (n : Node) : Bool := isClick n && (Step.clickTarget n).isOk

def isChecking (targets : List Spec) (n : Node) : Bool :=
  n.kind = .check && (Step.checkTarget targets n).isOk

theorem worked_idle (hclick : isClicking n = false) (hcheck : isChecking targets n = false)
    (looks : List (Deed τ ι)) (c : Capability) : worked? targets ⟨n, looks⟩ c = none := by
  unfold isClicking at hclick
  unfold isChecking at hcheck
  cases c <;> simp [worked?, hclick, hcheck]

theorem worked_click (h : isClicking n = true) (looks : List (Deed τ ι)) (c : Capability) :
    worked? targets ⟨n, looks⟩ c = if c = .input then some (looks.any Deed.isSent) else none := by
  have hcheck : ¬n.kind = .check := by
    intro hkind
    simp [isClicking, isClick, hkind] at h
  unfold isClicking at h
  cases c <;> simp [worked?, h, hcheck]

theorem worked_check (h : isChecking targets n = true) (looks : List (Deed τ ι)) (c : Capability) :
    worked? targets ⟨n, looks⟩ c = match c with
      | .input => none
      | .capture => some (images? ⟨n, looks⟩).isSome
      | .ocr => if (images? ⟨n, looks⟩).isSome then
          some (⟨n, looks⟩ : Visit τ ι).readings?.isSome else none := by
  have hclick : isClick n = false := by
    have hkind : n.kind = .check := by
      simp [isChecking] at h
      exact h.1
    simp [isClick, hkind]
  unfold isChecking at h
  cases c <;> simp [worked?, h, hclick]

/-- A step that uses no device leaves the counters as they are. -/
theorem serves_idle (hclick : isClicking n = false) (hcheck : isChecking targets n = false)
    (visits : List (Visit τ ι)) (h : Latest n l (· = []) visits) :
    ∃ v, visits = v :: l ∧ ∀ c, Serves targets counts counts v c := by
  obtain ⟨looks, rfl, -⟩ := h
  refine ⟨_, rfl, fun c => ?_⟩
  have hnone := worked_idle hclick hcheck looks c
  exact ⟨by simp [hnone], by rw [hnone]; rfl⟩

section Counting

variable (limit : r.failureLimit = .int m) (agrees : Agrees r.targets before l)
variable (below : Below m before)

include agrees below

theorem idle_meets {a : Act τ ι δ σ α} (hclick : isClicking n = false)
    (hcheck : isChecking r.targets n = false) (ha : Within Quiet a) :
    Meets (At before (Latest n l (· = []))) a (fun _ => Stepped r.targets m l)
      (fun f s => Fallen r.devices r.targets m l s f) :=
  (quiet_meets ha).mono (fun _ hs => hs)
    (fun _ _ hs => Stepped.of_serves agrees below hs (serves_idle hclick hcheck))
    fun _ _ hs => Fallen.of_serves agrees below hs (serves_idle hclick hcheck)

include limit

theorem click_meets (hn : isClick n = true) (b : Button) :
    Meets (At before (Latest n l (· = []))) (Step.click r n b) (fun _ => Stepped r.targets m l)
      (fun f s => Fallen r.devices r.targets m l s f) := by
  have hcheck : isChecking r.targets n = false := by
    have hkind : ¬n.kind = .check := by
      intro hkind
      simp [isClick, hkind] at hn
    simp [isChecking, hkind]
  refine .bind (M := fun x s => Step.clickTarget n = .ok x ∧ At before (Latest n l (· = [])) s)
    (.lift (fun x s hx hs => ⟨hx, hs⟩) ?_) fun x => .of_fact fun htarget => ?_
  · intro f s hf hs
    have hclick : isClicking n = false := by simp [isClicking, hf, Except.isOk, Except.toBool]
    exact .of_serves agrees below hs (serves_idle hclick hcheck)
  have hclick : isClicking n = true := by
    simp [isClicking, hn, htarget, Except.isOk, Except.toBool]
  have hsent : ∀ visits, Clicked n l true visits →
      ∃ v, visits = v :: l ∧ ∀ c, Serves r.targets before (before.set .input 0) v c := by
    rintro visits ⟨looks, rfl, hsent⟩
    refine ⟨_, rfl, fun c => ?_⟩
    have hworked : worked? r.targets ⟨n, looks⟩ c = _ := worked_click hclick looks c
    rw [hsent] at hworked
    unfold Serves
    rw [hworked, of_set]
    cases c <;> simp [counted]
  have hunsent : ∀ visits, Clicked n l false visits →
      Fails r.targets before before .input l visits := by
    rintro visits ⟨looks, rfl, hunsent⟩
    refine ⟨_, rfl, ?_, rfl, fun c hc => ?_⟩
    · rw [worked_click hclick, hunsent]
      rfl
    · unfold Serves
      rw [worked_click hclick, if_neg hc]
      exact ⟨by simp, rfl⟩
  refine .bind ((trying_meets limit (sendClick_meets r n x.1 x.2.1 b)).fault ?_) fun clicked => ?_
  · exact fun f s hs => hs.fallen agrees below hunsent
  · cases clicked with
    | none => exact .pure fun s hs => Missed.stepped agrees below hs hunsent
    | some _ =>
      have hpause : Meets (At (before.set .input 0) (Clicked n l true)) _ _ _ :=
        quiet_meets (pause_quiet r x.2.2)
      refine .bind (hpause.fault ?_) fun _ => .pure ?_
      · exact fun f s hs => .of_serves agrees below hs hsent
      · exact fun s hs => .of_serves agrees below hs hsent

theorem check_meets (hn : n.kind = .check) :
    Meets (At before (Latest n l (· = []))) (Step.check r n) (fun _ => Stepped r.targets m l)
      (fun f s => Fallen r.devices r.targets m l s f) := by
  have hclick : isClicking n = false := by simp [isClicking, isClick, hn]
  refine .bind (M := fun x s => Step.checkTarget r.targets n = .ok x ∧
    At before (Latest n l (· = [])) s) (.lift (fun x s hx hs => ⟨hx, hs⟩) ?_) fun x =>
      .of_fact fun htarget => ?_
  · intro f s hf hs
    have hcheck : isChecking r.targets n = false := by
      simp [isChecking, hf, Except.isOk, Except.toBool]
    exact .of_serves agrees below hs (serves_idle hclick hcheck)
  have hcheck : isChecking r.targets n = true := by
    simp [isChecking, hn, htarget, Except.isOk, Except.toBool]
  have hblind : ∀ visits, Latest n l (fun looks => images? ⟨n, looks⟩ = none) visits →
      Fails r.targets before before .capture l visits := by
    rintro visits ⟨looks, rfl, hnone⟩
    refine ⟨_, rfl, ?_, rfl, fun c hc => ?_⟩
    · rw [worked_check hcheck, hnone]
      rfl
    · unfold Serves
      rw [worked_check hcheck, hnone]
      cases c <;> first | exact ⟨by simp, rfl⟩ | exact absurd rfl hc
  obtain ⟨region, sought⟩ := x
  refine .bind ((trying_meets limit (capture_meets r n region)).fault ?_) fun images? => ?_
  · exact fun f s hs => hs.fallen agrees below hblind
  cases images? with
  | none => exact .pure fun s hs => Missed.stepped agrees below hs hblind
  | some images =>
    have hread : ∀ visits, Latest n l (Tried n true) visits → ∃ v, visits = v :: l ∧
        ∀ c, Serves r.targets before ((before.set .capture 0).set .ocr 0) v c := by
      rintro visits ⟨looks, rfl, himages, hreadings⟩
      refine ⟨_, rfl, fun c => ?_⟩
      unfold Serves
      rw [worked_check hcheck, himages, hreadings, of_set, of_set]
      cases c <;> simp [counted]
    have hunread : ∀ visits, Latest n l (Tried n false) visits →
        Fails r.targets before (before.set .capture 0) .ocr l visits := by
      rintro visits ⟨looks, rfl, himages, hreadings⟩
      refine ⟨_, rfl, ?_, ?_, fun c hc => ?_⟩
      · rw [worked_check hcheck, himages, hreadings]
        rfl
      · rw [of_set]
        rfl
      · unfold Serves
        rw [worked_check hcheck, himages, hreadings, of_set]
        cases c <;> first | exact ⟨by simp, rfl⟩ | exact absurd rfl hc
    refine .bind ((trying_meets limit (recognize_meets r n images)).fault ?_) fun sets? => ?_
    · exact fun f s hs => hs.fallen agrees below hunread
    cases sets? with
    | none => exact .pure fun s hs => Missed.stepped agrees below hs hunread
    | some sets =>
      refine (quiet_meets (examine_quiet r sought sets)).mono (fun s hs => hs) ?_ ?_
      · exact fun _ s hs => .of_serves agrees below hs hread
      · exact fun f s hs => .of_serves agrees below hs hread

end Counting

/-- A step does not look at what happened before it, and adds one to the steps. -/
theorem execute_meets (limit : r.failureLimit = .int m) (agrees : Agrees r.targets before l)
    (below : Below m before) :
    Meets (At before (Latest n l (· = []))) (Step.execute r n) (fun _ => Stepped r.targets m l)
      (fun f s => Fallen r.devices r.targets m l s f) := by
  unfold Step.execute
  split
  · next hk => exact .bind (tell_meets _ _) fun _ =>
      click_meets limit agrees below (by simp [isClick, hk]) _
  · next hk => exact .bind (tell_meets _ _) fun _ =>
      click_meets limit agrees below (by simp [isClick, hk]) _
  · next hk => exact .bind (tell_meets _ _) fun _ => check_meets limit agrees below hk
  · next hk =>
    have hclick : isClicking n = false := by simp [isClicking, isClick, hk]
    have hcheck : isChecking r.targets n = false := by simp [isChecking, hk]
    refine .bind (tell_meets _ _) fun _ => idle_meets agrees below hclick hcheck ?_
    refine .bind (.lift _ _) fun _ => .bind (tell_quiet r _ _) fun _ => ?_
    exact .bind (pause_quiet r _) fun _ => .pure _
  · next hleft hright hcheck hdelay =>
    have hleft : ¬n.kind = .leftClick := hleft
    have hright : ¬n.kind = .rightClick := hright
    have hcheck : ¬n.kind = .check := hcheck
    have hclick : isClicking n = false := by simp [isClicking, isClick, hleft, hright]
    have hcheck : isChecking r.targets n = false := by simp [isChecking, hcheck]
    exact idle_meets agrees below hclick hcheck (.bind (tell_quiet r _ _) fun _ => .pure _)

theorem Stepped.of_quiet (h : Quiet s t) (hs : Stepped targets m l s) : Stepped targets m l t := by
  obtain ⟨hlatest, hagrees, hbelow⟩ := hs
  refine ⟨?_, ?_, ?_⟩
  · rw [h.steps]
    exact hlatest
  · rw [h.steps, h.failures]
    exact hagrees
  · rw [h.failures]
    exact hbelow

theorem Fallen.of_quiet {f : Fault} (h : Quiet s t) (hs : Fallen d targets m l s f) :
    Fallen d targets m l t f := by
  cases hs with
  | aside _ v latest agrees below serves =>
    refine .aside f v (h.steps.trans latest) ?_ ?_ serves
    · rw [h.failures]
      exact agrees
    · rw [h.failures]
      exact below
  | tooMany v c text latest agrees fails positive reached =>
    rw [← h.failures] at agrees reached ⊢
    exact .tooMany v c text (h.steps.trans latest) agrees fails positive reached
  | unavailable v c text latest special fails agrees behind below =>
    rw [← h.failures] at agrees behind below
    exact .unavailable v c text (h.steps.trans latest) special fails agrees behind below

theorem advance_meets (limit : r.failureLimit = .int m) (agrees : Agrees r.targets before l)
    (below : Below m before) (g : Graph) (n : Node) :
    Meets (At before (· = l)) (Traversal.advance r g n) (fun _ => Stepped r.targets m l)
      (fun f s => Fallen r.devices r.targets m l s f) := by
  have hexecute := execute_meets (n := n) limit agrees below
  refine .bind (M := fun _ => At before (Latest n l (· = []))) ?_ fun _ => ?_
  · rintro s ⟨hcounts, rfl⟩
    exact ⟨hcounts, [], rfl, rfl⟩
  split
  · next hk =>
    have hclick : isClicking n = false := by simp [isClicking, isClick, hk]
    have hcheck : isChecking r.targets n = false := by simp [isChecking, hk]
    exact .pure fun s hs => .of_serves agrees below hs (serves_idle hclick hcheck)
  · refine .bind hexecute fun o => .bind (M := fun _ => Stepped r.targets m l) ?_ fun _ => ?_
    · exact fun s hs => Stepped.of_quiet (s := s) ⟨rfl, rfl⟩ hs
    · have htell : ∀ text, Meets (Stepped r.targets m l) (tell r .warning text)
          (fun _ => Stepped r.targets m l) (fun f s => Fallen r.devices r.targets m l s f) := by
        intro text s hs
        have ht := Stepped.of_quiet (tell_quiet r .warning text s) hs
        have hok := tell_ok r .warning text s
        generalize tell r .warning text s = x at ht hok ⊢
        obtain ⟨_, t⟩ := x
        cases hok
        exact ht
      unfold Traversal.afterCheck
      cases o.hit with
      | none => exact .pure fun _ hs => hs
      | some hit =>
        cases g.nextEdge? n.id (some Graph.onFound) with
        | none => exact .bind (htell _) fun _ => .pure fun _ hs => hs
        | some e => exact .ite (fun _ => .pure fun _ hs => hs) fun _ => .pure fun _ hs => hs
  · exact .bind (.bind hexecute fun _ => .pure fun _ hs => hs) fun _ => .pure fun _ hs => hs

end Streak

end Reroll
