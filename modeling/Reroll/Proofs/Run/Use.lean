import Reroll.Proofs.Run.Course
import Reroll.Proofs.Run.Sighting

/-!
# Uses of devices

A journal tells the steps of a run, and the uses of devices in each: a device worked in a step, or
failed in it, or was not used. Trying a device raises its counter or sets it back, and ends the run
when the device is unavailable or the counter is too high (`trying_meets`); all else that a run does
leaves the counters and the steps as they are (`Quiet`).
-/

namespace Reroll

variable {τ ι δ σ α : Type}

open Scene Act

/-- Clicks and looks: the uses of devices whose failures are counted. -/
def Deed.isUse : Deed τ ι → Bool
  | .clicked _ _ _ _ => true
  | d => d.isLook

def Deed.isSent : Deed τ ι → Bool
  | .clicked _ _ _ worked => worked
  | _ => false

namespace Streak

/-! ### Steps and what the devices did in them -/

/-- The steps that a journal tells about, the latest first, with their uses of devices in order. -/
def steps : List (Note τ ι) → List (Visit τ ι)
  | [] => []
  | e :: earlier =>
    match e.deed with
    | .dispatched n => { node := n } :: steps earlier
    | d => if d.isUse then Visit.addLook d (steps earlier) else steps earlier

def isClick (n : Node) : Bool := n.kind = .leftClick || n.kind = .rightClick

/-- The images of a step, if the screen was grabbed and the image prepared. -/
def images? (v : Visit τ ι) : Option (List ι) :=
  match v.looks with
  | .grabbed _ (.ok _) :: .prepared _ (.ok images) :: _ => some images
  | _ => none

/-- Whether a capability worked in a step; none if the step does not come to use it. -/
def worked? (targets : List Spec) (v : Visit τ ι) : Capability → Option Bool
  | .input =>
    if isClick v.node && (Step.clickTarget v.node).isOk then some (v.looks.any Deed.isSent)
    else none
  | .capture =>
    if v.node.kind = .check && (Step.checkTarget targets v.node).isOk then some (images? v).isSome
    else none
  | .ocr =>
    if v.node.kind = .check && (Step.checkTarget targets v.node).isOk && (images? v).isSome then
      some v.readings?.isSome
    else none

/-- The steps in which a capability failed since the last one in which it worked. -/
def streak (targets : List Spec) (c : Capability) (l : List (Visit τ ι)) : Nat :=
  ((l.filterMap fun v => worked? targets v c).takeWhile fun worked => !worked).length

/-- What a step makes of a counter. -/
def counted : Option Bool → Nat → Nat
  | none, count => count
  | some true, _ => 0
  | some false, count => count + 1

theorem streak_cons (targets : List Spec) (c : Capability) (v : Visit τ ι)
    (l : List (Visit τ ι)) :
    streak targets c (v :: l) = counted (worked? targets v c) (streak targets c l) := by
  cases h : worked? targets v c with
  | none => simp [streak, h, counted]
  | some worked => cases worked <;> simp [streak, h, counted]

/-- A device is ordinary if it can always work: none of its answers is that it is unavailable. -/
def Ordinary (d : Devices τ ι δ) : Capability → Prop
  | .input => (∀ x y b s text, (d.click x y b s).1.result ≠ .error (.unavailable text)) ∧
    ∀ down s text, (d.key down s).1.result ≠ .error (.unavailable text)
  | .capture => (∀ region s text, (d.grab region s).1.result ≠ .error (.unavailable text)) ∧
    ∀ image s text, (d.prepare image s).1.result ≠ .error (.unavailable text)
  | .ocr => ∀ image s text, (d.recognize image s).1.result ≠ .error (.unavailable text)

end Streak

/-! ### Acts that count no failure -/

namespace Act

theorem operate_failures (op : δ → Answer α × δ) (deed : Except DeviceFault α → Deed τ ι) :
    Within (Same fun s => s.failures) (operate op deed : Act τ ι δ σ α) := by
  refine .bind .get fun s => .bind (.modify fun _ => rfl) fun _ => ?_
  refine .bind (.modify fun _ => rfl) fun _ => .bind (.modify fun _ => rfl) fun _ => ?_
  split
  · exact .pure _
  · exact .throw _

theorem tell_failures (r : Rig τ ι δ σ) (level : EventLevel) (message : String) :
    Within (Same fun s => s.failures) (tell r level message) := fun _ => rfl

theorem stopAsked_failures :
    Within (Same fun s => s.failures) (stopAsked : Act τ ι δ σ Bool) := by
  intro s
  rw [stopAsked_apply]
  cases s.state.poll s.files with
  | error e => rfl
  | ok x => rfl

end Act

theorem Delay.pause_failures (r : Rig τ ι δ σ) (length : Value) :
    Within (Same fun s => s.failures) (pause r length) :=
  pause_within stopAsked_failures (fun _ _ => rfl) length

namespace Step

theorem examine_failures (r : Rig τ ι δ σ) (sought : List Spec) (sets : List (List Reading)) :
    Within (Same fun s => s.failures) (examine r sought sets) := by
  refine .bind (.lift _ _) fun lines => .bind (tell_failures r _ _) fun _ => ?_
  exact .bind (.lift _ _) fun _ => .bind (.lift _ _) fun _ => .pure _

end Step

namespace Streak

/-! ### What acts do to the counters and the steps -/

/-- The counters are such, and so are the steps so far. -/
def At (counts : Failures) (P : List (Visit τ ι) → Prop) (s : Scene τ ι δ σ) : Prop :=
  s.failures = counts ∧ P (steps s.journal)

/-- Neither the counters nor the steps change. -/
structure Quiet (s t : Scene τ ι δ σ) : Prop where
  failures : t.failures = s.failures
  steps : steps t.journal = steps s.journal

instance : IsPreorder (Scene τ ι δ σ) Quiet where
  refl _ := ⟨rfl, rfl⟩
  trans _ _ _ h k := ⟨k.failures.trans h.failures, k.steps.trans h.steps⟩

/-- Deeds that neither begin a step nor use a device that counts. -/
def isAside : Deed τ ι → Bool
  | .dispatched _ => false
  | d => !d.isUse

theorem steps_append {new journal : List (Note τ ι)} (h : ∀ e ∈ new, isAside e.deed = true) :
    steps (new ++ journal) = steps journal := by
  induction new with
  | nil => rfl
  | cons e new ih =>
    have hd := h e (List.mem_cons_self ..)
    have ih := ih fun d hd => h d (List.mem_cons_of_mem _ hd)
    obtain ⟨d, state⟩ := e
    cases d <;> first | exact ih | cases hd

theorem isAside_of_idle {d : Deed τ ι} (h : d.isIdle = true) : isAside d = true := by
  cases d <;> first | rfl | cases h

variable {r : Rig τ ι δ σ} {s t : Scene τ ι δ σ} {n : Node} {counts : Failures} {m : Int}
variable {P Q : List (Visit τ ι) → Prop} {c : Capability}

theorem Quiet.of_grows (h : Grows (fun e => isAside e.deed = true) s t)
    (hf : t.failures = s.failures) : Quiet s t := by
  obtain ⟨new, hj, hnew⟩ := h.journal
  exact ⟨hf, by rw [hj, steps_append hnew]⟩

theorem Quiet.of_idle (h : Steady (·.isIdle = true) s t) (hf : t.failures = s.failures) :
    Quiet s t :=
  .of_grows (h.grows.mono fun _ he => isAside_of_idle he.1) hf

theorem quiet_within {a : Act τ ι δ σ α} (ha : Within (Grows fun e => isAside e.deed = true) a)
    (hf : Within (Same fun s => s.failures) a) : Within Quiet a :=
  fun s => .of_grows (ha s) (hf s)

theorem idle_within {a : Act τ ι δ σ α} (ha : Within (Steady (·.isIdle = true)) a)
    (hf : Within (Same fun s => s.failures) a) : Within Quiet a :=
  fun s => .of_idle (ha s) (hf s)

theorem At.of_quiet (h : Quiet s t) (hs : At counts P s) : At counts P t := by
  refine ⟨h.failures.trans hs.1, ?_⟩
  rw [h.steps]
  exact hs.2

theorem quiet_meets {a : Act τ ι δ σ α} (ha : Within Quiet a) :
    Meets (At counts P) a (fun _ => At counts P) (fun _ => At counts P) :=
  .of_within ha fun _ _ => At.of_quiet

theorem tell_quiet (r : Rig τ ι δ σ) (level : EventLevel) (message : String) :
    Within Quiet (tell r level message) :=
  idle_within (tell_steady (fun _ => id) r level message) (tell_failures r level message)

/-- Telling never ends with a fault. -/
theorem tell_meets (level : EventLevel) (message : String)
    {E : Fault → Scene τ ι δ σ → Prop} :
    Meets (At counts P) (tell r level message) (fun _ => At counts P) E := by
  intro s hs
  have ht := At.of_quiet (tell_quiet r level message s) hs
  have hok := tell_ok r level message s
  generalize tell r level message s = x at ht hok ⊢
  obtain ⟨_, t⟩ := x
  cases hok
  exact ht

theorem pause_quiet (r : Rig τ ι δ σ) (length : Value) : Within Quiet (Delay.pause r length) :=
  idle_within (Delay.pause_steady (fun _ => id) r length) (Delay.pause_failures r length)

theorem stopAsked_quiet : Within Quiet (stopAsked : Act τ ι δ σ Bool) :=
  idle_within (stopAsked_steady (p := (·.isIdle = true))) stopAsked_failures

theorem operate_quiet {op : δ → Answer α × δ} {deed : Except DeviceFault α → Deed τ ι}
    (aside : ∀ x, isAside (deed x) = true) :
    Within Quiet (operate op deed : Act τ ι δ σ α) :=
  quiet_within (operate_steady (p := fun d => isAside d = true) aside).of_steady
    (operate_failures op deed)

theorem setKey_quiet (r : Rig τ ι δ σ) (held : Bool) : Within Quiet (Step.setKey r held) := by
  refine .bind .get fun s => .ite (.pure _) (.bind (operate_quiet fun _ => rfl) fun _ => ?_)
  refine .bind (.modify fun _ => ⟨rfl, rfl⟩) fun _ => .bind (tell_quiet r _ _) fun _ => ?_
  exact pause_quiet r _

/-- No release of the key, in a step or after a traversal, touches a counter. -/
theorem releaseKey_quiet (r : Rig τ ι δ σ) : Within Quiet (Step.releaseKey r) := by
  refine .bind .get fun s => .ite ?_ (.pure _)
  refine .bind (.outcome ?_) fun _ => .modify fun _ => ⟨rfl, rfl⟩
  exact .bind (operate_quiet fun _ => rfl) fun _ => tell_quiet r _ _

theorem examine_quiet (r : Rig τ ι δ σ) (sought : List Spec) (sets : List (List Reading)) :
    Within Quiet (Step.examine r sought sets) :=
  idle_within (Step.examine_steady (fun _ => id) r sought sets)
    (Step.examine_failures r sought sets)

/-! ### Using a device -/

/-- A use of a device ended with a fault. Only a device that is not ordinary is unavailable. -/
def Failing (d : Devices τ ι δ) (c : Capability) (counts : Failures)
    (B : List (Visit τ ι) → Prop) (f : Fault) (s : Scene τ ι δ σ) : Prop :=
  At counts B s ∧ ∀ text, f = .unavailable text → ¬Ordinary d c

theorem steps_use {d : Deed τ ι} (h : d.isUse = true) (state : RunState)
    (journal : List (Note τ ι)) :
    steps (⟨d, state⟩ :: journal) = Visit.addLook d (steps journal) := by
  cases d <;> first | rfl | cases h

theorem operate_able {op : δ → Answer α × δ} {deed : Except DeviceFault α → Deed τ ι}
    (able : Ordinary r.devices c → ∀ x text, (op x).1.result ≠ .error (.unavailable text)) :
    Meets (fun _ => True) (operate op deed : Act τ ι δ σ α) (fun _ _ => True)
      (fun f _ => ∀ text, f = .unavailable text → ¬Ordinary r.devices c) := by
  intro s _
  obtain ⟨t, hop, -⟩ := operate_noted op deed s
  rw [hop]
  cases hresult : (op s.devices).1.result with
  | ok v => trivial
  | error f =>
    intro text hf hordinary
    cases f with
    | unavailable text => exact able hordinary s.devices text hresult
    | failed kind text => cases hf

theorem use_meets {op : δ → Answer α × δ} {deed : Except DeviceFault α → Deed τ ι}
    {M : α → List (Visit τ ι) → Prop} {B : List (Visit τ ι) → Prop}
    (used : ∀ x, (deed x).isUse = true)
    (able : Ordinary r.devices c → ∀ x text, (op x).1.result ≠ .error (.unavailable text))
    (works : ∀ v l, P l → M v (Visit.addLook (deed (.ok v)) l))
    (fails : ∀ f l, P l → B (Visit.addLook (deed (.error f)) l)) :
    Meets (At counts P) (operate op deed : Act τ ι δ σ α) (fun v => At counts (M v))
      (Failing r.devices c counts B) := by
  have hnoted : Meets (fun s => s.failures = counts ∧ At counts P s)
      (operate op deed : Act τ ι δ σ α) (fun v s => s.failures = counts ∧ M v (steps s.journal))
      (fun _ s => s.failures = counts ∧ B (steps s.journal)) := by
    refine (Meets.of_within (P := fun s => s.failures = counts) (operate_failures op deed)
      fun s t hst hs => hst.trans hs).and (.operate ?_ ?_)
    · intro v s t _ ht hs
      rw [ht.journal, steps_use (used _)]
      exact works v _ hs.2
    · intro f s t ht hs
      rw [ht.journal, steps_use (used _)]
      exact fails f _ hs.2
  exact (hnoted.and (operate_able able)).mono (fun s hs => ⟨⟨hs.1, hs⟩, trivial⟩)
    (fun v s hs => hs.1) fun f s hs => hs

/-- An act may end with a fault, but not for want of a device. -/
def Available (a : Act τ ι δ σ α) : Prop :=
  Meets (fun _ => True) a (fun _ _ => True) (fun f _ => ∀ text, f ≠ .unavailable text)

theorem Available.bind {β : Type} {a : Act τ ι δ σ α} {f : α → Act τ ι δ σ β}
    (ha : Available a) (hf : ∀ v, Available (f v)) : Available (a >>= f) :=
  Meets.bind ha hf

theorem Available.pure (v : α) : Available (pure v : Act τ ι δ σ α) := fun _ _ => trivial

theorem Available.ite {p : Prop} [Decidable p] {a b : Act τ ι δ σ α} (ha : Available a)
    (hb : Available b) : Available (if p then a else b) := Meets.ite (fun _ => ha) fun _ => hb

theorem Available.lift {ε : Type} {f : ε → Fault} (x : Except ε α)
    (hf : ∀ e text, f e ≠ .unavailable text) : Available (Act.lift f x : Act τ ι δ σ α) :=
  Meets.lift (fun _ _ _ _ => trivial) fun e _ _ _ => hf e

theorem stopAsked_available : Available (stopAsked : Act τ ι δ σ Bool) := by
  intro s _
  rw [stopAsked_apply]
  cases s.state.poll s.files with
  | error e => exact fun text h => by cases h
  | ok x => trivial

theorem pause_available (r : Rig τ ι δ σ) (length : Value) : Available (Delay.pause r length) := by
  have hoperand : ∀ (x : Except OperandError Value),
      Available (Act.lift .operand x : Act τ ι δ σ Value) :=
    fun x => .lift x fun e text h => by cases h
  have hreckoned : ∀ v, Available (Delay.reckoned r v) := by
    intro v
    unfold Delay.reckoned
    split
    · exact .lift _ fun e text h => by cases h
    · exact fun _ _ text h => by cases h
  have hnow : Available (now r) := fun _ _ => trivial
  refine Available.bind ?_ fun _ => .pure _
  unfold Delay.wait
  refine Available.bind (.lift _ fun e text h => by cases h) fun _ => .ite (.pure _) ?_
  refine (hoperand _).bind fun _ => (hreckoned _).bind fun _ => (hreckoned _).bind fun _ => ?_
  refine (hreckoned _).bind fun _ => hnow.bind fun _ => ?_
  exact Delay.waitFrom_meets stopAsked_available (fun _ _ _ => trivial) _ _ _ _ _ _

/-! ### Counting the failures of a device -/

def isTooMany (m : Int) (count : Nat) : Prop := 0 < m ∧ m ≤ count

instance (m : Int) (count : Nat) : Decidable (isTooMany m count) :=
  inferInstanceAs (Decidable (0 < m ∧ m ≤ count))

def complaint (c : Capability) (count : Nat) (text : String) : String :=
  c.name ++ " failed " ++ toString count ++ " times in a row: " ++ text

theorem isTooMany_int (m : Int) (count : Nat) :
    Step.isTooMany (.int m) count = .ok (decide (isTooMany m count)) := by
  have habove : (Value.int m).related .above (.int 0) = .ok (decide (0 < m)) := by
    rw [← Number.lt_int]
    rfl
  unfold Step.isTooMany
  rw [habove, Run.related_atLeast]
  by_cases hm : 0 < m
  · simp [isTooMany, hm, bind, Except.bind]
  · simp [isTooMany, hm, bind, Except.bind, pure, Except.pure]

/-- What holds when a device was tried in vain and the run goes on. -/
def Missed (m : Int) (c : Capability) (counts : Failures) (B : List (Visit τ ι) → Prop)
    (s : Scene τ ι δ σ) : Prop :=
  At (counts.set c (counts.of c + 1)) B s ∧ ¬isTooMany m (counts.of c + 1)

/-- How trying a device ends a run: the device is unavailable, or it has failed too often. -/
inductive Tripped (d : Devices τ ι δ) (m : Int) (c : Capability) (counts : Failures)
    (B : List (Visit τ ι) → Prop) (s : Scene τ ι δ σ) : Fault → Prop
  | unavailable (text : String) (special : ¬Ordinary d c) (here : At counts B s) :
    Tripped d m c counts B s (.unavailable text)
  | tooMany (text : String) (many : isTooMany m (counts.of c + 1))
    (here : At (counts.set c (counts.of c + 1)) B s) :
    Tripped d m c counts B s (.unavailable (complaint c (counts.of c + 1) text))

theorem failed_meets (limit : r.failureLimit = .int m) (text : String) :
    Meets (At counts P) (Step.failed r c n text) (fun _ => Missed m c counts P)
      (fun f s => Tripped r.devices m c counts P s f) := by
  refine .bind (M := fun v s => v = s ∧ At counts P s) (fun s hs => ⟨rfl, hs⟩) fun v => ?_
  refine .bind (M := fun _ s => v.failures = counts ∧ At (counts.set c (counts.of c + 1)) P s)
    (.modify ?_) fun _ => .of_fact fun hv => ?_
  · rintro s ⟨rfl, hs⟩
    refine ⟨hs.1, ?_, hs.2⟩
    rw [← hs.1]
  subst hv
  refine .bind (tell_meets _ _) fun _ => ?_
  refine .bind (M := fun many s => many = decide (isTooMany m (v.failures.of c + 1)) ∧
    At (v.failures.set c (v.failures.of c + 1)) P s) (.lift_ok ?_ fun s hs => ⟨rfl, hs⟩) fun many =>
      .of_fact fun hmany => ?_
  · rw [limit]
    exact isTooMany_int m _
  · subst hmany
    refine .ite (fun h => .throw fun s hs => ?_) fun h => .pure fun s hs => ⟨hs, ?_⟩
    · exact .tooMany text (of_decide_eq_true h) hs
    · exact fun hmany => h (decide_eq_true hmany)

theorem trying_meets (limit : r.failureLimit = .int m) {a : Act τ ι δ σ α}
    {M : α → List (Visit τ ι) → Prop} {B : List (Visit τ ι) → Prop}
    (ha : Meets (At counts P) a (fun v => At counts (M v)) (Failing r.devices c counts B)) :
    Meets (At counts P) (Step.trying r c n a)
      (fun v? s => match v? with
        | some v => At (counts.set c 0) (M v) s
        | none => Missed m c counts B s)
      (fun f s => Tripped r.devices m c counts B s f) := by
  refine .bind (M := fun x s =>
    Ends (fun v => At counts (M v)) (Failing r.devices c counts B) (x, s)) (.outcome ha) fun x => ?_
  split
  · next v =>
    refine .bind (M := fun _ => At (counts.set c 0) (M v)) (.modify ?_) fun _ => ?_
    · rintro s ⟨hcounts, hM⟩
      refine ⟨?_, hM⟩
      rw [← hcounts]
    · exact .pure fun s hs => hs
  · next text =>
    refine .throw fun s hs => ?_
    exact .unavailable text (hs.2 text rfl) hs.1
  · refine .bind (.mono (failed_meets limit _) (fun s hs => hs.1) (fun _ _ hs => hs)
      fun _ _ hs => hs) fun _ => ?_
    exact .pure fun s hs => hs

/-! ### One step -/

/-- The latest step is one of the node, with such uses of devices. -/
def Latest (n : Node) (l : List (Visit τ ι)) (φ : List (Deed τ ι) → Prop)
    (visits : List (Visit τ ι)) : Prop :=
  ∃ looks, visits = ⟨n, looks⟩ :: l ∧ φ looks

variable {l : List (Visit τ ι)}

/-- The latest step is one of the node, and the click of the node was sent in it or not. -/
def Clicked (n : Node) (l : List (Visit τ ι)) (sent : Bool) : List (Visit τ ι) → Prop :=
  Latest n l fun looks => looks.any Deed.isSent = sent

theorem sendClick_meets (r : Rig τ ι δ σ) (n : Node) (x : Point) (shift : Bool) (b : Button) :
    Meets (At counts (Latest n l (· = []))) (Step.sendClick r x shift b)
      (fun _ => At counts (Clicked n l true))
      (Failing r.devices .input counts (Clicked n l false)) := by
  have hkey : Meets (At counts (Latest n l (· = []))) (Step.setKey r shift)
      (fun _ => At counts (Latest n l (· = [])))
      (Failing r.devices .input counts (Clicked n l false)) := by
    have hable : Meets (fun _ => True) (Step.setKey r shift) (fun _ _ => True)
        (fun f _ => ∀ text, f = .unavailable text → ¬Ordinary r.devices .input) := by
      refine .bind (M := fun _ _ => True) (fun _ _ => trivial) fun s => ?_
      refine .ite (fun _ => .pure fun _ _ => trivial) fun _ => ?_
      refine .bind (operate_able fun h => h.2 shift) fun _ => ?_
      refine .bind (M := fun _ _ => True) (fun _ _ => trivial) fun _ => ?_
      refine .bind (M := fun _ _ => True) (.tell fun _ _ _ _ => trivial) fun _ => ?_
      exact (pause_available r _).fault fun f _ hf text h => absurd h (hf text)
    refine ((quiet_meets (setKey_quiet r shift)).and hable).mono (fun _ hs => ⟨hs, trivial⟩)
      (fun _ _ hs => hs.1) fun f s hs => ⟨⟨hs.1.1, ?_⟩, hs.2⟩
    obtain ⟨looks, hvisits, rfl⟩ := hs.1.2
    exact ⟨[], hvisits, rfl⟩
  have hclick : Meets (At counts (Latest n l (· = [])))
      (operate (r.devices.click x.x x.y b) fun a => .clicked x.x x.y b a.isOk : Act τ ι δ σ Unit)
      (fun _ => At counts (Clicked n l true))
      (Failing r.devices .input counts (Clicked n l false)) := by
    refine use_meets (fun _ => rfl) (fun h => h.1 x.x x.y b) ?_ ?_
    · rintro v visits ⟨looks, rfl, rfl⟩
      exact ⟨_, rfl, rfl⟩
    · rintro f visits ⟨looks, rfl, rfl⟩
      exact ⟨_, rfl, rfl⟩
  exact .ite (fun _ => .bind hkey fun _ => hclick) fun _ => hclick

/-- The screen was grabbed, and the image prepared, in a step. -/
def Captured (images : List ι) (looks : List (Deed τ ι)) : Prop :=
  ∃ region image, looks = [.grabbed region (.ok image), .prepared image (.ok images)]

theorem capture_meets (r : Rig τ ι δ σ) (n : Node) (region : Region) :
    Meets (At counts (Latest n l (· = []))) (Step.capture r region)
      (fun images => At counts (Latest n l (Captured images)))
      (Failing r.devices .capture counts (Latest n l fun looks => images? ⟨n, looks⟩ = none)) := by
  refine .bind (M := fun image => At counts (Latest n l (· = [.grabbed region (.ok image)])))
    (use_meets (fun _ => rfl) (fun h => h.1 region) ?_ ?_) fun image =>
      use_meets (fun _ => rfl) (fun h => h.2 image) ?_ ?_
  · rintro image visits ⟨looks, rfl, rfl⟩
    exact ⟨_, rfl, rfl⟩
  · rintro f visits ⟨looks, rfl, rfl⟩
    exact ⟨_, rfl, rfl⟩
  · rintro images visits ⟨looks, rfl, rfl⟩
    exact ⟨_, rfl, region, image, rfl⟩
  · rintro f visits ⟨looks, rfl, rfl⟩
    exact ⟨_, rfl, rfl⟩

/-- The images are recognized in order until one of them is not. -/
theorem recognizeAll_meets (r : Rig τ ι δ σ) (n : Node) (images : List ι)
    (before : List (Deed τ ι)) :
    Meets (At counts (Latest n l (· = before))) (Step.recognizeAll r images)
      (fun sets => At counts (Latest n l fun looks => ∃ more, looks = before ++ more ∧
        Visit.recognizedAll images more = some sets))
      (Failing r.devices .ocr counts (Latest n l fun looks => ∃ more, looks = before ++ more ∧
        Visit.recognizedAll images more = none)) := by
  induction images generalizing before with
  | nil =>
    refine .pure fun s hs => ⟨hs.1, ?_⟩
    obtain ⟨looks, hvisits, rfl⟩ := hs.2
    exact ⟨looks, hvisits, [], (List.append_nil looks).symm, rfl⟩
  | cons image rest ih =>
    refine .bind (M := fun readings =>
      At counts (Latest n l (· = before ++ [.recognized image (.ok readings)])))
      (use_meets (fun _ => rfl) (fun h => h image) ?_ ?_) fun readings => ?_
    · rintro readings visits ⟨looks, rfl, rfl⟩
      exact ⟨_, rfl, rfl⟩
    · rintro f visits ⟨looks, rfl, rfl⟩
      exact ⟨_, rfl, [.recognized image (.error f)], rfl, rfl⟩
    · refine .bind ((ih (before ++ [.recognized image (.ok readings)])).fault ?_) fun sets =>
        .pure fun s hs => ⟨hs.1, ?_⟩
      · rintro f s ⟨⟨hcounts, looks, hvisits, more, rfl, hnone⟩, hable⟩
        refine ⟨⟨hcounts, _, hvisits, .recognized image (.ok readings) :: more, ?_, ?_⟩, hable⟩
        · rw [List.append_assoc, List.singleton_append]
        · simp [Visit.recognizedAll, hnone]
      · obtain ⟨looks, hvisits, more, rfl, hsome⟩ := hs.2
        refine ⟨_, hvisits, .recognized image (.ok readings) :: more, ?_, ?_⟩
        · rw [List.append_assoc, List.singleton_append]
        · simp [Visit.recognizedAll, hsome]

/-- A step has images, and either all of them were recognized or not. -/
def Tried (n : Node) (read : Bool) (looks : List (Deed τ ι)) : Prop :=
  (images? ⟨n, looks⟩).isSome = true ∧ (⟨n, looks⟩ : Visit τ ι).readings?.isSome = read

theorem recognize_meets (r : Rig τ ι δ σ) (n : Node) (images : List ι) :
    Meets (At counts (Latest n l (Captured images))) (Step.recognizeAll r images)
      (fun _ => At counts (Latest n l (Tried n true)))
      (Failing r.devices .ocr counts (Latest n l (Tried n false))) := by
  rintro s ⟨hcounts, looks, hvisits, region, image, hlooks⟩
  refine (recognizeAll_meets r n images looks).mono (fun _ hs => hs) ?_ ?_ s
    ⟨hcounts, looks, hvisits, rfl⟩
  · rintro sets t ⟨hcounts, _, hvisits, more, rfl, hsome⟩
    refine ⟨hcounts, _, hvisits, ?_⟩
    simp [Tried, images?, Visit.readings?, hlooks, hsome]
  · rintro f t ⟨⟨hcounts, _, hvisits, more, rfl, hnone⟩, hable⟩
    refine ⟨⟨hcounts, _, hvisits, ?_⟩, hable⟩
    simp [Tried, images?, Visit.readings?, hlooks, hnone]

end Streak

end Reroll
