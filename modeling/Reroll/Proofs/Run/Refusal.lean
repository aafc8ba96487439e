import Reroll.Proofs.Run.Use

/-!
# Calls that fail

A call that a device refuses ends the step it belongs to: the step has found nothing, unless the
device cannot work or has failed too often in a row (`trying_accounted`). What is asked of a step as
a whole is that all its ways to end are accounted for (`Accounted`).
-/

namespace Reroll

variable {τ ι δ σ α : Type}

open Scene Act

/-! ### Numbers that are too large -/

/-- A length of time that can be reckoned with. -/
def Reckoning.Reckons (k : Reckoning τ) (v : Value) : Prop :=
  ∃ n x, v.number? = some n ∧ k.ofMillis n = .ok x

/-- The length of time in the data of a node. -/
def Node.length (n : Node) : Value :=
  match n.data with
  | .click _ _ post => post
  | .delay duration => duration
  | _ => .int 0

/-- The bounds of a target can be written. -/
def Spec.IsWritable (s : Spec) : Prop := ∀ n, s.low = some n ∨ s.high = some n → n.isWritable = true

/-- Some number of a node, or of its targets, is too large: the length of time to be reckoned with,
or any other to be written. -/
inductive Oversized (r : Rig τ ι δ σ) (n : Node) : Prop
  | reckoned (lasts : n.length.related .atMost (.int 0) = .ok false)
    (h : ¬r.devices.time.Reckons n.length)
  | written (h : n.length.isWritable = false)
  | point (p : Point) (shift : Bool) (post : Value) (data : n.data = .click (some p) shift post)
    (h : p.isWritable = false)
  | region (region : Region) (own : List Spec) (data : n.data = .check (some region) own)
    (h : region.isWritable = false)
  | bound (spec : Spec) (target : spec ∈ Visit.sought r.targets n) (h : ¬spec.IsWritable)

/-! ### Calls that fail -/

namespace Deed

/-- Using a device. -/
def asksDevice (d : Deed τ ι) : Bool := d.isLook || d.isTouch

/-- The capability that failed in a deed. -/
def failed? : Deed τ ι → Option Capability
  | .clicked _ _ _ false | .keyed _ false => some .input
  | .grabbed _ (.error _) | .prepared _ (.error _) => some .capture
  | .recognized _ (.error _) => some .ocr
  | _ => none

theorem failed?_of_not_asks {d : Deed τ ι} (h : d.asksDevice = false) : d.failed? = none := by
  cases d <;> first | rfl | cases h

theorem asksDevice_of_idle {d : Deed τ ι} (h : d.isIdle = true) : d.asksDevice = false := by
  cases d <;> first | rfl | cases h

end Deed

/-- A call that a device refuses with a fault is noted as a deed, and leaves the devices in some
state. -/
inductive Devices.Refuses (v : Devices τ ι δ) (f : DeviceFault) : Deed τ ι → δ → Prop
  | click (x y : Value) (b : Button) (d : δ) (h : (v.click x y b d).1.result = .error f) :
    Refuses v f (.clicked x y b false) (v.click x y b d).2
  | key (down : Bool) (d : δ) (h : (v.key down d).1.result = .error f) :
    Refuses v f (.keyed down false) (v.key down d).2
  | grab (region : Region) (d : δ) (h : (v.grab region d).1.result = .error f) :
    Refuses v f (.grabbed region (.error f)) (v.grab region d).2
  | prepare (image : ι) (d : δ) (h : (v.prepare image d).1.result = .error f) :
    Refuses v f (.prepared image (.error f)) (v.prepare image d).2
  | recognize (image : ι) (d : δ) (h : (v.recognize image d).1.result = .error f) :
    Refuses v f (.recognized image (.error f)) (v.recognize image d).2

namespace Reading

/-- A reading has a text or nothing in its place, and a confidence that is a number. Numbers are
read from the canonical text, where no run of digits is too long. -/
def IsUsable (x : Reading) : Prop :=
  (x.text = .null ∨ ∃ text, x.text = .text text ∧
    Spec.Countable (Canonical.canonicalChars (Text.strip text.toList))) ∧
  ∃ confidence, x.confidence.toReal = .ok confidence

theorem IsUsable.text {x : Reading} (h : x.IsUsable) : ∃ text, x.text.textFor "strip" = .ok text ∧
    Spec.Countable (Canonical.canonicalChars (Text.strip text.toList)) := by
  rcases h.1 with hnull | ⟨text, htext, hcountable⟩
  · refine ⟨"", by rw [hnull]; rfl, fun run hrun => ?_⟩
    have hnone : Canonical.canonicalChars (Text.strip "".toList) = [] := by decide +kernel
    rw [hnone] at hrun
    cases hrun
  · exact ⟨text, by rw [htext, Line.textFor_text], hcountable⟩

theorem IsUsable.readable {x : Reading} (h : x.IsUsable) : Line.IsReadable x := by
  obtain ⟨text, htext, -⟩ := h.text
  exact ⟨⟨text, htext⟩, h.2⟩

end Reading

namespace Step

/-- What becomes of a step when a device fails after so many failures in a row. -/
def afterFailure (m : Int) (c : Capability) (count : Nat) : DeviceFault → Except Fault StepOutcome
  | .unavailable text => .error (.unavailable text)
  | .failed _ text =>
    if Streak.isTooMany m (count + 1) then
      .error (.unavailable (Streak.complaint c (count + 1) text))
    else .ok {}

/-- The ways in which a step of a node can end. -/
inductive Ending (r : Rig τ ι δ σ) (n : Node) : Except Fault StepOutcome → Prop
  | outcome (o : StepOutcome) : Ending r n (.ok o)
  | misconfigured (reason : String) : Ending r n (.error (.step n.displayName reason))
  | unavailable (text : String) : Ending r n (.error (.unavailable text))
  | oversized (e : ConversionError) (h : Oversized r n) : Ending r n (.error (.number e))

/-- No device was called. -/
structure Untouched (s t : Scene τ ι δ σ) : Prop where
  calls : Grows (fun e => e.deed.asksDevice = false) s t
  devices : t.devices = s.devices

/-- A step that began in one scene ended in another. -/
structure Accounted (r : Rig τ ι δ σ) (n : Node) (m : Int) (s : Scene τ ι δ σ)
    (x : Except Fault StepOutcome) (t : Scene τ ι δ σ) : Prop where
  ending : Ending r n x
  misconfigured : ∀ node reason, x = .error (.step node reason) → Untouched s t
  failures : Grows (fun e => ∀ c, e.deed.failed? = some c → ∃ f,
    r.devices.Refuses f e.deed t.devices ∧ x = afterFailure m c (s.failures.of c) f) s t

/-- What a step takes for granted: the settings can be used, the length of time in its node is a
number, the signal file can be looked for, and readings are usable. -/
structure Granted (r : Rig τ ι δ σ) (n : Node) (m : Int) (s : Scene τ ι δ σ) : Prop where
  limit : r.failureLimit = .int m
  exclusion : ∃ e word, r.exclusion = .ok e ∧ e.context = .text word
  thresholds : r.settings.thresholds.Numeric
  interval : ∃ v, (Delay.Manner.ofSettings r.settings).interval = .ok v ∧
    r.devices.time.Reckons v
  abortAfter : r.devices.time.Reckons r.settings.delayAbortAfter
  length : n.length.number?.isSome = true
  signal : ∀ x files, x.signal = s.state.signal → ∃ y, RunState.poll x files = .ok y
  readings : ∀ image d readings, (r.devices.recognize image d).1.result = .ok readings →
    ∀ x ∈ readings, x.IsUsable

end Step

/-! ### Acts in which no call fails -/

/-- No call has failed, and the same signal file is watched for. -/
structure Scene.Clean (s t : Scene τ ι δ σ) : Prop where
  calls : Grows (fun e => e.deed.failed? = none) s t
  signal : t.state.signal = s.state.signal

instance : IsPreorder (Scene τ ι δ σ) Clean where
  refl s := ⟨Grows.refl _ s, rfl⟩
  trans _ _ _ h k := ⟨h.calls.trans k.calls, k.signal.trans h.signal⟩

variable {r : Rig τ ι δ σ} {s t : Scene τ ι δ σ} {n : Node} {m : Int}
variable {counts : Failures} {c : Capability}

theorem Scene.Clean.of_idle (h : Steady (·.isIdle = true) s t)
    (signal : t.state.signal = s.state.signal) : Clean s t := by
  refine ⟨h.grows.mono fun e he => ?_, signal⟩
  exact Deed.failed?_of_not_asks (Deed.asksDevice_of_idle he.1)

namespace Act

theorem undergo_signal (i : Influence) (s : Scene τ ι δ σ) :
    (undergo i s : Except Fault Unit × _).2.state.signal = s.state.signal := by
  change (if i.stop then s.state.requestStop else s.state).signal = _
  split
  · rfl
  · rfl

theorem tell_clean (r : Rig τ ι δ σ) (level : EventLevel) (message : String) :
    Within Clean (tell r level message) := fun s =>
  .of_idle (tell_steady (fun _ => id) r level message s) (undergo_signal _ _)

theorem sleep_clean (r : Rig τ ι δ σ) (length : τ) : Within Clean (sleep r length) := fun s =>
  .of_idle (sleep_steady (fun _ => id) r length s) (undergo_signal _ _)

theorem stopAsked_clean : Within Clean (stopAsked : Act τ ι δ σ Bool) := by
  intro s
  refine .of_idle (stopAsked_steady s) ?_
  rw [stopAsked_apply]
  cases h : s.state.poll s.files with
  | error e => rfl
  | ok x =>
    obtain ⟨state, files, log⟩ := x
    rcases RunState.poll_state h with rfl | rfl
    · rfl
    · rfl

end Act

theorem Delay.pause_clean (r : Rig τ ι δ σ) (length : Value) : Within Clean (pause r length) :=
  pause_within stopAsked_clean (sleep_clean r) length

namespace Step

/-- The counters are such, and no call has failed since the step began. -/
def Going (counts : Failures) (s t : Scene τ ι δ σ) : Prop := t.failures = counts ∧ Clean s t

theorem going_meets {a : Act τ ι δ σ α} (hfailures : Within (Same fun s => s.failures) a)
    (hclean : Within Clean a) :
    Meets (Going counts s) a (fun _ => Going counts s) (fun _ => Going counts s) := by
  refine (Meets.of_within hfailures fun t u htu ht => ?_).and
    (Meets.of_within hclean fun t u htu ht => ?_)
  · exact htu.trans ht
  · exact trans_of Clean ht htu

theorem tell_going (level : EventLevel) (message : String) {E : Fault → Scene τ ι δ σ → Prop} :
    Meets (Going counts s) (tell r level message) (fun _ => Going counts s) E := fun t ht =>
  ⟨ht.1, trans_of Clean ht.2 (tell_clean r level message t)⟩

/-- A call that fails is the last one of its step. -/
def Blamed (v : Devices τ ι δ) (c : Capability) (f : DeviceFault) (s t : Scene τ ι δ σ) : Prop :=
  Grows (fun e => ∀ c', e.deed.failed? = some c' → c' = c ∧ v.Refuses f e.deed t.devices) s t

/-- How a use of a device ends with a fault: a call has failed, or something else that is not for
want of a device. -/
inductive Halted (v : Devices τ ι δ) (c : Capability) (counts : Failures)
    (s t : Scene τ ι δ σ) : Fault → Prop
  | refused (f : DeviceFault) (failures : t.failures = counts) (blamed : Blamed v c f s t) :
    Halted v c counts s t (.ofDevice f)
  | aside (f : Fault) (available : ∀ text, f ≠ .unavailable text) (going : Going counts s t) :
    Halted v c counts s t f

theorem operate_going {op : δ → Answer α × δ} {deed : Except DeviceFault α → Deed τ ι}
    (works : ∀ v, (deed (.ok v)).failed? = none)
    (fails : ∀ f, (deed (.error f)).failed? = some c)
    (refuses : ∀ f d, (op d).1.result = .error f →
      r.devices.Refuses f (deed (.error f)) (op d).2) :
    Meets (Going counts s) (operate op deed)
      (fun v t => (∃ d, (op d).1.result = .ok v) ∧ Going counts s t)
      (fun f t => Halted r.devices c counts s t f) := by
  intro t ht
  obtain ⟨u, hop, hu⟩ := operate_noted op deed t
  have hscene : u = (operate op deed t).2 := by rw [hop]
  have hsignal : u.state.signal = t.state.signal := by
    rw [hscene, operate_apply]
    exact undergo_signal _ _
  have hfailures : u.failures = counts := by
    rw [hscene]
    exact (operate_failures op deed t).trans ht.1
  have hdevices : u.devices = (op t.devices).2 := by
    rw [hscene, operate_apply]
    rfl
  rw [hop]
  cases hresult : (op t.devices).1.result with
  | ok v =>
    rw [hresult] at hu
    have hclean : Clean t u := ⟨(hu.steady (p := fun d => d.failed? = none) (works v)).grows.mono
      fun _ he => he.1, hsignal⟩
    exact ⟨⟨t.devices, hresult⟩, hfailures, trans_of Clean ht.2 hclean⟩
  | error f =>
    rw [hresult] at hu
    refine .refused f hfailures ?_
    have hcall : Grows (fun e => e.deed = deed (.error f)) t u :=
      (hu.steady (p := (· = deed (.error f))) rfl).grows.mono fun _ he => he.1
    refine (ht.2.calls.mono fun e he c' hc' => ?_).trans (hcall.mono fun e he c' hc' => ?_)
    · rw [he] at hc'
      cases hc'
    · rw [he, fails f] at hc'
      obtain rfl : c = c' := Option.some.inj hc'
      rw [he, hdevices]
      exact ⟨rfl, refuses f t.devices hresult⟩

/-! ### Trying a device -/

theorem Going.accounted {x : Except Fault StepOutcome} (h : Going counts s t) (ending : Ending r n x)
    (misconfigured : ∀ node reason, x = .error (.step node reason) → Untouched s t) :
    Accounted r n m s x t :=
  ⟨ending, misconfigured, h.2.calls.mono fun _ he _ hc => nomatch he.symm.trans hc⟩

theorem Going.completed (h : Going counts s t) (o : StepOutcome) : Accounted r n m s (.ok o) t :=
  h.accounted (.outcome o) fun _ _ hx => nomatch hx

/-- A failure is counted and told, and it may be one too many. -/
theorem failed_apply (limit : r.failureLimit = .int m) (c : Capability) (n : Node) (text : String)
    (s : Scene τ ι δ σ) :
    ∃ t, failed r c n text s =
        (if Streak.isTooMany m (s.failures.of c + 1) then
            .error (.unavailable (Streak.complaint c (s.failures.of c + 1) text))
          else .ok (), t) ∧
      Grows (fun e => e.deed.failed? = none) s t ∧ t.devices = s.devices := by
  have htell : ∀ (message : String) (t : Scene τ ι δ σ),
      tell r .warning message t = (.ok (), (tell r .warning message t).2) := fun _ _ => rfl
  have htold := (tell_clean r .warning (c.name ++ " error on " ++ n.displayName ++ ": " ++ text)
    { s with failures := s.failures.set c (s.failures.of c + 1) }).calls
  refine ⟨_, ?_, ⟨htold.journal, htold.attempts, htold.stop⟩, rfl⟩
  unfold failed
  rw [bind_apply, get_apply]
  dsimp only
  rw [bind_apply, modify_apply]
  dsimp only
  rw [bind_apply, htell]
  dsimp only
  rw [bind_apply, lift_apply, limit, Streak.isTooMany_int]
  dsimp only [Except.mapError]
  by_cases hmany : Streak.isTooMany m (s.failures.of c + 1)
  · rw [decide_eq_true hmany, if_pos hmany]
    rfl
  · rw [decide_eq_false hmany, if_neg hmany]
    rfl

/-- A fault of a device ends the step as the failures in a row demand. -/
theorem failed_accounted (limit : r.failureLimit = .int m) (hcount : counts.of c = s.failures.of c)
    {f : Fault} (available : ∀ text, f ≠ .unavailable text) :
    Meets (fun t => Halted r.devices c counts s t f) (failed r c n f.text)
      (fun _ t => Accounted r n m s (.ok {}) t) (fun f t => Accounted r n m s (.error f) t) := by
  intro t ht
  obtain ⟨u, hfailed, hgrows, hdevices⟩ := failed_apply limit c n f.text t
  have hof : t.failures.of c = s.failures.of c := by
    rw [← hcount]
    cases ht with
    | refused _ failures _ => rw [failures]
    | aside _ _ going => rw [going.1]
  rw [hof] at hfailed
  have haccounted : Accounted r n m s
      (if Streak.isTooMany m (s.failures.of c + 1) then
        .error (.unavailable (Streak.complaint c (s.failures.of c + 1) f.text))
      else .ok {}) u := by
    refine ⟨?_, ?_, ?_⟩
    · split
      · exact .unavailable _
      · exact .outcome _
    · intro node reason h
      split at h
      · cases h
      · cases h
    · cases ht with
      | aside _ _ going =>
        exact (going.2.calls.trans hgrows).mono fun _ he _ hc => nomatch he.symm.trans hc
      | refused f _ blamed =>
        cases f with
        | unavailable text => exact absurd rfl (available text)
        | failed kind text =>
          refine (blamed.mono fun e he c' hc' => ?_).trans
            (hgrows.mono fun _ he _ hc => nomatch he.symm.trans hc)
          obtain ⟨rfl, hrefuses⟩ := he c' hc'
          rw [← hdevices] at hrefuses
          exact ⟨.failed kind text, hrefuses, rfl⟩
  rw [hfailed]
  by_cases hmany : Streak.isTooMany m (s.failures.of c + 1)
  · rw [if_pos hmany] at haccounted ⊢
    exact haccounted
  · rw [if_neg hmany] at haccounted ⊢
    exact haccounted

theorem trying_accounted (limit : r.failureLimit = .int m)
    (hcount : counts.of c = s.failures.of c) {a : Act τ ι δ σ α} {M : α → Prop}
    (ha : Meets (Going counts s) a (fun v t => M v ∧ Going counts s t)
      (fun f t => Halted r.devices c counts s t f)) :
    Meets (Going counts s) (trying r c n a)
      (fun v? t => match v? with
        | some v => M v ∧ Going (counts.set c 0) s t
        | none => Accounted r n m s (.ok {}) t)
      (fun f t => Accounted r n m s (.error f) t) := by
  refine .bind (M := fun x t => Ends (fun v t => M v ∧ Going counts s t)
    (fun f t => Halted r.devices c counts s t f) (x, t)) (.outcome ha) fun x => ?_
  split
  · next v =>
    refine .bind (M := fun _ t => M v ∧ Going (counts.set c 0) s t) (.modify ?_) fun _ => ?_
    · rintro t ⟨hv, hcounts, hclean⟩
      obtain ⟨hjournal, hattempts, hstop⟩ := hclean.calls
      exact ⟨hv, by rw [← hcounts], ⟨hjournal, hattempts, hstop⟩, hclean.signal⟩
    · exact .pure fun _ ht => ht
  · next text =>
    refine .throw fun t ht => ⟨.unavailable text, fun node reason h => (nomatch h), ?_⟩
    generalize hf : Fault.unavailable text = f at ht
    cases ht with
    | aside _ available _ => exact absurd hf.symm (available text)
    | refused f _ blamed =>
      cases f with
      | failed kind text => cases hf
      | unavailable text =>
        refine blamed.mono fun e he c' hc' => ⟨.unavailable text, (he c' hc').2, ?_⟩
        rfl
  · next f hf =>
    refine .bind (failed_accounted limit hcount hf) fun _ => .pure fun _ ht => ht

end Step

end Reroll
