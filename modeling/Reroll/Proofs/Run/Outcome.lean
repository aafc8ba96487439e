import Reroll.Proofs.Run.Ending
import Reroll.Proofs.Run.Key
import Reroll.Proofs.Run.Refusal

/-!
# How steps end

A step gives an outcome, or it ends the run since its node lacks something or a device cannot work;
only numbers that are too large to be reckoned with or to be written make it end otherwise. A node
that lacks something is found out before any call (`execute_accounted`).
-/

namespace Reroll

variable {τ ι δ σ α : Type}

open Scene Act

variable {r : Rig τ ι δ σ} {s t : Scene τ ι δ σ} {n : Node} {m : Int} {counts : Failures}
variable {c : Capability}

namespace Step

/-! ### Pauses -/

/-- The same signal file is watched for as in the beginning. -/
def Watching (s t : Scene τ ι δ σ) : Prop := t.state.signal = s.state.signal

theorem reckoned_watching {v : Value} (h : r.devices.time.Reckons v)
    {E : Fault → Scene τ ι δ σ → Prop} :
    Meets (Watching s) (Delay.reckoned r v) (fun _ => Watching s) E := by
  obtain ⟨k, x, hk, hx⟩ := h
  unfold Delay.reckoned
  rw [hk]
  exact .lift_ok hx fun _ ht => ht

theorem sleep_watching (length : τ) {E : Fault → Scene τ ι δ σ → Prop} :
    Meets (Watching s) (Act.sleep r length) (fun _ => Watching s) E := fun t ht =>
  (sleep_clean r length t).signal.trans ht

section Granted

variable (granted : Granted r n m s)

include granted

theorem stopAsked_watching {E : Fault → Scene τ ι δ σ → Prop} :
    Meets (Watching s) stopAsked (fun _ => Watching s) E := by
  intro t ht
  have hsignal := (stopAsked_clean t).signal
  obtain ⟨y, hy⟩ := granted.signal t.state t.files ht
  rw [stopAsked_apply, hy] at hsignal ⊢
  exact hsignal.trans ht

/-- A pause that ends with a fault is too long to be reckoned with. -/
theorem pause_ends {length : Value} (number : length.number?.isSome = true) :
    Meets (Watching s) (Delay.pause r length) (fun _ _ => True)
      (fun f _ => ∃ e, f = .number e ∧ length.related .atMost (.int 0) = .ok false ∧
        ¬r.devices.time.Reckons length) := by
  obtain ⟨interval, hinterval, hpoll⟩ := granted.interval
  obtain ⟨k, hk⟩ := Option.isSome_iff_exists.mp number
  obtain ⟨short, hshort⟩ : ∃ b, length.related .atMost (.int 0) = .ok b := by
    refine ⟨Relation.atMost.holds k (.int 0), ?_⟩
    rw [Value.related, hk]
    rfl
  refine .bind (M := fun _ _ => True) ?_ fun _ => .pure fun _ _ => trivial
  unfold Delay.wait
  refine .bind (M := fun b t => b = short ∧ Watching s t)
    (.lift_ok hshort fun _ ht => ⟨rfl, ht⟩) fun b => .of_fact fun hb => ?_
  subst hb
  refine .ite (fun _ => .pure fun _ _ => trivial) fun hlasts => ?_
  refine .bind (M := fun v t => v = interval ∧ Watching s t)
    (.lift_ok hinterval fun _ ht => ⟨rfl, ht⟩) fun v => .of_fact fun hv => ?_
  subst hv
  refine .bind (reckoned_watching hpoll) fun poll => ?_
  refine .bind (M := fun _ => Watching s) ?_ fun total => ?_
  · by_cases hlength : r.devices.time.Reckons length
    · exact reckoned_watching hlength
    · unfold Delay.reckoned
      rw [hk]
      refine .lift (fun _ _ _ ht => ht) fun e t _ _ => ⟨e, rfl, ?_, hlength⟩
      rw [hshort, Bool.eq_false_of_not_eq_true hlasts]
  refine .bind (reckoned_watching granted.abortAfter) fun abortAfter => ?_
  refine .bind (M := fun _ => Watching s) (fun _ ht => ht) fun started => ?_
  exact (Delay.waitFrom_meets (stopAsked_watching granted) (fun x => sleep_watching x) _ _ _ _ _
    _).post fun _ _ _ => trivial

theorem pause_accounted {length : Value} (number : length.number?.isSome = true)
    (large : length.related .atMost (.int 0) = .ok false → ¬r.devices.time.Reckons length →
      Oversized r n) :
    Meets (Going counts s) (Delay.pause r length) (fun _ => Going counts s)
      (fun f t => Accounted r n m s (.error f) t) := by
  have hgoing : Meets (Going counts s) (Delay.pause r length) (fun _ => Going counts s)
      (fun _ => Going counts s) :=
    going_meets (Delay.pause_failures r length) (Delay.pause_clean r length)
  refine (hgoing.and (pause_ends granted number)).mono (fun t ht => ⟨ht, ht.2.signal⟩)
    (fun _ _ ht => ht.1) ?_
  rintro f t ⟨ht, e, rfl, hlasts, hreckons⟩
  exact ht.accounted (.oversized e (large hlasts hreckons)) fun node reason h => nomatch h

end Granted

/-! ### Uses of devices -/

theorem call_going {op : δ → Answer α × δ} {deed : Except DeviceFault α → Deed τ ι}
    (works : ∀ v, (deed (.ok v)).failed? = none)
    (fails : ∀ f, (deed (.error f)).failed? = some c)
    (refuses : ∀ f d, (op d).1.result = .error f →
      r.devices.Refuses f (deed (.error f)) (op d).2) :
    Meets (Going counts s) (operate op deed) (fun _ => Going counts s)
      (fun f t => Halted r.devices c counts s t f) :=
  (operate_going works fails refuses).post fun _ _ ht => ht.2

theorem setKey_going (held : Bool) : Meets (Going counts s) (setKey r held)
    (fun _ => Going counts s) (fun f t => Halted r.devices .input counts s t f) := by
  have hpause : Meets (Going counts s) (Delay.pause r r.settings.keySettle)
      (fun _ => Going counts s) (fun _ => Going counts s) :=
    going_meets (Delay.pause_failures r _) (Delay.pause_clean r _)
  refine .bind (M := fun _ => Going counts s) (fun _ ht => ht) fun v => ?_
  refine .ite (fun _ => .pure fun _ ht => ht) fun _ => ?_
  refine .bind (call_going (fun _ => rfl) (fun _ => rfl) fun f d h => .key held d h) fun _ => ?_
  refine .bind (M := fun _ => Going counts s) (.modify fun t ht => ?_) fun _ => ?_
  · obtain ⟨hjournal, hattempts, hstop⟩ := ht.2.calls
    exact ⟨ht.1, ⟨hjournal, hattempts, hstop⟩, ht.2.signal⟩
  refine .bind (tell_going _ _) fun _ => ?_
  exact (hpause.and (Streak.pause_available r _)).mono (fun _ ht => ⟨ht, trivial⟩)
    (fun _ _ ht => ht.1) fun f t ht => .aside f ht.2 ht.1

theorem sendClick_going (p : Point) (shift : Bool) (b : Button) :
    Meets (Going counts s) (sendClick r p shift b) (fun _ => Going counts s)
      (fun f t => Halted r.devices .input counts s t f) := by
  have hclick : Meets (Going counts s)
      (operate (r.devices.click p.x p.y b) fun a => .clicked p.x p.y b a.isOk)
      (fun _ => Going counts s) (fun f t => Halted r.devices .input counts s t f) :=
    call_going (fun _ => rfl) (fun _ => rfl) fun f d h => .click p.x p.y b d h
  exact .ite (fun _ => .bind (setKey_going shift) fun _ => hclick) fun _ => hclick

theorem capture_going (region : Region) :
    Meets (Going counts s) (capture r region) (fun _ => Going counts s)
      (fun f t => Halted r.devices .capture counts s t f) := by
  refine .bind (call_going (fun _ => rfl) (fun _ => rfl) fun f d h => .grab region d h) ?_
  exact fun image => call_going (fun _ => rfl) (fun _ => rfl) fun f d h => .prepare image d h

theorem recognizeAll_going (granted : Granted r n m s) (images : List ι) :
    Meets (Going counts s) (recognizeAll r images)
      (fun sets t => (∀ x ∈ sets.flatten, x.IsUsable) ∧ Going counts s t)
      (fun f t => Halted r.devices .ocr counts s t f) := by
  induction images with
  | nil => exact .pure fun t ht => ⟨fun x hx => (nomatch hx), ht⟩
  | cons image rest ih =>
    refine .bind (operate_going (fun _ => rfl) (fun _ => rfl)
      fun f d h => .recognize image d h) fun readings => .of_fact fun hreadings => ?_
    refine .bind ih fun sets => .of_fact fun hsets => .pure fun t ht => ⟨fun x hx => ?_, ht⟩
    obtain ⟨d, hd⟩ := hreadings
    rw [List.flatten_cons, List.mem_append] at hx
    rcases hx with hx | hx
    · exact granted.readings image d readings hd x hx
    · exact hsets x hx

/-- Usable readings are gathered and searched without a fault. -/
theorem examine_going (granted : Granted r n m s) (specs : List Spec) {sets : List (List Reading)}
    (usable : ∀ x ∈ sets.flatten, x.IsUsable) {E : Fault → Scene τ ι δ σ → Prop} :
    Meets (Going counts s) (examine r specs sets) (fun _ => Going counts s) E := by
  obtain ⟨e, word, hexclusion, hcontext⟩ := granted.exclusion
  obtain ⟨lines, hlines, hfrom, -⟩ := Line.gather_ok r.known granted.thresholds sets
    fun x hx => (usable x hx).readable
  have haccepts : ∀ spec ∈ specs, ∀ l ∈ lines, ∃ b, spec.accepts e l.canonical = .ok b := by
    intro spec _ l hl
    obtain ⟨x, hx, hbecomes⟩ := hfrom l hl
    obtain ⟨text, htext, hcountable⟩ := (usable x hx).text
    obtain ⟨text', htext', -, hcanonical, -⟩ := Line.ofReading?_some hbecomes
    obtain rfl : text = text' := Except.ok.inj (htext.symm.trans htext')
    apply Spec.accepts_ok hcontext
    rw [hcanonical, String.toList_ofList]
    exact hcountable
  obtain ⟨hit?, hhit⟩ : ∃ hit?, Match.find lines specs e = .ok hit? := by
    rcases Match.firstFrom_first 0 haccepts with ⟨hnone, -⟩ | ⟨hit, hhit, -⟩
    · exact ⟨none, hnone⟩
    · exact ⟨some hit, hhit⟩
  refine .bind (M := fun found t => found = lines ∧ Going counts s t)
    (.lift_ok hlines fun _ ht => ⟨rfl, ht⟩) fun found => .of_fact fun hfound => ?_
  subst hfound
  refine .bind (tell_going _ _) fun _ => ?_
  refine .bind (M := fun x t => x = e ∧ Going counts s t)
    (.lift_ok hexclusion fun _ ht => ⟨rfl, ht⟩) fun x => .of_fact fun hx => ?_
  subst hx
  exact .bind (M := fun _ => Going counts s) (.lift_ok hhit fun _ ht => ht) fun _ =>
    .pure fun _ ht => ht

/-! ### Steps -/

/-- A step has begun and done nothing yet. -/
def Begun (s t : Scene τ ι δ σ) : Prop := Untouched s t ∧ Going s.failures s t

theorem tell_begun (level : EventLevel) (message : String) {E : Fault → Scene τ ι δ σ → Prop} :
    Meets (Begun s) (tell r level message) (fun _ => Begun s) E := by
  rintro t ⟨⟨hcalls, hdevices⟩, hgoing⟩
  have htold : Grows (fun e => e.deed.asksDevice = false) t (tell r level message t).2 :=
    (tell_steady (fun _ => id) r level message t).grows.mono fun _ he => Deed.asksDevice_of_idle he.1
  have hgoing' : Going s.failures s (tell r level message t).2 :=
    tell_going level message (E := E) t hgoing
  exact ⟨⟨hcalls.trans htold, hdevices⟩, hgoing'⟩

theorem Begun.accounted {x : Except Fault StepOutcome} (h : Begun s t) (ending : Ending r n x) :
    Accounted r n m s x t :=
  h.2.accounted ending fun _ _ _ => h.1

theorem Ending.misplaced (message : String) {writable : Bool}
    (h : writable = false → Oversized r n) : Ending r n (.error (misplaced n message writable)) := by
  cases writable with
  | false => exact .oversized _ (h rfl)
  | true => exact .misconfigured _

theorem Ending.clickTarget {f : Fault} (h : clickTarget n = .error f) : Ending r n (.error f) := by
  unfold Step.clickTarget at h
  split at h
  · next p shift post hdata =>
    split at h
    · cases h
    · cases h
      exact .misplaced _ fun hwritable => .point p shift post hdata hwritable
  · cases h
    exact .misconfigured _

theorem Ending.checkTarget {f : Fault} (h : checkTarget r.targets n = .error f) :
    Ending r n (.error f) := by
  unfold Step.checkTarget at h
  split at h
  · next region own hdata =>
    dsimp only at h
    generalize (if own.isEmpty then r.targets else own) = sought at h
    split at h
    · cases h
      exact .misplaced _ fun hwritable => .region region own hdata hwritable
    · split at h
      · cases h
        exact .misconfigured _
      · cases h
  · cases h
    exact .misconfigured _

section Steps

variable (granted : Granted r n m s)

include granted

theorem click_accounted (b : Button) : Meets (Begun s) (click r n b)
    (fun o t => Accounted r n m s (.ok o) t) (fun f t => Accounted r n m s (.error f) t) := by
  refine .bind (M := fun x t => Step.clickTarget n = .ok x ∧ Going s.failures s t)
    (.lift (fun x t hx ht => ⟨hx, ht.2⟩) fun f t hf ht => ht.accounted (.clickTarget hf))
    fun x => .of_fact fun htarget => ?_
  obtain ⟨p, shift, post⟩ := x
  have hpost : post = n.length := by
    rw [Node.length, Key.clickTarget_ok htarget]
  have hsend : Meets (Going s.failures s) (sendClick r p shift b)
      (fun _ t => True ∧ Going s.failures s t) _ :=
    (sendClick_going p shift b).post fun _ _ ht => ⟨trivial, ht⟩
  refine .bind (trying_accounted granted.limit rfl hsend) fun clicked => ?_
  cases clicked with
  | none => exact .pure fun _ ht => ht
  | some _ =>
    subst hpost
    refine .of_fact fun _ => .bind (pause_accounted granted granted.length ?_) fun _ => ?_
    · exact fun hlasts hreckons => .reckoned hlasts hreckons
    · exact .pure fun t ht => ht.completed {}

theorem check_accounted : Meets (Begun s) (check r n)
    (fun o t => Accounted r n m s (.ok o) t) (fun f t => Accounted r n m s (.error f) t) := by
  refine .bind (M := fun _ t => Going s.failures s t)
    (.lift (fun x t hx ht => ht.2) fun f t hf ht => ht.accounted (.checkTarget hf))
    fun x => ?_
  obtain ⟨region, sought⟩ := x
  have hcapture : Meets (Going s.failures s) (capture r region)
      (fun _ t => True ∧ Going s.failures s t) _ :=
    (capture_going region).post fun _ _ ht => ⟨trivial, ht⟩
  refine .bind (trying_accounted granted.limit rfl hcapture) fun images? => ?_
  cases images? with
  | none => exact .pure fun _ ht => ht
  | some images =>
    have hcount : (s.failures.set .capture 0).of .ocr = s.failures.of .ocr := rfl
    refine .of_fact fun _ => .bind (trying_accounted granted.limit hcount
      (recognizeAll_going granted images)) fun sets? => ?_
    cases sets? with
    | none => exact .pure fun _ ht => ht
    | some sets =>
      refine .of_fact fun husable => (examine_going granted sought husable).post ?_
      exact fun o t ht => ht.completed o

theorem delay_accounted : Meets (Begun s) (delay r n)
    (fun o t => Accounted r n m s (.ok o) t) (fun f t => Accounted r n m s (.error f) t) := by
  have hlength : delayLength n = n.length ∨ delayLength n = .int 0 := by
    unfold delayLength Node.length
    cases n.data <;> simp
  have hnumber : (delayLength n).number?.isSome = true := by
    rcases hlength with h | h
    · exact h ▸ granted.length
    · rw [h]
      rfl
  refine .bind (M := fun _ => Begun s) (.lift (fun _ _ _ ht => ht) ?_) fun shown => ?_
  · intro e t he ht
    refine ht.accounted (.oversized e ?_)
    have hunwritable : (delayLength n).isWritable = false := by
      by_contra hwritable
      rw [Value.writtenPlain, if_pos (Bool.eq_true_of_not_eq_false hwritable)] at he
      cases he
    rcases hlength with h | h
    · exact .written (h ▸ hunwritable)
    · rw [h] at hunwritable
      exact absurd hunwritable (by decide +kernel)
  refine .bind (tell_begun _ _) fun _ => ?_
  have hlarge : (delayLength n).related .atMost (.int 0) = .ok false →
      ¬r.devices.time.Reckons (delayLength n) → Oversized r n := by
    intro hlasts hreckons
    rcases hlength with h | h
    · rw [h] at hlasts hreckons
      exact .reckoned hlasts hreckons
    · rw [h] at hlasts
      exact absurd hlasts (by decide +kernel)
  refine .bind (M := fun _ => Going s.failures s) ?_ fun _ => .pure fun t ht => ht.completed {}
  exact fun t ht => pause_accounted granted hnumber hlarge t ht.2

end Steps

/-- Whole milliseconds, as far as doubles reach. -/
def limitedMillis : Reckoning Int where
  __ := Run.wholeMillis
  ofMillis
    | .int i => if i.natAbs < Nat.pow 2 1024 then .ok i else .error .hugeInteger
    | k => Run.wholeMillis.ofMillis k

theorem limitedMillis_reckons {i : Int} (h : i.natAbs < Nat.pow 2 1024) :
    limitedMillis.Reckons (.int i) := by
  refine ⟨.int i, i, rfl, ?_⟩
  unfold limitedMillis
  dsimp only
  rw [if_pos h]

/-- What a step in the dark works with. -/
def darkRig (limit : Int) : Rig Int String Int Unit where
  __ := Run.blindRig
  devices := { Run.blindfold with time := limitedMillis }
  failureLimit := .int limit

theorem darkRig_granted (limit : Int) {n : Node} (number : n.length.number?.isSome = true) :
    Granted (darkRig limit) n limit Run.blindScene where
  limit := rfl
  exclusion := ⟨{}, _, rfl, rfl⟩
  thresholds := ⟨rfl, rfl⟩
  interval := ⟨.int 30, rfl, limitedMillis_reckons (by decide +kernel)⟩
  abortAfter := limitedMillis_reckons (by decide +kernel)
  length := number
  signal x files hx := by
    have hnone : x.signal = none := hx
    unfold RunState.poll RunState.signalPresent
    rw [hnone]
    cases x.stopRequested with
    | false => exact ⟨_, rfl⟩
    | true => exact ⟨_, rfl⟩
  readings image d readings h x hx := by
    cases h
    cases hx

/-- The fault of a conversion with which a step ended. -/
def numberFault? : Except Fault StepOutcome → Option ConversionError
  | .error (.number e) => some e
  | _ => none

theorem eq_of_numberFault? {x : Except Fault StepOutcome} {e : ConversionError}
    (h : numberFault? x = some e) : x = .error (.number e) := by
  unfold numberFault? at h
  split at h
  · cases h
    rfl
  · cases h

end Step

end Reroll
