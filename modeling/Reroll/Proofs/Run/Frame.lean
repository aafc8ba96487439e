import Reroll.Proofs.Run.Effect

/-!
# Acts that leave the key alone

Telling, waiting and looking keep the key flag as it is, whatever the devices and the listener do
meanwhile (`check_steady`, `delay_steady`). A whole step, and the release of the key after it,
counts no attempt, dispatches nothing and takes no request for a stop back (`execute_grows`,
`releaseKey_grows`).
-/

namespace Reroll

variable {τ ι δ σ α : Type} {p : Deed τ ι → Prop}

open Scene Act

theorem Act.Within.of_steady {a : Act τ ι δ σ α} (h : Within (Steady p) a) :
    Within (Grows fun e => p e.deed) a :=
  h.of_le fun _ _ h => h.grows.mono fun _ he => he.1

/-- Looking for a stop raises the flag of the request at most. -/
theorem RunState.poll_state {r r' : RunState} {files files' : Files} {log : List LogRecord}
    (h : r.poll files = .ok (r', files', log)) : r' = r ∨ r' = r.requestStop := by
  unfold RunState.poll at h
  by_cases hs : r.stopRequested = true
  · simp only [hs, ite_true] at h
    cases h
    exact .inl rfl
  · cases hp : r.signalPresent files with
    | error e => simp [hs, hp, bind, Except.bind] at h
    | ok b =>
      cases b with
      | false =>
        simp only [hs, hp, bind, Except.bind, pure, Except.pure] at h
        cases h
        exact .inl rfl
      | true =>
        cases hc : r.clearSignal files with
        | error e => simp [hs, hp, hc, bind, Except.bind] at h
        | ok x =>
          simp [hs, hp, hc, bind, Except.bind, pure, Except.pure] at h
          exact .inr h.1.symm

namespace Act

theorem note_noted (d : Deed τ ι) (s : Scene τ ι δ σ) :
    Noted d s (note d s : Except Fault Unit × _).2 :=
  ⟨rfl, rfl, rfl, id⟩

theorem undergo_noted (i : Influence) {d : Deed τ ι} {s t : Scene τ ι δ σ} (h : Noted d s t) :
    Noted d s (undergo i t : Except Fault Unit × _).2 := by
  obtain ⟨hj, hh, ha, hs⟩ := h
  cases i with
  | mk stop files =>
    cases stop with
    | false => exact ⟨hj, hh, ha, hs⟩
    | true => exact ⟨hj, hh, ha, fun _ => rfl⟩

/-- What an operation comes to: its deed is noted, and then things happen. -/
theorem operate_apply (op : δ → Answer α × δ) (deed : Except DeviceFault α → Deed τ ι)
    (s : Scene τ ι δ σ) :
    operate op deed s = ((op s.devices).1.result.mapError .ofDevice,
      (undergo (op s.devices).1.influence { s with
        devices := (op s.devices).2
        journal := ⟨deed (op s.devices).1.result, s.state⟩ :: s.journal } :
        Except Fault Unit × Scene τ ι δ σ).2) := by
  unfold operate
  rw [bind_apply, get_apply]
  dsimp only
  rw [bind_apply, modify_apply]
  dsimp only
  rw [bind_apply, note_apply]
  dsimp only
  rw [bind_apply]
  cases (op s.devices).1.result <;> rfl

/-- An operation of a device comes to what the device gives, which the note tells. -/
theorem operate_noted (op : δ → Answer α × δ) (deed : Except DeviceFault α → Deed τ ι)
    (s : Scene τ ι δ σ) :
    ∃ t, operate op deed s = ((op s.devices).1.result.mapError .ofDevice, t) ∧
      Noted (deed (op s.devices).1.result) s t := by
  have h : Noted (deed (op s.devices).1.result) s { s with
      devices := (op s.devices).2
      journal := ⟨deed (op s.devices).1.result, s.state⟩ :: s.journal } := ⟨rfl, rfl, rfl, id⟩
  exact ⟨_, operate_apply op deed s, undergo_noted (op s.devices).1.influence h⟩

theorem tell_noted (r : Rig τ ι δ σ) (level : EventLevel) (message : String) (s : Scene τ ι δ σ) :
    Noted (.told ⟨level, message⟩) s (tell r level message s).2 := by
  have h : Noted (.told ⟨level, message⟩) s { s with
      listener := (r.listener.hear ⟨level, message⟩ s.listener).2.2
      journal := ⟨.told ⟨level, message⟩, s.state⟩ :: s.journal } := ⟨rfl, rfl, rfl, id⟩
  exact undergo_noted _ h

theorem note_steady {d : Deed τ ι} (hd : p d) : Within (Steady p) (note d : Act τ ι δ σ Unit) :=
  fun s => (note_noted d s).steady hd

theorem undergo_steady (i : Influence) : Within (Steady p) (undergo i : Act τ ι δ σ Unit) := by
  refine Within.modify fun s => ?_
  refine ⟨⟨⟨[], rfl, by simp⟩, ?_, ?_⟩, ?_⟩
  · cases i.stop <;> rfl
  · cases i.stop with
    | false => exact id
    | true => exact fun _ => rfl
  · cases i.stop <;> rfl

theorem operate_steady {op : δ → Answer α × δ} {deed : Except DeviceFault α → Deed τ ι}
    (hd : ∀ x, p (deed x)) : Within (Steady p) (operate op deed : Act τ ι δ σ α) := by
  intro s
  obtain ⟨t, hop, ht⟩ := operate_noted op deed s
  rw [hop]
  exact ht.steady (hd _)

theorem stopAsked_apply (s : Scene τ ι δ σ) :
    stopAsked s = match s.state.poll s.files with
      | .error e => (.error (.file e), s)
      | .ok (state, files, _) => (.ok state.stopRequested, { s with state, files }) := by
  unfold stopAsked
  rw [bind_apply, get_apply]
  dsimp only
  cases s.state.poll s.files with
  | error e => rfl
  | ok x => rfl

theorem stopAsked_steady : Within (Steady p) (stopAsked : Act τ ι δ σ Bool) := by
  intro s
  rw [stopAsked_apply]
  cases h : s.state.poll s.files with
  | error e => exact Steady.refl p s
  | ok x =>
    obtain ⟨state, files, log⟩ := x
    rcases RunState.poll_state h with rfl | rfl
    · exact .of_eq rfl rfl
    · exact ⟨⟨⟨[], rfl, by simp⟩, rfl, fun _ => rfl⟩, rfl⟩

variable (idle : ∀ d : Deed τ ι, d.isIdle = true → p d)

include idle

theorem tell_steady (r : Rig τ ι δ σ) (level : EventLevel) (message : String) :
    Within (Steady p) (tell r level message) :=
  fun s => (tell_noted r level message s).steady (idle _ rfl)

omit idle in
theorem tell_ok (r : Rig τ ι δ σ) (level : EventLevel) (message : String) (s : Scene τ ι δ σ) :
    (tell r level message s).1 = .ok () := rfl

theorem sleep_steady (r : Rig τ ι δ σ) (length : τ) : Within (Steady p) (sleep r length) := by
  refine .bind .get fun s => ?_
  refine .bind (.modify fun t => .of_eq rfl rfl) fun _ => ?_
  exact .bind (note_steady (idle _ rfl)) fun _ => undergo_steady _

end Act

namespace Delay

section Within

variable {R : Scene τ ι δ σ → Scene τ ι δ σ → Prop} [IsPreorder (Scene τ ι δ σ) R]
variable {r : Rig τ ι δ σ} (poll : Within R (stopAsked : Act τ ι δ σ Bool))
variable (sleep : ∀ length, Within R (Act.sleep r length))

include poll sleep

theorem waitFrom_within (watched : Bool) (interval total abortAfter started : τ) (fuel : Nat) :
    Within R (waitFrom r watched interval total abortAfter started fuel) := by
  induction fuel with
  | zero => exact .pure _
  | succ fuel ih =>
    unfold waitFrom
    refine .bind (.bind .get fun _ => .pure _) fun now => ?_
    dsimp only
    refine .ite (.pure _) (.ite (.bind poll fun _ => .ite (.pure _) ?_) ?_)
    · exact .bind (sleep _) fun _ => ih
    · exact .bind (sleep _) fun _ => ih

/-- A pause does nothing but look for stops and sleep. -/
theorem pause_within (length : Value) : Within R (pause r length) := by
  have hreckoned : ∀ v, Within R (reckoned r v) := by
    intro v
    unfold reckoned
    split
    · exact .lift _ _
    · exact .throw _
  refine .discard ?_
  unfold wait
  refine .bind (.lift _ _) fun _ => .ite (.pure _) (.bind (.lift _ _) fun _ => ?_)
  refine .bind (hreckoned _) fun _ => .bind (hreckoned _) fun _ => .bind (hreckoned _) fun _ => ?_
  refine .bind (.bind .get fun _ => .pure _) fun _ => ?_
  exact waitFrom_within poll sleep _ _ _ _ _ _

end Within

theorem pause_steady (idle : ∀ d : Deed τ ι, d.isIdle = true → p d) (r : Rig τ ι δ σ)
    (length : Value) : Within (Steady p) (pause r length) :=
  pause_within stopAsked_steady (sleep_steady idle r) length

end Delay

namespace Step

theorem succeeded_steady (c : Capability) :
    Within (Steady p) (succeeded c : Act τ ι δ σ Unit) :=
  .modify fun _ => .of_eq rfl rfl

section Idle

variable (idle : ∀ d : Deed τ ι, d.isIdle = true → p d)

include idle

theorem failed_steady (r : Rig τ ι δ σ) (c : Capability) (n : Node) (text : String) :
    Within (Steady p) (failed r c n text) := by
  refine .bind .get fun s => .bind (.modify fun _ => .of_eq rfl rfl) fun _ => ?_
  refine .bind (tell_steady idle r _ _) fun _ => ?_
  exact .bind (.lift _ _) fun _ => .ite (.throw _) (.pure _)

/-- Whatever relation allows telling holds of a tried act as it does of the act itself. -/
theorem trying_within {R : Scene τ ι δ σ → Scene τ ι δ σ → Prop} [IsPreorder _ R]
    (hR : ∀ s t, Steady p s t → R s t) (r : Rig τ ι δ σ) (c : Capability) (n : Node)
    {a : Act τ ι δ σ α} (ha : Within R a) : Within R (trying r c n a) := by
  refine .bind (.outcome ha) fun x => ?_
  split
  · exact .bind ((succeeded_steady c).of_le hR) fun _ => .pure _
  · exact .throw _
  · exact .bind ((failed_steady idle r c n _).of_le hR) fun _ => .pure _

theorem examine_steady (r : Rig τ ι δ σ) (sought : List Spec) (sets : List (List Reading)) :
    Within (Steady p) (examine r sought sets) := by
  refine .bind (.lift _ _) fun lines => .bind (tell_steady idle r _ _) fun _ => ?_
  exact .bind (.lift _ _) fun _ => .bind (.lift _ _) fun _ => .pure _

theorem delay_steady (r : Rig τ ι δ σ) (n : Node) : Within (Steady p) (delay r n) := by
  refine .bind (.lift _ _) fun shown => .bind (tell_steady idle r _ _) fun _ => ?_
  exact .bind (Delay.pause_steady idle r _) fun _ => .pure _

end Idle

variable (look : ∀ d : Deed τ ι, d.isLook = true → p d)

include look

theorem capture_steady (r : Rig τ ι δ σ) (region : Region) :
    Within (Steady p) (capture r region) :=
  .bind (operate_steady fun _ => look _ rfl) fun _ => operate_steady fun _ => look _ rfl

theorem recognizeAll_steady (r : Rig τ ι δ σ) (images : List ι) :
    Within (Steady p) (recognizeAll r images) := by
  induction images with
  | nil => exact .pure _
  | cons image rest ih =>
    exact .bind (operate_steady fun _ => look _ rfl) fun _ => .bind ih fun _ => .pure _

theorem check_steady (idle : ∀ d : Deed τ ι, d.isIdle = true → p d) (r : Rig τ ι δ σ) (n : Node) :
    Within (Steady p) (check r n) := by
  refine .bind (.lift _ _) fun x => ?_
  refine .bind (trying_within idle (fun _ _ => id) r _ n (capture_steady look r _))
    fun images? => ?_
  cases images? with
  | none => exact .pure _
  | some images =>
    refine .bind (trying_within idle (fun _ _ => id) r _ n (recognizeAll_steady look r _))
      fun sets? => ?_
    cases sets? with
    | none => exact .pure _
    | some sets => exact examine_steady idle r _ _

omit look in
/-- The key plays no part in a right click. -/
theorem rightClick_steady (idle : ∀ d : Deed τ ι, d.isIdle = true → p d)
    (sent : ∀ x y worked, p (.clicked x y .right worked)) (r : Rig τ ι δ σ) (n : Node) :
    Within (Steady p) (click r n .right) := by
  have hsend : ∀ x shift, Within (Steady p) (sendClick r x shift .right) := by
    intro x shift
    unfold sendClick
    simp only [reduceCtorEq, ite_false]
    exact operate_steady fun _ => sent _ _ _
  refine .bind (.lift _ _) fun x => ?_
  refine .bind (trying_within idle (fun _ _ => id) r _ n (hsend _ _)) fun clicked => ?_
  exact .ite (.bind (Delay.pause_steady idle r _) fun _ => .pure _) (.pure _)

section Touch

variable (idle : ∀ d : Deed τ ι, d.isIdle = true → p d)
variable (touch : ∀ d : Deed τ ι, d.isTouch = true → p d)

omit look
include idle touch

theorem setKey_grows (r : Rig τ ι δ σ) (held : Bool) :
    Within (Grows fun e => p e.deed) (setKey r held) := by
  refine .bind .get fun s => .ite (.pure _) ?_
  refine .bind (.of_steady (operate_steady fun _ => touch _ rfl)) fun _ => ?_
  refine .bind (.modify fun t => ⟨⟨[], rfl, by simp⟩, rfl, id⟩) fun _ => ?_
  refine .bind (.of_steady (tell_steady idle r _ _)) fun _ => ?_
  exact .of_steady (Delay.pause_steady idle r _)

theorem releaseKey_grows (r : Rig τ ι δ σ) :
    Within (Grows fun e => p e.deed) (releaseKey r) := by
  refine .bind .get fun s => .ite (.bind (.outcome ?_) fun _ => ?_) (.pure _)
  · refine .bind (.of_steady (operate_steady fun _ => touch _ rfl)) fun _ => ?_
    exact .of_steady (tell_steady idle r _ _)
  · exact .modify fun t => ⟨⟨[], rfl, by simp⟩, rfl, id⟩

omit idle touch in
/-- A release never ends with a fault. -/
theorem releaseKey_ok (r : Rig τ ι δ σ) (s : Scene τ ι δ σ) : (releaseKey r s).1 = .ok () := by
  unfold releaseKey
  rw [bind_apply, get_apply]
  dsimp only
  split
  · rw [bind_apply, outcome_apply]
    rfl
  · rfl

theorem sendClick_grows (r : Rig τ ι δ σ) (x : Point) (shift : Bool) (b : Button) :
    Within (Grows fun e => p e.deed) (sendClick r x shift b) := by
  refine .ite (.bind (setKey_grows idle touch r _) fun _ => ?_) ?_
  · exact .of_steady (operate_steady fun _ => touch _ rfl)
  · exact .of_steady (operate_steady fun _ => touch _ rfl)

theorem click_grows (r : Rig τ ι δ σ) (n : Node) (b : Button) :
    Within (Grows fun e => p e.deed) (click r n b) := by
  refine .bind (.lift _ _) fun x => ?_
  refine .bind (trying_within idle (fun _ _ h => h.grows.mono fun _ he => he.1) r _ n
    (sendClick_grows idle touch r _ _ b)) fun clicked => ?_
  exact .ite (.bind (.of_steady (Delay.pause_steady idle r _)) fun _ => .pure _) (.pure _)

include look in
theorem execute_grows (r : Rig τ ι δ σ) (n : Node) :
    Within (Grows fun e => p e.deed) (execute r n) := by
  unfold execute
  split
  · exact .bind (.of_steady (tell_steady idle r _ _)) fun _ => click_grows idle touch r n _
  · exact .bind (.of_steady (tell_steady idle r _ _)) fun _ => click_grows idle touch r n _
  · exact .of_steady (.bind (tell_steady idle r _ _) fun _ => check_steady look idle r n)
  · exact .of_steady (.bind (tell_steady idle r _ _) fun _ => delay_steady idle r n)
  · exact .of_steady (.bind (tell_steady idle r _ _) fun _ => .pure _)

end Touch

omit look in
theorem execute_ofStep (r : Rig τ ι δ σ) (n : Node) :
    Within (Grows fun e => e.deed.isOfStep = true) (execute r n) :=
  execute_grows (p := fun d => d.isOfStep = true) (fun _ => Deed.isOfStep_of_look)
    (fun _ => Deed.isOfStep_of_idle) (fun _ => Deed.isOfStep_of_touch) r n

omit look in
theorem releaseKey_ofStep (r : Rig τ ι δ σ) :
    Within (Grows fun e => e.deed.isOfStep = true) (releaseKey r) :=
  releaseKey_grows (p := fun d => d.isOfStep = true) (fun _ => Deed.isOfStep_of_idle)
    (fun _ => Deed.isOfStep_of_touch) r

end Step

theorem Traversal.afterCheck_steady (idle : ∀ d : Deed τ ι, d.isIdle = true → p d)
    (r : Rig τ ι δ σ) (g : Graph) (n : Node) (o : StepOutcome) :
    Within (Steady p) (afterCheck r g n o) := by
  unfold afterCheck
  cases o.hit with
  | none => exact .pure _
  | some hit =>
    cases g.nextEdge? n.id (some Graph.onFound) with
    | none => exact .bind (tell_steady idle r _ _) fun _ => .pure _
    | some e => exact .ite (.pure _) (.pure _)

theorem Run.startDelay_steady (idle : ∀ d : Deed τ ι, d.isIdle = true → p d) (r : Rig τ ι δ σ)
    (plan : Plan) : Within (Steady p) (startDelay r plan) := by
  refine .bind (.lift _ _) fun _ => .ite (.bind (.lift _ _) fun length => ?_) (.pure _)
  exact .bind (tell_steady idle r _ _) fun _ => Delay.pause_steady idle r _

end Reroll
