import Reroll.Proofs.Run.Stop
import Reroll.Proofs.Run.Twin

/-!
# Acts in pieces

An act hands over control while a device works and while it sleeps; whatever else is going on may
then change the scene. A strand is an act that has come to such a point, or to its end. Cutting an
act gives its strands (`Cut`): alone they come to what the act does, each piece leaves the running
flag as it is, and a piece that starts with a stop requested starts neither a node nor an attempt
(`Scene.Goes`).
-/

namespace Reroll

variable {τ ι δ σ α β : Type}

open Scene Act

/-! ### What a piece may do -/

namespace Scene

/-- A request for a stop stays, and under one nothing is started. -/
structure Heeds (s t : Scene τ ι δ σ) : Prop where
  stop : s.state.stopRequested = true → t.state.stopRequested = true
  starts : ∃ new, t.journal = new ++ s.journal ∧
    (s.state.stopRequested = true → ∀ e ∈ new, e.deed.isStart = false)

/-- Besides, whether a run is in progress stays as it is. -/
structure Goes (s t : Scene τ ι δ σ) : Prop extends Heeds s t where
  running : t.state.running = s.state.running

variable {s t u : Scene τ ι δ σ}

theorem Heeds.trans (h : Heeds s t) (k : Heeds t u) : Heeds s u := by
  obtain ⟨new, hnew, hplain⟩ := h.starts
  obtain ⟨more, hmore, hrest⟩ := k.starts
  refine ⟨k.stop ∘ h.stop, more ++ new, ?_, fun hs e he => ?_⟩
  · rw [hmore, hnew, List.append_assoc]
  · rcases List.mem_append.mp he with he | he
    · exact hrest (h.stop hs) e he
    · exact hplain hs e he

theorem Goes.refl (s : Scene τ ι δ σ) : Goes s s := ⟨⟨id, [], rfl, by simp⟩, rfl⟩

theorem Goes.trans (h : Goes s t) (k : Goes t u) : Goes s u :=
  ⟨h.toHeeds.trans k.toHeeds, k.running.trans h.running⟩

/-- Deeds that start nothing may be done at any time. -/
theorem Heeds.of_steady (h : Steady (fun d => d.isStart = false) s t) : Heeds s t := by
  obtain ⟨new, hnew, hplain⟩ := h.grows.journal
  exact ⟨h.grows.stop, new, hnew, fun _ e he => (hplain e he).1⟩

instance : IsPreorder (Scene τ ι δ σ) Heeds where
  refl s := (Goes.refl s).toHeeds
  trans _ _ _ := Heeds.trans

end Scene

/-! ### Strands -/

/-- An act as far as it has come: it is over, or it waits in a scene and goes on from the one that
it finds when it is resumed. -/
inductive Strand (τ ι δ σ α : Type) where
  | ended (x : Except Fault α) (s : Scene τ ι δ σ)
  | waiting (s : Scene τ ι δ σ) (resume : Scene τ ι δ σ → Strand τ ι δ σ α)

namespace Strand

/-- Goes on after a result. -/
def bind (f : α → Scene τ ι δ σ → Strand τ ι δ σ β) : Strand τ ι δ σ α → Strand τ ι δ σ β
  | ended (.ok v) s => f v s
  | ended (.error e) s => ended (.error e) s
  | waiting s resume => waiting s fun t => (resume t).bind f

/-- Takes a fault for a result. -/
def outcome : Strand τ ι δ σ α → Strand τ ι δ σ (Except Fault α)
  | ended x s => ended (.ok x) s
  | waiting s resume => waiting s fun t => (resume t).outcome

/-- What it comes to when nothing else happens while it waits. -/
def alone : Strand τ ι δ σ α → Except Fault α × Scene τ ι δ σ
  | ended x s => (x, s)
  | waiting s resume => (resume s).alone

/-- Each piece goes on from the scene in which it starts, and the last one leads on by `L`. -/
def Keeps (L : Scene τ ι δ σ → Scene τ ι δ σ → Prop) :
    Strand τ ι δ σ α → Scene τ ι δ σ → Prop
  | ended _ t, s => L s t
  | waiting t resume, s => Goes s t ∧ ∀ u, (resume u).Keeps L u

variable {L : Scene τ ι δ σ → Scene τ ι δ σ → Prop} {s t : Scene τ ι δ σ}

theorem alone_bind (x : Strand τ ι δ σ α) (f : α → Scene τ ι δ σ → Strand τ ι δ σ β) :
    (x.bind f).alone = match x.alone with
      | (.ok v, t) => (f v t).alone
      | (.error e, t) => (.error e, t) := by
  induction x with
  | ended x s =>
    cases x with
    | ok v => rfl
    | error e => rfl
  | waiting s resume ih => exact ih s

theorem alone_outcome (x : Strand τ ι δ σ α) : x.outcome.alone = (.ok x.alone.1, x.alone.2) := by
  induction x with
  | ended x s => rfl
  | waiting s resume ih => exact ih s

theorem Keeps.outcome {x : Strand τ ι δ σ α} (h : x.Keeps L s) : x.outcome.Keeps L s := by
  induction x generalizing s with
  | ended x t => exact h
  | waiting t resume ih => exact ⟨h.1, fun u => ih u (h.2 u)⟩

section After

variable (after : ∀ s t u, Goes s t → L t u → L s u)

include after

/-- A piece may have started earlier. -/
theorem Keeps.before {x : Strand τ ι δ σ α} (hst : Goes s t) (h : x.Keeps L t) : x.Keeps L s := by
  cases x with
  | ended x u => exact after s t u hst h
  | waiting u resume => exact ⟨hst.trans h.1, h.2⟩

theorem Keeps.bind (le : ∀ s t, Goes s t → L s t) {x : Strand τ ι δ σ α}
    {f : α → Scene τ ι δ σ → Strand τ ι δ σ β} (h : x.Keeps Goes s)
    (hf : ∀ v t, (f v t).Keeps L t) : (x.bind f).Keeps L s := by
  induction x generalizing s with
  | ended x t =>
    -- The last piece of `x` and the first one after it become one piece.
    cases x with
    | ok v => exact .before after h (hf v t)
    | error e => exact le s t h
  | waiting t resume ih => exact ⟨h.1, fun u => ih u (h.2 u)⟩

end After

end Strand

/-! ### Cutting acts -/

/-- No stop is requested. -/
def Scene.Clear (s : Scene τ ι δ σ) : Prop := s.state.stopRequested = false

/-- A way to cut an act at its waits. The first piece goes on as pieces do if it starts in a scene
of one kind. -/
structure Cut (P : Scene τ ι δ σ → Prop) (a : Act τ ι δ σ α) where
  strand : Scene τ ι δ σ → Strand τ ι δ σ α
  alone : ∀ s, (strand s).alone = a s
  keeps : ∀ s, P s → (strand s).Keeps Goes s

namespace Act

theorem undergo_running (i : Influence) :
    Within (Same fun s => s.state.running) (undergo i : Act τ ι δ σ Unit) := by
  refine .modify fun s => ?_
  cases i.stop <;> rfl

theorem operate_running (op : δ → Answer α × δ) (deed : Except DeviceFault α → Deed τ ι) :
    Within (Same fun s => s.state.running) (operate op deed : Act τ ι δ σ α) := by
  intro s
  rw [operate_apply]
  exact undergo_running _ _

theorem sleep_running (r : Rig τ ι δ σ) (length : τ) :
    Within (Same fun s => s.state.running) (sleep r length) :=
  .bind .get fun _ => .bind (.modify fun _ => rfl) fun _ =>
    .bind (.modify fun _ => rfl) fun _ => undergo_running _

theorem stopAsked_goes (s : Scene τ ι δ σ) : Goes s (stopAsked s).2 := by
  refine ⟨.of_steady (stopAsked_steady s), ?_⟩
  rw [stopAsked_apply]
  cases h : s.state.poll s.files with
  | error e => rfl
  | ok x =>
    obtain ⟨state, files, log⟩ := x
    rcases RunState.poll_state h with rfl | rfl
    · rfl
    · rfl

end Act

namespace Cut

variable {P : Scene τ ι δ σ → Prop}

/-- An act without waits is one piece. -/
def whole (a : Act τ ι δ σ α) (h : ∀ s, P s → Goes s (a s).2) : Cut P a where
  strand s := .ended (a s).1 (a s).2
  alone _ := rfl
  keeps := h

/-- Control is handed over when the act is done. -/
def pausing (a : Act τ ι δ σ α) (h : ∀ s, Goes s (a s).2) : Cut P a where
  strand s := .waiting (a s).2 fun t => .ended (a s).1 t
  alone _ := rfl
  keeps s _ := ⟨h s, Goes.refl⟩

/-- A cut for some scenes is one for fewer. -/
def when {Q : Scene τ ι δ σ → Prop} {a : Act τ ι δ σ α} (c : Cut P a) (h : ∀ s, Q s → P s) :
    Cut Q a where
  strand := c.strand
  alone := c.alone
  keeps s hs := c.keeps s (h s hs)

def any {a : Act τ ι δ σ α} (c : Cut (fun _ => True) a) : Cut P a := c.when fun _ _ => trivial

def bind {a : Act τ ι δ σ α} {f : α → Act τ ι δ σ β} (c : Cut P a)
    (d : ∀ v, Cut (fun _ => True) (f v)) : Cut P (a >>= f) where
  strand s := (c.strand s).bind fun v => (d v).strand
  alone s := by
    rw [Strand.alone_bind, c.alone, bind_apply]
    rcases a s with ⟨e | v, t⟩
    · rfl
    · exact (d v).alone t
  keeps s hs := .bind (L := Goes) (fun _ _ _ => Goes.trans) (fun _ _ => id) (c.keeps s hs)
    fun v t => (d v).keeps t trivial

/-- What the first piece makes sure of holds where it goes on. -/
def carry {Q : α → Scene τ ι δ σ → Prop} {a : Act τ ι δ σ α} {f : α → Act τ ι δ σ β}
    (goes : ∀ s, P s → Goes s (a s).2) (sure : ∀ s v t, P s → a s = (.ok v, t) → Q v t)
    (d : ∀ v, Cut (Q v) (f v)) : Cut P (a >>= f) where
  strand s := match a s with
    | (.ok v, t) => (d v).strand t
    | (.error e, t) => .ended (.error e) t
  alone s := by
    rw [bind_apply]
    rcases a s with ⟨e | v, t⟩
    · rfl
    · exact (d v).alone t
  keeps s hs := by
    have hgoes := goes s hs
    rcases h : a s with ⟨e | v, t⟩
    · rw [h] at hgoes
      exact hgoes
    · rw [h] at hgoes
      exact .before (L := Goes) (fun _ _ _ => Goes.trans) hgoes ((d v).keeps t (sure s v t hs h))

/-- What is looked up first changes nothing. -/
def peek {a : Act τ ι δ σ α} {f : α → Act τ ι δ σ β} (h : ∀ s, (a s).2 = s)
    (d : ∀ v, Cut P (f v)) : Cut P (a >>= f) :=
  carry (fun s _ => (h s).symm ▸ Goes.refl s)
    (fun s v t hs ht => by
      have hsame : t = s := (congrArg Prod.snd ht).symm.trans (h s)
      exact hsame ▸ hs) d

def ite {c : Prop} [Decidable c] {a b : Act τ ι δ σ α} (d : Cut P a) (e : Cut P b) :
    Cut P (if c then a else b) where
  strand s := if c then d.strand s else e.strand s
  alone s := by
    by_cases h : c
    · simp only [h, ite_true]
      exact d.alone s
    · simp only [h, ite_false]
      exact e.alone s
  keeps s hs := by
    by_cases h : c
    · simp only [h, ite_true]
      exact d.keeps s hs
    · simp only [h, ite_false]
      exact e.keeps s hs

def outcome {a : Act τ ι δ σ α} (c : Cut P a) : Cut P (outcome a) where
  strand s := (c.strand s).outcome
  alone s := by
    rw [Strand.alone_outcome, c.alone]
    rfl
  keeps s hs := (c.keeps s hs).outcome

def pure (v : α) : Cut P (pure v : Act τ ι δ σ α) := whole _ fun s _ => Goes.refl s

def throw (f : Fault) : Cut P (throw f : Act τ ι δ σ α) := whole _ fun s _ => Goes.refl s

def lift {ε : Type} (c : ε → Fault) (x : Except ε α) : Cut P (lift c x : Act τ ι δ σ α) :=
  whole _ fun s _ => Goes.refl s

def discard {a : Act τ ι δ σ α} (c : Cut P a) : Cut P (discard a) := c.bind fun _ => .pure _

def followedBy {a : Act τ ι δ σ α} {b : Act τ ι δ σ Unit} (c : Cut P a)
    (d : Cut (fun _ => True) b) : Cut P (a.followedBy b) :=
  c.outcome.bind fun x => d.bind fun _ =>
    match x with
    | .ok v => .pure v
    | .error f => .throw f

/-- A deed that starts nothing. -/
def note (d : Deed τ ι) (h : d.isStart = false) : Cut P (note d : Act τ ι δ σ Unit) :=
  whole _ fun s _ => ⟨.of_steady (note_steady h s), rfl⟩

/-- A change of the scene that neither the journal nor a request for a stop notices. -/
def modify (f : Scene τ ι δ σ → Scene τ ι δ σ) (journal : ∀ s, (f s).journal = s.journal)
    (stop : ∀ s, (f s).state.stopRequested = s.state.stopRequested)
    (running : ∀ s, (f s).state.running = s.state.running) :
    Cut P (modify f : Act τ ι δ σ PUnit) :=
  whole _ fun s _ => ⟨⟨(stop s).trans, [], journal s, by simp⟩, running s⟩

def tell (r : Rig τ ι δ σ) (level : EventLevel) (message : String) : Cut P (tell r level message) :=
  whole _ fun s _ =>
    ⟨.of_steady (tell_steady (fun _ => Deed.not_start_of_idle) r level message s),
      tell_running r level message s⟩

def operate (op : δ → Answer α × δ) (deed : Except DeviceFault α → Deed τ ι)
    (h : ∀ x, (deed x).isStart = false) : Cut P (operate op deed : Act τ ι δ σ α) :=
  pausing _ fun s => ⟨.of_steady (operate_steady h s), operate_running op deed s⟩

def sleep (r : Rig τ ι δ σ) (length : τ) : Cut P (sleep r length) :=
  pausing _ fun s =>
    ⟨.of_steady (sleep_steady (fun _ => Deed.not_start_of_idle) r length s),
      sleep_running r length s⟩

/-- After a look that saw no stop none is requested. -/
def asking {a b : Act τ ι δ σ α} (c : Cut (fun _ => True) a) (d : Cut Clear b) :
    Cut P (stopAsked >>= fun asked => if asked = true then a else b) :=
  carry (Q := fun asked t => asked = false → Clear t) (fun s _ => stopAsked_goes s)
    (fun s asked t _ ht hnone => by
      have hclear := stopAsked_clear ht (by simp [hnone])
      exact Bool.eq_false_iff.mpr fun hstop => hclear (.inl hstop))
    fun asked =>
      match asked with
      | true => c.any
      | false => d.when fun _ h => h rfl

end Cut

/-- A cut of an act whatever the scene. -/
abbrev Cuts (a : Act τ ι δ σ α) : Type := Cut (fun _ => True) a

/-! ### Delays -/

namespace Delay

variable (r : Rig τ ι δ σ)

def cutWaitFrom (watched : Bool) (poll total abortAfter started : τ) :
    ∀ fuel, Cuts (waitFrom r watched poll total abortAfter started fuel)
  | 0 => .pure _
  | fuel + 1 =>
    .peek (fun _ => rfl) fun _ =>
      let rest := (Cut.sleep r _).bind fun _ =>
        cutWaitFrom watched poll total abortAfter started fuel
      .ite (.pure _) (.ite (.asking (.pure _) rest.any) rest)

theorem reckoned_scene (v : Value) (s : Scene τ ι δ σ) : (reckoned r v s).2 = s := by
  unfold reckoned
  cases v.number? with
  | none => rfl
  | some n => rfl

def cutPause (length : Value) : Cuts (pause r length) :=
  .discard (.peek (fun _ => rfl) fun _ => .ite (.pure _) (.peek (fun _ => rfl) fun _ =>
    .peek (reckoned_scene r _) fun _ => .peek (reckoned_scene r _) fun _ =>
      .peek (reckoned_scene r _) fun _ => .peek (fun _ => rfl) fun _ =>
        cutWaitFrom r _ _ _ _ _ _))

end Delay

/-! ### Steps -/

namespace Step

variable (r : Rig τ ι δ σ)

def cutFailed (c : Capability) (n : Node) (text : String) : Cuts (failed r c n text) :=
  .peek (fun _ => rfl) fun _ =>
    .bind (.modify _ (fun _ => rfl) (fun _ => rfl) fun _ => rfl) fun _ =>
      .bind (.tell r _ _) fun _ => .bind (.lift _ _) fun _ => .ite (.throw _) (.pure _)

def cutTrying (c : Capability) (n : Node) {a : Act τ ι δ σ α} (d : Cuts a) :
    Cuts (trying r c n a) :=
  .bind d.outcome fun x =>
    match x with
    | .ok _ =>
      .bind (.modify _ (fun _ => rfl) (fun _ => rfl) fun _ => rfl) fun _ => .pure _
    | .error (.unavailable _) => .throw _
    | .error (.step _ _) | .error (.failed _ _) | .error (.reading _) | .error (.number _)
    | .error (.operand _) | .error (.shape _) | .error (.file _) =>
      .bind (cutFailed r c n _) fun _ => .pure _

def cutSetKey (held : Bool) : Cuts (setKey r held) :=
  .peek (fun _ => rfl) fun _ => .ite (.pure _) (.bind (.operate _ _ fun _ => rfl) fun _ =>
    .bind (.modify _ (fun _ => rfl) (fun _ => rfl) fun _ => rfl) fun _ =>
      .bind (.tell r _ _) fun _ => Delay.cutPause r _)

def cutReleaseKey : Cuts (releaseKey r) :=
  .peek (fun _ => rfl) fun _ => .ite
    (.bind (.outcome (.bind (.operate _ _ fun _ => rfl) fun _ => .tell r _ _)) fun _ =>
      .modify _ (fun _ => rfl) (fun _ => rfl) fun _ => rfl)
    (.pure _)

def cutSendClick (p : Point) (shift : Bool) (b : Button) : Cuts (sendClick r p shift b) :=
  .ite (.bind (cutSetKey r shift) fun _ => .operate _ _ fun _ => rfl) (.operate _ _ fun _ => rfl)

def cutClick (n : Node) (b : Button) : Cuts (click r n b) :=
  .bind (.lift _ _) fun _ => .bind (cutTrying r _ n (cutSendClick r _ _ b)) fun _ =>
    .ite (.bind (Delay.cutPause r _) fun _ => .pure _) (.pure _)

def cutRecognizeAll : ∀ images, Cuts (recognizeAll r images)
  | [] => .pure _
  | _ :: rest => .bind (.operate _ _ fun _ => rfl) fun _ =>
    .bind (cutRecognizeAll rest) fun _ => .pure _

def cutExamine (sought : List Spec) (sets : List (List Reading)) : Cuts (examine r sought sets) :=
  .bind (.lift _ _) fun _ => .bind (.tell r _ _) fun _ => .bind (.lift _ _) fun _ =>
    .bind (.lift _ _) fun _ => .pure _

def cutCheck (n : Node) : Cuts (check r n) :=
  .bind (.lift _ _) fun _ =>
    .bind (cutTrying r _ n
      (.bind (.operate _ _ fun _ => rfl) fun _ => .operate _ _ fun _ => rfl)) fun images? =>
      match images? with
      | none => .pure _
      | some _ => .bind (cutTrying r _ n (cutRecognizeAll r _)) fun sets? =>
        match sets? with
        | none => .pure _
        | some _ => cutExamine r _ _

def cutDelay (n : Node) : Cuts (delay r n) :=
  .bind (.lift _ _) fun _ => .bind (.tell r _ _) fun _ =>
    .bind (Delay.cutPause r _) fun _ => .pure _

def cutExecute (n : Node) : Cuts (execute r n) :=
  match n with
  | ⟨_, .leftClick, _, _⟩ => .bind (.tell r _ _) fun _ => cutClick r _ _
  | ⟨_, .rightClick, _, _⟩ => .bind (.tell r _ _) fun _ => cutClick r _ _
  | ⟨_, .check, _, _⟩ => .bind (.tell r _ _) fun _ => cutCheck r _
  | ⟨_, .delay, _, _⟩ => .bind (.tell r _ _) fun _ => cutDelay r _
  | ⟨_, .start, _, _⟩ | ⟨_, .finish, _, _⟩ | ⟨_, .other _, _, _⟩ =>
    .bind (.tell r _ _) fun _ => .pure _

end Step

/-! ### Traversals and runs -/

/-- What starts something is done where no stop is requested. -/
def Cut.start (d : Deed τ ι) : Cut Clear (Act.note d : Act τ ι δ σ Unit) :=
  .whole _ fun s hs => ⟨⟨id, [⟨d, s.state⟩], rfl, fun hstop => by
    rw [hs] at hstop
    cases hstop⟩, rfl⟩

namespace Traversal

variable (r : Rig τ ι δ σ) (g : Graph)

def cutAfterCheck (n : Node) (o : StepOutcome) : Cuts (afterCheck r g n o) := by
  unfold afterCheck
  cases o.hit with
  | none => exact .pure _
  | some hit =>
    cases g.nextEdge? n.id (some Graph.onFound) with
    | none => exact .bind (.tell r _ _) fun _ => .pure _
    | some e => exact .ite (.pure _) (.pure _)

def cutAdvance (n : Node) : Cut Clear (advance r g n) :=
  .bind (.start _) fun _ =>
    match n with
    | ⟨_, .start, _, _⟩ => .pure _
    | ⟨_, .check, _, _⟩ => .bind (Step.cutExecute r _) fun o => .bind (.note _ rfl) fun _ =>
      cutAfterCheck r g _ o
    | ⟨_, .leftClick, _, _⟩ | ⟨_, .rightClick, _, _⟩ | ⟨_, .delay, _, _⟩ | ⟨_, .finish, _, _⟩
    | ⟨_, .other _, _, _⟩ => .bind (Step.cutExecute r _).discard fun _ => .pure _

def cutWalk (visited : List String) (id : String) :
    ∀ fuel, Cuts (walk r g visited id fuel)
  | 0 => .pure _
  | fuel + 1 => by
    refine .asking (.pure _) ?_
    cases g.node? id with
    | none => exact .bind (.tell r _ _) fun _ => .pure _
    | some n =>
      refine .ite (.pure _) (.bind (cutAdvance r g n) fun turn => ?_)
      match turn with
      | .found hit => exact .pure _
      | .next none => exact .pure _
      | .next (some id) => exact .ite (.pure _) (cutWalk (n.id :: visited) id fuel)

def cutRun (start : Option String) : Cuts (Traversal.run r g start) := cutWalk r g [] _ _

end Traversal

namespace Run

variable (r : Rig τ ι δ σ) (p : Plan)

def cutCountAttempt (resume : Option String) : Cut Clear (countAttempt r p resume) :=
  .peek (fun _ => rfl) fun _ =>
    .carry (fun _ _ => ⟨⟨id, [], rfl, by simp⟩, rfl⟩) (fun _ _ _ hs ht => by cases ht; exact hs)
      fun _ => .bind (.start _) fun _ => .ite (.bind (.lift _ _) fun _ => .tell r _ _) (.pure _)

def cutAttempt (resume : Option String) : Cut Clear (attempt r p resume) :=
  .bind (cutCountAttempt r p resume) fun _ =>
    .followedBy (Traversal.cutRun r p.graph resume) (Step.cutReleaseKey r)

def cutAttemptFrom : ∀ resume fuel, Cuts (attemptFrom r p resume fuel)
  | _, 0 => .pure _
  | resume, fuel + 1 =>
    .asking (.pure _) (.peek (fun _ => rfl) fun _ => .peek (fun _ => rfl) fun _ =>
      .ite (.pure _) (.bind (cutAttempt r p resume) fun traversal =>
        match traversal with
        | .found _ => .pure _
        | .stopped => .pure _
        | .resumed id => cutAttemptFrom (some id) fuel
        | .ended => cutAttemptFrom none fuel))

def cutStartDelay : Cuts (startDelay r p) :=
  .bind (.lift _ _) fun _ => .ite
    (.bind (.lift _ _) fun _ => .bind (.tell r _ _) fun _ => Delay.cutPause r _) (.pure _)

def cutAttempts : Cuts (attempts r p) :=
  .bind (cutStartDelay r p) fun _ => cutAttemptFrom r p none _

def cutGuarded : Cuts (guarded r p) :=
  .bind (cutAttempts r p).outcome fun x =>
    match x with
    | .ok _ => .pure _
    | .error _ => .bind (.tell r _ _) fun _ => .pure _

/-- The attempts of a run and the release of the key after them. -/
def body : Act τ ι δ σ RunOutcome := do
  let outcome ← guarded r p
  Step.releaseKey r
  return outcome

def cutBody : Cuts (body r p) :=
  .bind (cutGuarded r p) fun _ => .bind (Step.cutReleaseKey r) fun _ => .pure _

/-- The end of a run, at which no run is in progress any more. -/
def conclude (started : τ) (outcome : RunOutcome) : Act τ ι δ σ RunResult := do
  modify fun s => { s with state := s.state.finish }
  let ended ← Act.now r
  let attempts := (← get).state.attempts
  announce r attempts outcome
  let duration := r.devices.time.millis (r.devices.time.minus ended started)
  return { outcome, attempts, duration }

/-- A run from where it has begun. -/
def strandFrom (started : τ) (s : Scene τ ι δ σ) : Strand τ ι δ σ RunResult :=
  ((cutBody r p).strand s).bind fun outcome t =>
    .ended (conclude r started outcome t).1 (conclude r started outcome t).2

/-- A run whose graph has no problems. -/
def strand (s : Scene τ ι δ σ) : Strand τ ι δ σ RunResult :=
  match begin p s with
  | (.ok _, t) => strandFrom r p (r.devices.now s.devices) t
  | (.error e, t) => .ended (.error e) t

theorem closing_body (started : τ) : closing r p started = body r p >>= conclude r started := by
  unfold body
  simp only [bind_assoc, pure_bind]
  rfl

theorem strandFrom_alone (started : τ) (s : Scene τ ι δ σ) :
    (strandFrom r p started s).alone = closing r p started s := by
  unfold strandFrom
  rw [Strand.alone_bind, (cutBody r p).alone, closing_body, bind_apply]
  rfl

/-- Alone, the strand of a run is the run. -/
theorem strand_alone (s : Scene τ ι δ σ) : (strand r p s).alone = runValid r p s := by
  rw [runValid_closing, bind_apply, now_apply]
  dsimp only
  rw [bind_apply]
  unfold strand
  rcases begin p s with ⟨e | v, t⟩
  · rfl
  · exact strandFrom_alone r p _ t

theorem conclude_heeds (started : τ) (outcome : RunOutcome) (s : Scene τ ι δ σ) :
    Heeds s (conclude r started outcome s).2 := by
  have hannounce : ∀ attempts, Within Heeds (announce r attempts outcome) := fun attempts =>
    (announce_steady (fun _ => Deed.not_start_of_idle) r attempts outcome).of_le fun _ _ =>
      .of_steady
  have hfinish : ∀ s : Scene τ ι δ σ, Heeds s { s with state := s.state.finish } := fun s =>
    ⟨id, [], rfl, by simp⟩
  have hconclude : Within Heeds (conclude r started outcome) :=
    .bind (.modify hfinish) fun _ => .bind (.bind .get fun _ => .pure _) fun _ =>
      .bind .get fun _ => .bind (hannounce _) fun _ => .pure _
  exact hconclude s

theorem strandFrom_keeps (started : τ) (s : Scene τ ι δ σ) :
    (strandFrom r p started s).Keeps Heeds s :=
  .bind (L := Heeds) (fun _ _ _ h k => h.toHeeds.trans k) (fun _ _ h => h.toHeeds)
    ((cutBody r p).keeps s trivial) fun outcome t => conclude_heeds r started outcome t

theorem begin_running (s : Scene τ ι δ σ) : (begin p s).2.state.running = true := by
  rw [begin_apply]
  cases s.state.begin.clearSignal s.files with
  | error e => rfl
  | ok x => rfl

/-- A run that waits is in progress. -/
theorem strand_waiting {s t : Scene τ ι δ σ}
    {resume : Scene τ ι δ σ → Strand τ ι δ σ RunResult} (h : strand r p s = .waiting t resume) :
    t.state.running = true ∧ ∀ u, (resume u).Keeps Heeds u := by
  have hrunning := begin_running p s
  unfold strand at h
  rcases hbegin : begin p s with ⟨e | v, b⟩
  · rw [hbegin] at h
    cases h
  · rw [hbegin] at h hrunning
    have hkeeps := strandFrom_keeps r p (r.devices.now s.devices) b
    rw [show strandFrom r p (r.devices.now s.devices) b = .waiting t resume from h] at hkeeps
    exact ⟨hkeeps.1.running.trans hrunning, hkeeps.2⟩

end Run

end Reroll
