import Reroll.Proofs.Run.Key

/-!
# The calls of the key

When no call of the key fails, none is stranded and the flag tells its position all the time. As
every call changes the position, they alternate (`Traced.alternates`), and as a run that starts
with the key up also ends with it up, the last one is a release (`run_alternates_key`).
-/

namespace Reroll

variable {τ ι δ σ α : Type}

open Scene Act

namespace Deed

/-- A call of the key that failed. -/
def isFailedCall : Deed τ ι → Bool
  | .keyed _ worked | .released worked => !worked
  | _ => false

/-- A call of the key. -/
def isCall : Deed τ ι → Bool
  | .keyed _ _ | .released _ => true
  | _ => false

end Deed

namespace Key

/-- The calls of the key, the first one first, each with the position it was to bring about. -/
def calls : List (Note τ ι) → List Bool
  | [] => []
  | e :: earlier =>
    match e.deed with
    | .keyed down _ => calls earlier ++ [down]
    | .released _ => calls earlier ++ [false]
    | _ => calls earlier

/-- So many times down and up again. -/
def strokes (count : Nat) : List Bool := (List.replicate count [true, false]).flatten

theorem strokes_succ (count : Nat) : strokes (count + 1) = strokes count ++ [true, false] := by
  unfold strokes
  rw [List.replicate_succ', List.flatten_append, List.flatten_singleton]

variable {start : Bool} {journal : List (Note τ ι)}

theorem Traced.tail {e : Note τ ι} (h : Traced start (e :: journal)) :
    Traced start journal ∧ Stood start journal e :=
  ⟨fun d earlier hd => h d earlier (hd.trans (List.suffix_cons e journal)),
    h e journal (List.suffix_refl _)⟩

theorem not_stranded (works : ∀ e ∈ journal, e.deed.isFailedCall = false) :
    stranded journal = false := by
  induction journal with
  | nil => rfl
  | cons e journal ih =>
    obtain ⟨d, state⟩ := e
    have hd : d.isFailedCall = false := works _ (List.mem_cons_self ..)
    have ih := ih fun e he => works e (List.mem_cons_of_mem _ he)
    cases d with
    | keyed down worked =>
      cases worked with
      | true => rfl
      | false => cases hd
    | released worked => exact hd
    | _ => exact ih

theorem Agrees.position_eq {held : Bool} (works : ∀ e ∈ journal, e.deed.isFailedCall = false)
    (h : Agrees start journal held) : Key.position start journal = held := by
  rw [h.position, not_stranded works, Bool.or_false]

theorem other_cons (start : Bool) (journal : List (Note τ ι)) {e : Note τ ι}
    (h : e.deed.isCall = false) :
    position start (e :: journal) = position start journal ∧
      calls (e :: journal) = calls journal := by
  obtain ⟨d, state⟩ := e
  cases d <;> first | exact ⟨rfl, rfl⟩ | cases h

/-- Every call changes the position of the key. -/
theorem Traced.call_flips {e : Note τ ι} (traced : Traced start (e :: journal))
    (works : ∀ d ∈ e :: journal, d.deed.isFailedCall = false) (h : e.deed.isCall = true) :
    position start (e :: journal) = (!position start journal) ∧
      calls (e :: journal) = calls journal ++ [position start (e :: journal)] := by
  obtain ⟨d, state⟩ := e
  have hd : d.isFailedCall = false := works _ (List.mem_cons_self ..)
  have earlier : ∀ e ∈ journal, e.deed.isFailedCall = false :=
    fun e he => works e (List.mem_cons_of_mem _ he)
  cases d with
  | keyed down worked =>
    obtain ⟨agrees, hheld, -⟩ := traced.tail.2.fits (by simp)
    have hposition := (agrees.position_eq earlier).trans hheld
    cases worked with
    | false => cases hd
    | true => exact ⟨by simp [position, hposition], rfl⟩
  | released worked =>
    obtain ⟨agrees, hheld⟩ := traced.tail.2.fits (by simp)
    have hposition := (agrees.position_eq earlier).trans hheld
    cases worked with
    | false => cases hd
    | true => exact ⟨by simp [position, hposition], rfl⟩
  | _ => cases h

/-- So the calls go down and up in turn, with a last one down when the key is down. -/
theorem Traced.alternates (traced : Traced false journal)
    (works : ∀ e ∈ journal, e.deed.isFailedCall = false) :
    ∃ count, calls journal = strokes count ++ if position false journal then [true] else [] := by
  induction journal with
  | nil => exact ⟨0, rfl⟩
  | cons e journal ih =>
    obtain ⟨count, ih⟩ := ih traced.tail.1 fun d hd => works d (List.mem_cons_of_mem _ hd)
    cases hcall : e.deed.isCall with
    | false =>
      obtain ⟨hposition, hcalls⟩ := other_cons false journal hcall
      exact ⟨count, by rw [hcalls, hposition, ih]⟩
    | true =>
      obtain ⟨hposition, hcalls⟩ := traced.call_flips works hcall
      cases hearlier : position false journal with
      | false => exact ⟨count, by simp [hcalls, hposition, ih, hearlier]⟩
      | true => exact ⟨count + 1, by simp [hcalls, hposition, ih, hearlier, strokes_succ]⟩

theorem calls_of_steady {s t : Scene τ ι δ σ} (h : Steady (fun d => d.isCall = false) s t) :
    calls t.journal = calls s.journal := by
  obtain ⟨new, hj, hnew⟩ := h.grows.journal
  rw [hj]
  clear hj
  induction new with
  | nil => rfl
  | cons e new ih =>
    have ih := ih fun d hd => hnew d (List.mem_cons_of_mem _ hd)
    exact (other_cons false _ (hnew e (List.mem_cons_self ..)).1).2.trans ih

/-- The step of a right click does not call the key. -/
theorem rightClick_calls {n : Node} (kind : n.kind = .rightClick) (r : Rig τ ι δ σ)
    (s : Scene τ ι δ σ) : calls (Step.execute r n s).2.journal = calls s.journal := by
  have idle : ∀ d : Deed τ ι, d.isIdle = true → d.isCall = false := by
    intro d hd
    cases d <;> first | rfl | cases hd
  have hsteady : Within (Steady fun d => d.isCall = false) (Step.execute r n) := by
    unfold Step.execute
    rw [kind]
    refine .bind (tell_steady idle r _ _) fun _ => ?_
    exact Step.rightClick_steady idle (fun _ _ _ => rfl) r n
  exact calls_of_steady (hsteady s)

/-- When the key is up at first and no call of it fails, a run calls it down and up in turn and has
it up in the end. It is up whenever an attempt begins, left clicks are sent with it where their
node asks for it, and between releases only the steps of left clicks call it. -/
theorem run_alternates_key (r : Rig τ ι δ σ) (p : Plan) (s : Scene τ ι δ σ)
    (up : s.state.held = false)
    (works : ∀ e ∈ (Run.run r p s).2.journal, e.deed.isFailedCall = false) :
    (∃ count, calls (Run.run r p s).2.journal = strokes count) ∧
    position false (Run.run r p s).2.journal = false ∧
    (∀ number resume state earlier,
      ⟨.attempted number resume, state⟩ :: earlier <:+ (Run.run r p s).2.journal →
      position false earlier = false) ∧
    (∀ x y worked state earlier,
      ⟨.clicked x y .left worked, state⟩ :: earlier <:+ (Run.run r p s).2.journal →
      ∃ n shift post, current earlier = some n ∧ n.kind = .leftClick ∧
        n.data = .click (some ⟨x, y⟩) shift post ∧ position false earlier = shift) ∧
    (∀ down worked state earlier,
      ⟨.keyed down worked, state⟩ :: earlier <:+ (Run.run r p s).2.journal →
      ∃ n, current earlier = some n ∧ n.kind = .leftClick) ∧
    ∀ n, n.kind = .rightClick → ∀ u : Scene τ ι δ σ,
      calls (Step.execute (Run.rigFor r p) n u).2.journal = calls u.journal := by
  obtain ⟨⟨traced, agrees⟩, rested⟩ := run_followed r p s
  rw [up] at traced agrees rested
  have hend : position false (Run.run r p s).2.journal = false := by
    rw [agrees.position_eq works]
    simpa using rested
  have earlier_works : ∀ {e earlier}, e :: earlier <:+ (Run.run r p s).2.journal →
      ∀ d ∈ earlier, d.deed.isFailedCall = false :=
    fun h d hd => works d (h.subset (List.mem_cons_of_mem _ hd))
  refine ⟨?_, hend, ?_, ?_, ?_, fun n kind => rightClick_calls kind _⟩
  · obtain ⟨count, hcalls⟩ := traced.alternates works
    exact ⟨count, by simpa [hend] using hcalls⟩
  · intro number resume state earlier h
    obtain ⟨hagrees, hheld⟩ := (traced _ _ h).fits (by simp)
    have hheld : state.held = true → false = true := hheld
    rw [hagrees.position_eq (earlier_works h)]
    simpa using hheld
  · intro x y worked state earlier h
    obtain ⟨hagrees, n, post, hn, hkind, hdata⟩ := (traced _ _ h).fits (by simp)
    exact ⟨n, state.held, post, hn, hkind, hdata, hagrees.position_eq (earlier_works h)⟩
  · intro down worked state earlier h
    obtain ⟨-, -, n, hn, hkind⟩ := (traced _ _ h).fits (by simp)
    exact ⟨n, hn, hkind⟩

/-- A right click, and a left one with the key, in each of two attempts. -/
def stroking : Plan :=
  Trial.plan
    [Trial.start,
      { id := "right", kind := .rightClick, data := .click (some ⟨.int 1, .int 2⟩) false (.int 0) },
      { id := "left", kind := .leftClick, data := .click (some ⟨.int 3, .int 4⟩) true (.int 0) },
      Trial.finish]
    [⟨Graph.startId, "right", none⟩, ⟨"right", "left", none⟩, ⟨"left", Graph.endId, none⟩] 2

/-- The journal of the two attempts on devices that always work. -/
def strokingJournal : List (Note Float String) :=
  (Run.run (Trial.rig {}) stroking Trial.scene).2.journal

theorem run_alternates_key_twice :
    Trial.scene.state.held = false ∧ (∀ e ∈ strokingJournal, e.deed.isFailedCall = false) ∧
    (∃ count, calls strokingJournal = strokes count) ∧ calls strokingJournal = strokes 2 := by
  have works : ∀ e ∈ strokingJournal, e.deed.isFailedCall = false := by decide +kernel
  obtain ⟨alternates, -⟩ := run_alternates_key (Trial.rig {}) stroking Trial.scene rfl works
  exact ⟨rfl, works, alternates, by decide +kernel⟩

end Key

end Reroll
