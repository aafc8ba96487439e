import Reroll.Proofs.Run.Strand
import Reroll.Run.Crafter

/-!
# Calls that share a crafter

Several calls may ask one crafter for a run. They take turns: a call goes on from where it waits
until it waits again, and what it finds is what the others left. A call that comes while a run is in
progress is turned down; one that has to download the known modifiers looks for a run in progress
before that and begins its own afterwards, without another look. By itself a call comes to what the
crafter does (`after_single`).
-/

namespace Reroll

variable {τ ι δ σ : Type}

open Scene Act

/-! ### Catalogs before a download -/

namespace Catalog

/-- What can be told of a catalog at once: it is in the cache file, or it has to be downloaded, and
may have to be kept there. -/
inductive Cache where
  | holds (c : Catalog)
  | misses (keep : Option Path)

/-- A look at the cache file. -/
def lookUp (s : Settings) (files : Files) : Except LoadError Cache :=
  match s.catalogCache.pathText? with
  | .error e => .error (.shape e)
  | .ok none => .ok (.misses none)
  | .ok (some t) =>
    let p := Path.ofText t
    match files.isPresent p with
    | .error e => .error (.file e)
    | .ok false => .ok (.misses (some p))
    | .ok true =>
      match ofFile s.catalogGroup files p with
      | .ok c => .ok (.holds c)
      | .error e => if e.isExpected then .ok (.misses (some p)) else .error (.source e)

/-- What is told to the operator aside, a catalog is loaded by a look at the cache file and, if need
be, a download. -/
theorem load_lookUp (s : Settings) (replies : Nat → Http.Reply) (made : Nat) (files : Files) :
    ∃ log, load s replies made files = match lookUp s files with
      | .error e => ⟨.error e, files, [], log⟩
      | .ok (.holds c) => ⟨.ok c, files, [], log⟩
      | .ok (.misses keep) => refresh s replies made files keep log := by
  unfold load lookUp
  cases s.catalogCache.pathText? with
  | error e => exact ⟨[], rfl⟩
  | ok text? =>
    cases text? with
    | none => exact ⟨[], rfl⟩
    | some t =>
      dsimp only
      cases files.isPresent (Path.ofText t) with
      | error e => exact ⟨[], rfl⟩
      | ok present =>
        cases present with
        | false => exact ⟨[], rfl⟩
        | true =>
          dsimp only
          cases ofFile s.catalogGroup files (Path.ofText t) with
          | ok c => exact ⟨[], rfl⟩
          | error e =>
            cases he : e.isExpected with
            | true =>
              refine ⟨[⟨.warning, "ignoring known-mod cache: " ++ e.message⟩], ?_⟩
              simp only [he, ite_true]
            | false =>
              refine ⟨[], ?_⟩
              simp only [he, Bool.false_eq_true, ite_false]

/-- What the operator was told before a download makes no difference to it. -/
theorem refresh_log (s : Settings) (replies : Nat → Http.Reply) (made : Nat) (files : Files)
    (keep : Option Path) (log : List LogRecord) :
    ∃ told, refresh s replies made files keep log =
      { refresh s replies made files keep [] with log := told } := by
  unfold refresh
  dsimp only
  cases (fetch replies made s.catalogUrl s.catalogGroup).catalog with
  | error e => exact ⟨_, rfl⟩
  | ok c =>
    cases keep with
    | none => exact ⟨_, rfl⟩
    | some p =>
      dsimp only
      cases c.families.isEmpty with
      | true => exact ⟨_, rfl⟩
      | false =>
        cases c.save files p with
        | error e => exact ⟨_, rfl⟩
        | ok files => exact ⟨_, rfl⟩

end Catalog

/-! ### Calls -/

/-- A call for a run, as far as it has come: it waits for the download, it waits within its run, or
it is over. Failures in a row and the journal are a run's own. -/
inductive Call (τ ι δ σ : Type) where
  | fetching (p : Plan) (keep : Option Path)
  | inside (failures : Failures) (journal : List (Note τ ι))
      (resume : Scene τ ι δ σ → Strand τ ι δ σ RunResult)
  | ended (journal : List (Note τ ι)) (result : Except Refusal RunResult)

namespace Call

/-- The call waits between the beginning and the end of its run. -/
def isInside : Call τ ι δ σ → Bool
  | .inside _ _ _ => true
  | _ => false

/-- The call waits for the download. -/
def isFetching : Call τ ι δ σ → Bool
  | .fetching _ _ => true
  | _ => false

/-- What the run of the call has done so far. -/
def journal : Call τ ι δ σ → List (Note τ ι)
  | .fetching _ _ => []
  | .inside _ journal _ => journal
  | .ended journal _ => journal

/-- A call whose run has come so far, and the scene that it leaves. -/
def ofStrand : Strand τ ι δ σ RunResult → Call τ ι δ σ × Scene τ ι δ σ
  | .ended x s => (.ended s.journal ((x.mapError .fault).mapError .run), s)
  | .waiting s resume => (.inside s.failures s.journal resume, s)

/-- A call that is within its run keeps it in progress, and will heed a stop whatever it finds when
it goes on. -/
def Sits (s : Session τ ι δ σ) : Call τ ι δ σ → Prop
  | .inside _ _ resume => s.scene.state.running = true ∧ ∀ u, (resume u).Keeps Heeds u
  | _ => True

theorem ofStrand_begun (x : Strand τ ι δ σ RunResult) : (ofStrand x).1.isFetching = false := by
  cases x with
  | ended x t => rfl
  | waiting t resume => rfl

theorem Sits.of_not_inside {call : Call τ ι δ σ} (h : call.isInside = false)
    (s : Session τ ι δ σ) : call.Sits s := by
  cases call with
  | fetching p keep => trivial
  | inside failures journal resume => cases h
  | ended journal result => trivial

theorem not_fetching_of_inside {call : Call τ ι δ σ} (h : call.isInside = true) :
    call.isFetching = false := by
  cases call with
  | fetching p keep => cases h
  | inside failures journal resume => rfl
  | ended journal result => cases h

end Call

namespace Crafter

/-- The call begins its run. -/
def start (c : Crafter τ ι δ σ) (p : Plan) (s : Session τ ι δ σ) :
    Call τ ι δ σ × Session τ ι δ σ :=
  let scene := { s.scene with journal := [] }
  match p.graph.problems with
  | [] =>
    let (call, scene) := Call.ofStrand (Run.strand (Run.rigFor c.rig p) p scene)
    (call, { s with scene })
  | problems => (.ended [] (.error (.run (.graph problems))), { s with scene })

/-- The call begins its run with the known modifiers that were loaded, if they were. -/
def startWith (c : Crafter τ ι δ σ) (p : Plan) (known : Except Catalog.LoadError Catalog)
    (s : Session τ ι δ σ) : Call τ ι δ σ × Session τ ι δ σ :=
  match known with
  | .error e => (.ended [] (.error (.catalog e)), s)
  | .ok known => c.start { p with known := some known } s

/-- The known modifiers are downloaded. -/
def download (c : Crafter τ ι δ σ) (keep : Option Path) (s : Session τ ι δ σ) :
    Except Catalog.LoadError Catalog × Session τ ι δ σ :=
  let l := Catalog.refresh c.rig.settings c.replies s.requests s.scene.files keep []
  (l.catalog,
    { scene := { s.scene with files := l.files }, requests := s.requests + l.requests.length })

/-- A call comes. -/
def call (c : Crafter τ ι δ σ) (p : Plan) (s : Session τ ι δ σ) :
    Call τ ι δ σ × Session τ ι δ σ :=
  if s.scene.state.running then (.ended [] (.error .busy), s)
  else if p.known.isNone && c.fetches then
    match Catalog.lookUp c.rig.settings s.scene.files with
    | .error e => c.startWith p (.error e) s
    | .ok (.holds known) => c.startWith p (.ok known) s
    | .ok (.misses keep) => (.fetching p keep, s)
  else c.start p s

/-- A call goes on. -/
def resume (c : Crafter τ ι δ σ) (s : Session τ ι δ σ) :
    Call τ ι δ σ → Call τ ι δ σ × Session τ ι δ σ
  | .fetching p keep =>
    let (known, s) := c.download keep s
    c.startWith p known s
  | .inside failures journal resume =>
    let (call, scene) := Call.ofStrand (resume { s.scene with failures, journal })
    (call, { s with scene })
  | .ended journal result => (.ended journal result, s)

variable {c : Crafter τ ι δ σ} {p : Plan} {s : Session τ ι δ σ}

theorem call_busy (running : s.scene.state.running = true) :
    c.call p s = (.ended [] (.error .busy), s) := by
  unfold call
  rw [if_pos running]

theorem start_begun (c : Crafter τ ι δ σ) (p : Plan) (s : Session τ ι δ σ) :
    (c.start p s).1.isFetching = false := by
  unfold start
  split
  · exact Call.ofStrand_begun _
  · rfl

/-- Where nothing is to be downloaded a call never waits for a download. -/
theorem call_begun (known : (p.known.isNone && c.fetches) = false) (s : Session τ ι δ σ) :
    (c.call p s).1.isFetching = false := by
  unfold call
  rw [known]
  split
  · rfl
  · exact start_begun c p s

theorem resume_begun {call : Call τ ι δ σ} (h : call.isFetching = false) (s : Session τ ι δ σ) :
    (c.resume s call).1.isFetching = false := by
  cases call with
  | fetching p keep => cases h
  | inside failures journal resume => exact Call.ofStrand_begun _
  | ended journal result => rfl

theorem start_sits (c : Crafter τ ι δ σ) (p : Plan) (s : Session τ ι δ σ) :
    (c.start p s).1.Sits (c.start p s).2 := by
  unfold start
  split
  · dsimp only
    cases h : Run.strand (Run.rigFor c.rig p) p { s.scene with journal := [] } with
    | ended x t => trivial
    | waiting t resume => exact Run.strand_waiting _ _ h
  · trivial

theorem startWith_sits (c : Crafter τ ι δ σ) (p : Plan) (known : Except Catalog.LoadError Catalog)
    (s : Session τ ι δ σ) : (c.startWith p known s).1.Sits (c.startWith p known s).2 := by
  cases known with
  | error e => trivial
  | ok known => exact start_sits c _ s

theorem call_sits (c : Crafter τ ι δ σ) (p : Plan) (s : Session τ ι δ σ) :
    (c.call p s).1.Sits (c.call p s).2 := by
  unfold call
  split
  · trivial
  split
  · split
    · exact startWith_sits c p _ s
    · exact startWith_sits c p _ s
    · trivial
  · exact start_sits c p s

theorem resume_sits {call : Call τ ι δ σ} (h : call.Sits s) :
    (c.resume s call).1.Sits (c.resume s call).2 := by
  cases call with
  | fetching p keep => exact startWith_sits c p _ _
  | ended journal result => trivial
  | inside failures journal resume =>
    have hkeeps := h.2 { s.scene with failures, journal }
    unfold Crafter.resume
    dsimp only
    cases hstrand : resume { s.scene with failures, journal } with
    | ended x t => trivial
    | waiting t rest =>
      rw [hstrand] at hkeeps
      exact ⟨hkeeps.1.running.trans h.1, hkeeps.2⟩

/-- A call that goes on within its run when a stop is requested starts nothing, and the request
stays. -/
theorem resume_halts {call : Call τ ι δ σ} (h : call.Sits s) (begun : call.isFetching = false)
    (asked : call.isInside = true → s.scene.state.stopRequested = true) :
    ∃ new, (c.resume s call).1.journal = new ++ call.journal ∧
      (∀ e ∈ new, e.deed.isStart = false) ∧
      ((c.resume s call).1.isInside = true →
        (c.resume s call).2.scene.state.stopRequested = true) := by
  cases call with
  | fetching p keep => cases begun
  | ended journal result =>
    refine ⟨[], rfl, by simp, ?_⟩
    rintro ⟨⟩
  | inside failures journal resume =>
    have hkeeps := h.2 { s.scene with failures, journal }
    unfold Crafter.resume
    dsimp only
    cases hstrand : resume { s.scene with failures, journal } with
    | ended x t =>
      rw [hstrand] at hkeeps
      obtain ⟨new, hnew, hplain⟩ := hkeeps.starts
      exact ⟨new, hnew, hplain (asked rfl), fun _ => hkeeps.stop (asked rfl)⟩
    | waiting t rest =>
      rw [hstrand] at hkeeps
      obtain ⟨new, hnew, hplain⟩ := hkeeps.1.starts
      exact ⟨new, hnew, hplain (asked rfl), fun _ => hkeeps.1.stop (asked rfl)⟩

end Crafter

/-! ### Turns -/

/-- A session and the calls that have come, in order. -/
structure Roster (τ ι δ σ : Type) where
  session : Session τ ι δ σ
  calls : List (Call τ ι δ σ) := []

namespace Roster

/-- Whose turn it is: a call comes, a call that waits goes on, or something happens from outside. -/
inductive Turn (δ : Type) where
  | arrive (p : Plan)
  | resume (i : ℕ)
  | outside (i : Influence) (devices : δ → δ)

/-- Something happens to the state, the files and the devices of a session. -/
def disturb (i : Influence) (devices : δ → δ) (s : Session τ ι δ σ) : Session τ ι δ σ :=
  let scene := (undergo i s.scene).2
  { s with scene := { scene with devices := devices scene.devices } }

theorem disturb_stop {i : Influence} (h : i.stop = true) (devices : δ → δ)
    (s : Session τ ι δ σ) : (disturb i devices s).scene.state.stopRequested = true := by
  change (if i.stop then s.scene.state.requestStop else s.scene.state).stopRequested = true
  rw [h]
  rfl

variable (c : Crafter τ ι δ σ)

/-- What is done at a turn. -/
def step (ro : Roster τ ι δ σ) : Turn δ → Roster τ ι δ σ
  | .arrive p => ⟨(c.call p ro.session).2, ro.calls ++ [(c.call p ro.session).1]⟩
  | .resume i =>
    match ro.calls[i]? with
    | none => ro
    | some call =>
      ⟨(c.resume ro.session call).2, ro.calls.set i (c.resume ro.session call).1⟩
  | .outside i devices => { ro with session := disturb i devices ro.session }

/-- What is done at turns in a row. -/
def after (ro : Roster τ ι δ σ) (turns : List (Turn δ)) : Roster τ ι δ σ := turns.foldl (step c) ro

/-- Call number `i` waits within its run. -/
def Inside (ro : Roster τ ι δ σ) (i : ℕ) : Prop := ∃ call ∈ ro.calls[i]?, call.isInside = true

instance (ro : Roster τ ι δ σ) (i : ℕ) : Decidable (ro.Inside i) :=
  inferInstanceAs (Decidable (∃ call ∈ ro.calls[i]?, call.isInside = true))

/-- Call number `i` waits for the download. -/
def Fetching (ro : Roster τ ι δ σ) (i : ℕ) : Prop := ∃ call ∈ ro.calls[i]?, call.isFetching = true

instance (ro : Roster τ ι δ σ) (i : ℕ) : Decidable (ro.Fetching i) :=
  inferInstanceAs (Decidable (∃ call ∈ ro.calls[i]?, call.isFetching = true))

/-- What the run of call number `i` has done so far. -/
def journal (ro : Roster τ ι δ σ) (i : ℕ) : List (Note τ ι) :=
  (ro.calls[i]?.map Call.journal).getD []

/-- If it is a download that ends, no call is within its run. -/
def Spaced (ro : Roster τ ι δ σ) (turn : Turn δ) : Prop :=
  ∀ i, turn = .resume i → ro.Fetching i → ∀ j, ¬ro.Inside j

/-- No download ends while a call is within its run. -/
def Orderly (ro : Roster τ ι δ σ) : List (Turn δ) → Prop
  | [] => True
  | turn :: turns => ro.Spaced turn ∧ Orderly (step c ro turn) turns

theorem journal_of {ro : Roster τ ι δ σ} {i : ℕ} {call : Call τ ι δ σ}
    (h : ro.calls[i]? = some call) : ro.journal i = call.journal := by
  unfold journal
  rw [h]
  rfl

/-! ### A call by itself -/

/-- A call that has begun its run comes to what the run comes to, if it goes on by itself. -/
theorem settles (c : Crafter τ ι δ σ) (s : Session τ ι δ σ) (x : Strand τ ι δ σ RunResult) :
    ∃ n journal, after c ⟨{ s with scene := (Call.ofStrand x).2 }, [(Call.ofStrand x).1]⟩
        (List.replicate n (.resume 0)) =
      ⟨{ s with scene := x.alone.2 },
        [.ended journal ((x.alone.1.mapError .fault).mapError .run)]⟩ := by
  induction x with
  | ended x t => exact ⟨0, _, rfl⟩
  | waiting t resume ih =>
    obtain ⟨n, journal, hn⟩ := ih t
    exact ⟨n + 1, journal, hn⟩

theorem start_settles (c : Crafter τ ι δ σ) (p : Plan) (s : Session τ ι δ σ) :
    ∃ n journal, after c ⟨(c.start p s).2, [(c.start p s).1]⟩ (List.replicate n (.resume 0)) =
      ⟨{ s with scene := (Run.run c.rig p s.scene).2 },
        [.ended journal ((Run.run c.rig p s.scene).1.mapError .run)]⟩ := by
  unfold Crafter.start Run.run
  cases p.graph.problems with
  | nil =>
    dsimp only
    rw [← Run.strand_alone]
    exact settles c s _
  | cons problem problems => exact ⟨0, _, rfl⟩

theorem startWith_settles (c : Crafter τ ι δ σ) (p : Plan)
    (x : Except Catalog.LoadError Catalog) (s : Session τ ι δ σ) :
    ∃ n journal, after c ⟨(c.startWith p x s).2, [(c.startWith p x s).1]⟩
        (List.replicate n (.resume 0)) = match x with
      | .error e => ⟨s, [.ended journal (.error (.catalog e))]⟩
      | .ok known =>
        ⟨{ s with scene := (Run.run c.rig { p with known := some known } s.scene).2 },
          [.ended journal
            ((Run.run c.rig { p with known := some known } s.scene).1.mapError .run)]⟩ := by
  cases x with
  | error e => exact ⟨0, [], rfl⟩
  | ok known => exact start_settles c { p with known := some known } s

/-- A call by itself comes to what the crafter does. -/
theorem after_single (c : Crafter τ ι δ σ) (p : Plan) (s : Session τ ι δ σ) :
    ∃ n journal, after c ⟨s, []⟩ (.arrive p :: List.replicate n (.resume 0)) =
      ⟨(c.run p s).2, [.ended journal (c.run p s).1]⟩ := by
  change ∃ n journal, after c ⟨(c.call p s).2, [(c.call p s).1]⟩ (List.replicate n (.resume 0)) = _
  unfold Crafter.call Crafter.run Crafter.equip
  split
  · exact ⟨0, _, rfl⟩
  split
  · obtain ⟨log, hload⟩ :=
      Catalog.load_lookUp c.rig.settings c.replies s.requests s.scene.files
    dsimp only
    rw [hload]
    cases Catalog.lookUp c.rig.settings s.scene.files with
    | error e => exact startWith_settles c p (.error e) s
    | ok cache =>
      cases cache with
      | holds known => exact startWith_settles c p (.ok known) s
      | misses keep =>
        -- The crafter looks at the cache file and downloads in one go; the call waits in between.
        obtain ⟨told, htold⟩ :=
          Catalog.refresh_log c.rig.settings c.replies s.requests s.scene.files keep log
        obtain ⟨n, journal, hn⟩ :=
          startWith_settles c p (c.download keep s).1 (c.download keep s).2
        refine ⟨n + 1, journal, hn.trans ?_⟩
        dsimp only [Crafter.download]
        rw [htold]
        generalize Catalog.refresh c.rig.settings c.replies s.requests s.scene.files keep [] = l
        obtain ⟨catalog, files, requests, notices⟩ := l
        cases catalog with
        | error e => rfl
        | ok known => rfl
  · exact start_settles c p s

end Roster

end Reroll
