import Mathlib.Algebra.Order.Floor.Ring
import Mathlib.Data.Rat.Floor
import Mathlib.Tactic.Linarith
import Mathlib.Tactic.Ring
import Reroll.Proofs.Run.Stop

/-!
# How long a wait lasts

Where times are exact and a sleep lasts as long as it is asked to, a wait that is not given up lasts
for its length and no longer. One that is given up has lasted for more than the threshold, and it
is given up at the first look after that at which a stop is asked for (`wait_lasts`).
-/

namespace Reroll

variable {τ ι δ σ : Type}

open Scene Act

/-- Exact times, in seconds. A look at the clock comes after a millisecond at least. -/
def Reckoning.exact : Reckoning ℚ where
  ofMillis n :=
    match n.magnitude? with
    | some (.value q) => .ok (q / 1000)
    | some _ => .error .infiniteInteger
    | none => .error .nanInteger
  minus a b := a - b
  below a b := decide (a < b)
  atMost a b := decide (a ≤ b)
  millis t := ⌊t * 1000⌋
  rounds total _ := ⌈total * 1000⌉.toNat

namespace Reckoning

theorem exact_minus (a b : ℚ) : exact.minus a b = a - b := rfl

theorem exact_below (a b : ℚ) : exact.below a b = decide (a < b) := rfl

theorem exact_atMost (a b : ℚ) : exact.atMost a b = decide (a ≤ b) := rfl

theorem exact_least (a b : ℚ) : exact.least a b = min a b := by
  rw [least, exact_below, min_comm, min_def_lt]
  simp only [decide_eq_true_eq]

theorem exact_ofMillis {n : Number} {q : ℚ} (h : n.magnitude? = some (.value q)) :
    exact.ofMillis n = .ok (q / 1000) := by
  simp only [exact, h]

end Reckoning

/-- The devices keep exact time: a sleep lasts as long as it is asked to. -/
structure Devices.Punctual (d : Devices ℚ ι δ) : Prop where
  exact : d.time = .exact
  sleep : ∀ length x, 0 < length → d.now (d.sleep length x).2 = d.now x + length

/-- The value is a number of this size. -/
def Value.Measures (v : Value) (q : ℚ) : Prop :=
  ∃ n, v.number? = some n ∧ n.magnitude? = some (.value q)

theorem Value.Measures.int (n : Int) : (Value.int n).Measures n := ⟨.int n, rfl, rfl⟩

theorem Value.related_measures {v w : Value} {p q : ℚ} (hv : v.Measures p) (hw : w.Measures q) :
    v.related .atMost w = .ok (decide (p ≤ q)) ∧ v.related .above w = .ok (decide (q < p)) := by
  obtain ⟨m, hm, hp⟩ := hv
  obtain ⟨n, hn, hq⟩ := hw
  have hbelow : m.lt n = decide (p < q) := by
    rw [Number.lt, hp, hq]
    rfl
  have habove : n.lt m = decide (q < p) := by
    rw [Number.lt, hp, hq]
    rfl
  have hsame : m.same n = (!decide (p < q) && !decide (q < p)) := by
    rw [Number.same, hp, hq]
    rfl
  have hatMost : Relation.atMost.holds m n = decide (p ≤ q) := by
    rw [Bool.eq_iff_iff, Relation.holds, hbelow, hsame]
    simp only [Bool.or_eq_true, Bool.and_eq_true, Bool.not_eq_true', decide_eq_true_eq,
      decide_eq_false_iff_not, not_lt]
    exact ⟨fun h => h.elim le_of_lt And.right, fun h => h.lt_or_eq.imp_right fun h => ⟨h.ge, h.le⟩⟩
  unfold related
  rw [hm, hn]
  exact ⟨congrArg Except.ok hatMost, congrArg Except.ok habove⟩

/-! ### A stop that comes at a moment -/

/-- A look for a stop where none is pending finds none and changes nothing. -/
theorem Act.stopAsked_quiet {s : Scene τ ι δ σ} {present : Bool} (quiet : ¬Pending s)
    (readable : s.state.signalPresent s.files = .ok present) : stopAsked s = (.ok false, s) := by
  have hasked : s.state.stopRequested = false := by
    simpa using fun h : s.state.stopRequested = true => quiet (.inl h)
  have hpresent : s.state.signalPresent s.files = .ok false := by
    cases present with
    | false => exact readable
    | true => exact absurd (.inr readable) quiet
  have hpoll : s.state.poll s.files = .ok (s.state, s.files, []) := by
    unfold RunState.poll
    simp only [hasked, hpresent, bind, Except.bind]
    rfl
  rw [stopAsked_apply, hpoll]
  dsimp only
  rw [hasked]

/-- A look that finds a stop leaves it pending. -/
theorem Act.stopAsked_found {s t : Scene τ ι δ σ} (h : stopAsked s = (.ok true, t)) :
    Pending t := by
  rw [stopAsked_apply] at h
  cases hpoll : s.state.poll s.files with
  | error e =>
    rw [hpoll] at h
    cases h
  | ok x =>
    rw [hpoll] at h
    obtain ⟨hasked, rfl⟩ := Prod.mk.inj h
    exact .inl (Except.ok.inj hasked)

namespace Delay

variable {r : Rig ℚ ι δ σ} {m : Manner} {s t u : Scene ℚ ι δ σ} {stop : Option ℚ}
variable {duration poll abortAfter interval : ℚ}

/-- The milliseconds between two scenes. -/
def elapsed (r : Rig ℚ ι δ σ) (s t : Scene ℚ ι δ σ) : ℚ :=
  (r.devices.now t.devices - r.devices.now s.devices) * 1000

/-- One scene leads to another when nothing is done but to sleep; what happens meanwhile takes
effect. -/
inductive Slept (r : Rig ℚ ι δ σ) (s : Scene ℚ ι δ σ) : Scene ℚ ι δ σ → Prop
  | here : Slept r s s
  | on {t u : Scene ℚ ι δ σ} {length : ℚ} (before : Slept r s t) (lasts : 0 < length)
      (sleep : Act.sleep r length t = (.ok (), u)) : Slept r s u

/-- A stop is pending, and the wait is one that can be given up for it. -/
def Heeds (m : Manner) (t : Scene ℚ ι δ σ) : Prop := m.watched = true ∧ Pending t

/-- However long one sleeps, a stop is there from a moment on, told in milliseconds since then, or
never. -/
structure StopsAt (r : Rig ℚ ι δ σ) (m : Manner) (s : Scene ℚ ι δ σ) (stop : Option ℚ) :
    Prop where
  heeds : ∀ t, Slept r s t → (Heeds m t ↔ ∃ moment ∈ stop, moment ≤ elapsed r s t)
  readable : ∀ t, Slept r s t → ∃ present, t.state.signalPresent t.files = .ok present

/-- What a wait comes to, all lengths in milliseconds. -/
structure Lasts (duration poll abortAfter : ℚ) (stop : Option ℚ) (stopped : Prop)
    (completed : Bool) (elapsed : ℚ) : Prop where
  whole : completed = true → elapsed = duration
  given_up : completed = false → stopped ∧ abortAfter < elapsed ∧ elapsed < duration
  short : duration ≤ abortAfter → completed = true
  soon : ∀ moment ∈ stop, 0 ≤ moment →
    elapsed ≤ min duration (max moment abortAfter + max 1 poll)

theorem elapsed_self (r : Rig ℚ ι δ σ) (s : Scene ℚ ι δ σ) : elapsed r s s = 0 := by
  rw [elapsed, sub_self, zero_mul]

theorem elapsed_sleep (punctual : r.devices.Punctual) {length : ℚ} (lasts : 0 < length)
    (h : Act.sleep r length t = (.ok (), u)) :
    elapsed r s u = elapsed r s t + length * 1000 := by
  have hdevices : u.devices = (r.devices.sleep length t.devices).2 :=
    (congrArg (fun x => x.2.devices) h).symm
  rw [elapsed, elapsed, hdevices, punctual.sleep length t.devices lasts]
  ring

/-! ### One look -/

/-- The wait that `wait` begins in the scene `s`, with lengths in milliseconds. -/
def rest (r : Rig ℚ ι δ σ) (m : Manner) (interval duration abortAfter : ℚ) (s : Scene ℚ ι δ σ) :
    ℕ → Act ℚ ι δ σ Bool :=
  waitFrom r m.watched (interval / 1000) (duration / 1000) (abortAfter / 1000)
    (r.devices.now s.devices)

/-- The next sleep, in seconds. -/
def nap (interval duration elapsed : ℚ) : ℚ := min (interval / 1000) ((duration - elapsed) / 1000)

/-- One look at the clock and at the stop, and the sleep up to the next one. -/
theorem rest_succ (punctual : r.devices.Punctual) (fuel : ℕ) :
    rest r m interval duration abortAfter s (fuel + 1) t =
      if duration ≤ elapsed r s t then (.ok true, t)
      else
        (do
          if m.watched && decide (abortAfter < elapsed r s t) then
            if ← stopAsked then return false
          Act.sleep r (nap interval duration (elapsed r s t))
          rest r m interval duration abortAfter s fuel : Act ℚ ι δ σ Bool) t := by
  have hseconds : elapsed r s t / 1000 = r.devices.now t.devices - r.devices.now s.devices :=
    mul_div_cancel_right₀ _ (by norm_num)
  have hover : duration / 1000 ≤ r.devices.now t.devices - r.devices.now s.devices ↔
      duration ≤ elapsed r s t := by
    rw [← hseconds]
    exact div_le_div_iff_of_pos_right (by norm_num)
  have hbelow : abortAfter / 1000 < r.devices.now t.devices - r.devices.now s.devices ↔
      abortAfter < elapsed r s t := by
    rw [← hseconds]
    exact div_lt_div_iff_of_pos_right (by norm_num)
  unfold rest
  conv_lhs => unfold waitFrom
  rw [bind_apply, now_apply, punctual.exact]
  simp only [Reckoning.exact_minus, Reckoning.exact_atMost, Reckoning.exact_below,
    Reckoning.exact_least, decide_eq_true_eq, hover, hbelow, nap, sub_div, hseconds]
  split
  · rfl
  · rfl

/-- A wait is under way: it began in the scene `s`, at most `k` milliseconds are left, and a stop,
if it has come, has not been there for longer than it takes to look again. -/
structure Underway (r : Rig ℚ ι δ σ) (interval duration abortAfter : ℚ) (stop : Option ℚ)
    (s t : Scene ℚ ι δ σ) (k : ℕ) : Prop where
  slept : Slept r s t
  within : elapsed r s t ≤ duration
  left : duration - elapsed r s t ≤ k
  soon : ∀ moment ∈ stop, 0 ≤ moment → elapsed r s t ≤ max moment abortAfter + interval

/-- The wait sleeps on where there is time left and nothing to give it up for. -/
theorem Underway.sleep {k : ℕ} (punctual : r.devices.Punctual) (apart : 1 ≤ interval)
    (h : Underway r interval duration abortAfter stop s t k) (hleft : elapsed r s t < duration)
    (unheeded : ∀ moment ∈ stop, abortAfter < elapsed r s t → elapsed r s t < moment) :
    ∃ u k', k = k' + 1 ∧ Act.sleep r (nap interval duration (elapsed r s t)) t = (.ok (), u) ∧
      Underway r interval duration abortAfter stop s u k' := by
  obtain ⟨k', rfl⟩ : ∃ k', k = k' + 1 := by
    refine Nat.exists_eq_succ_of_ne_zero fun hzero => ?_
    have hnone := h.left
    rw [hzero, Nat.cast_zero] at hnone
    linarith
  have hsize : nap interval duration (elapsed r s t) * 1000 =
      min interval (duration - elapsed r s t) := by
    rw [nap, min_mul_of_nonneg _ _ (by norm_num), div_mul_cancel₀ _ (by norm_num),
      div_mul_cancel₀ _ (by norm_num)]
  have hlasts : 0 < nap interval duration (elapsed r s t) :=
    lt_min (by linarith) (by linarith)
  obtain ⟨u, hsleep⟩ :
      ∃ u, Act.sleep r (nap interval duration (elapsed r s t)) t = (.ok (), u) := ⟨_, rfl⟩
  have hslept := elapsed_sleep (s := s) punctual hlasts hsleep
  rw [hsize] at hslept
  refine ⟨u, k', rfl, hsleep, h.slept.on hlasts hsleep, ?_, ?_, ?_⟩
  · have hmin := min_le_right interval (duration - elapsed r s t)
    linarith
  · have hk := h.left
    push_cast at hk
    rcases min_cases interval (duration - elapsed r s t) with ⟨hmin, -⟩ | ⟨hmin, -⟩
    · linarith
    · have hnonneg : (0 : ℚ) ≤ k' := Nat.cast_nonneg k'
      linarith
  · intro moment hmoment hfrom
    have hmin := min_le_left interval (duration - elapsed r s t)
    have hlast : elapsed r s t ≤ max moment abortAfter := by
      rcases le_or_gt (elapsed r s t) abortAfter with hle | hgt
      · exact hle.trans (le_max_right _ _)
      · exact (unheeded moment hmoment hgt).le.trans (le_max_left _ _)
    linarith

/-- At a look the wait is over, given up, or goes on. -/
theorem Underway.look {k : ℕ} (punctual : r.devices.Punctual) (apart : 1 ≤ interval)
    (stops : StopsAt r m s stop) (h : Underway r interval duration abortAfter stop s t k) :
    (elapsed r s t = duration ∧
      ∀ fuel, rest r m interval duration abortAfter s (fuel + 1) t = (.ok true, t)) ∨
    (∃ u, Heeds m u ∧ elapsed r s u = elapsed r s t ∧ abortAfter < elapsed r s t ∧
      elapsed r s t < duration ∧
      ∀ fuel, rest r m interval duration abortAfter s (fuel + 1) t = (.ok false, u)) ∨
    ∃ u k', k = k' + 1 ∧ Underway r interval duration abortAfter stop s u k' ∧
      ∀ fuel, rest r m interval duration abortAfter s (fuel + 1) t =
        rest r m interval duration abortAfter s fuel u := by
  by_cases hover : duration ≤ elapsed r s t
  · refine .inl ⟨le_antisymm h.within hover, fun fuel => ?_⟩
    rw [rest_succ punctual, if_pos hover]
  refine .inr ?_
  have hleft : elapsed r s t < duration := not_le.mp hover
  by_cases hlook : m.watched = true ∧ abortAfter < elapsed r s t
  · obtain ⟨hwatched, hlong⟩ := hlook
    by_cases hpending : Pending t
    · obtain ⟨u, hu⟩ := stopAsked_pending hpending
      have hdevices : u.devices = t.devices := by
        have hkept := stopAsked_devices t
        rwa [hu] at hkept
      refine .inl ⟨u, ⟨hwatched, stopAsked_found hu⟩, ?_, hlong, hleft, fun fuel => ?_⟩
      · rw [elapsed, elapsed, hdevices]
      · rw [rest_succ punctual, if_neg hover, if_pos (by simpa using ⟨hwatched, hlong⟩)]
        rw [bind_apply, hu]
        rfl
    · obtain ⟨present, hreadable⟩ := stops.readable t h.slept
      have hquiet := stopAsked_quiet hpending hreadable
      have hunheeded : ∀ moment ∈ stop, abortAfter < elapsed r s t → elapsed r s t < moment :=
        fun moment hmoment _ => not_le.mp fun hle =>
          hpending ((stops.heeds t h.slept).mpr ⟨moment, hmoment, hle⟩).2
      obtain ⟨u, k', rfl, hsleep, hnext⟩ := h.sleep punctual apart hleft hunheeded
      refine .inr ⟨u, k', rfl, hnext, fun fuel => ?_⟩
      rw [rest_succ punctual, if_neg hover, if_pos (by simpa using ⟨hwatched, hlong⟩)]
      rw [bind_apply, hquiet]
      dsimp only
      rw [if_neg Bool.false_ne_true, bind_apply, hsleep]
  · have hunheeded : ∀ moment ∈ stop, abortAfter < elapsed r s t → elapsed r s t < moment :=
      fun moment hmoment hlong => not_le.mp fun hle =>
        hlook ⟨((stops.heeds t h.slept).mpr ⟨moment, hmoment, hle⟩).1, hlong⟩
    obtain ⟨u, k', rfl, hsleep, hnext⟩ := h.sleep punctual apart hleft hunheeded
    refine .inr ⟨u, k', rfl, hnext, fun fuel => ?_⟩
    rw [rest_succ punctual, if_neg hover, if_neg (by simpa using hlook)]
    dsimp only
    rw [bind_apply, hsleep]

/-- A wait that is under way comes to its end, and rounds that are left over make no difference. -/
theorem Underway.ends {k : ℕ} {poll : ℚ} (punctual : r.devices.Punctual)
    (stops : StopsAt r m s stop)
    (h : Underway r (max 1 poll) duration abortAfter stop s t k) :
    ∃ completed u, (∀ fuel, k < fuel →
        rest r m (max 1 poll) duration abortAfter s fuel t = (.ok completed, u)) ∧
      Lasts duration poll abortAfter stop (Heeds m u) completed (elapsed r s u) := by
  induction k using Nat.strong_induction_on generalizing t with
  | _ k ih =>
    have hsoon : ∀ moment ∈ stop, 0 ≤ moment →
        elapsed r s t ≤ min duration (max moment abortAfter + max 1 poll) :=
      fun moment hmoment hfrom => le_min h.within (h.soon moment hmoment hfrom)
    rcases h.look punctual (le_max_left 1 poll) stops with
      ⟨hwhole, hover⟩ | ⟨u, hheeds, hsame, hlong, hleft, hgiven⟩ | ⟨u, k', rfl, hnext, hon⟩
    · refine ⟨true, t, fun fuel enough => ?_, fun _ => hwhole, nofun, fun _ => rfl, hsoon⟩
      obtain ⟨fuel, rfl⟩ : ∃ more, fuel = more + 1 := ⟨fuel - 1, by omega⟩
      exact hover fuel
    · refine ⟨false, u, fun fuel enough => ?_, nofun, fun _ => ?_, fun hshort => ?_, ?_⟩
      · obtain ⟨fuel, rfl⟩ : ∃ more, fuel = more + 1 := ⟨fuel - 1, by omega⟩
        exact hgiven fuel
      · rw [hsame]
        exact ⟨hheeds, hlong, hleft⟩
      · exact absurd (hshort.trans_lt hlong) hleft.not_gt
      · rw [hsame]
        exact hsoon
    · obtain ⟨completed, v, hends, hlasts⟩ := ih k' (Nat.lt_succ_self k') hnext
      refine ⟨completed, v, fun fuel enough => ?_, hlasts⟩
      obtain ⟨fuel, rfl⟩ : ∃ more, fuel = more + 1 := ⟨fuel - 1, by omega⟩
      rw [hon]
      exact hends fuel (by omega)

/-! ### The whole wait -/

theorem reckoned_exact (punctual : r.devices.Punctual) {v : Value} {q : ℚ} (h : v.Measures q) :
    (reckoned r v : Act ℚ ι δ σ ℚ) s = (.ok (q / 1000), s) := by
  obtain ⟨n, hn, hq⟩ := h
  unfold reckoned
  rw [hn, punctual.exact]
  dsimp only
  rw [Reckoning.exact_ofMillis hq]
  rfl

theorem Manner.interval_exact (h : m.poll.Measures poll) :
    ∃ v, m.interval = .ok v ∧ v.Measures (max 1 poll) := by
  have hone : (Value.int 1).Measures 1 := Value.Measures.int 1
  unfold interval
  rw [(Value.related_measures h hone).2]
  by_cases hlong : 1 < poll
  · rw [max_eq_right hlong.le, decide_eq_true hlong]
    exact ⟨m.poll, rfl, h⟩
  · rw [max_eq_left (not_lt.mp hlong), decide_eq_false hlong]
    exact ⟨.int 1, rfl, hone⟩

/-- A wait comes to its end, for which it has rounds enough, and lasts as long as it should. -/
theorem wait_lasts (r : Rig ℚ ι δ σ) (m : Manner) (length : Value) (duration poll abortAfter : ℚ)
    (stop : Option ℚ) (s : Scene ℚ ι δ σ) (punctual : r.devices.Punctual)
    (hduration : length.Measures duration) (positive : 0 < duration)
    (hpoll : m.poll.Measures poll) (habort : m.abortAfter.Measures abortAfter)
    (stops : StopsAt r m s stop) :
    ∃ completed t, wait r m length s = (.ok completed, t) ∧
      (∃ k, ∀ fuel, k ≤ fuel →
        rest r m (max 1 poll) duration abortAfter s fuel s = (.ok completed, t)) ∧
      Lasts duration poll abortAfter stop (Heeds m t) completed (elapsed r s t) := by
  have hbegin : Underway r (max 1 poll) duration abortAfter stop s s ⌈duration⌉.toNat := by
    refine ⟨.here, ?_, ?_, ?_⟩
    · rw [elapsed_self]
      exact positive.le
    · rw [elapsed_self, sub_zero]
      exact (Int.le_ceil duration).trans (by exact_mod_cast Int.self_le_toNat ⌈duration⌉)
    · intro moment _ hfrom
      rw [elapsed_self]
      have hone : 1 ≤ max 1 poll := le_max_left 1 poll
      have hmoment : moment ≤ max moment abortAfter := le_max_left moment abortAfter
      linarith
  obtain ⟨completed, t, hends, hlasts⟩ := hbegin.ends punctual stops
  refine ⟨completed, t, ?_, ⟨_, hends⟩, hlasts⟩
  have hzero : (Value.int 0).Measures 0 := Value.Measures.int 0
  obtain ⟨v, hinterval, hv⟩ := Manner.interval_exact hpoll
  have hrounds : r.devices.time.rounds (duration / 1000) (r.devices.now s.devices) =
      ⌈duration⌉.toNat := by
    rw [punctual.exact]
    exact congrArg (fun q : ℚ => ⌈q⌉.toNat) (div_mul_cancel₀ duration (by norm_num))
  unfold wait
  rw [bind_apply, (Value.related_measures hduration hzero).1,
    decide_eq_false (not_le.mpr positive)]
  simp only [lift_apply, Except.mapError, Bool.false_eq_true, if_false]
  rw [hinterval]
  simp only [bind_apply, lift_apply, Except.mapError, reckoned_exact punctual hv,
    reckoned_exact punctual hduration, reckoned_exact punctual habort, now_apply, hrounds]
  exact hends _ (Nat.lt_succ_self _)

/-- Devices that see nothing, with an exact clock. A stop is asked for when it shows two seconds. -/
def hourglass : Devices ℚ String ℚ where
  time := .exact
  now x := x
  sleep length x := ({ stop := decide (2 ≤ x + length) }, x + length)
  click _ _ _ x := ({ result := .ok () }, x)
  key _ x := ({ result := .ok () }, x)
  grab _ x := ({ result := .error (.failed "OSError" "dark") }, x)
  prepare image x := ({ result := .ok [image] }, x)
  recognize _ x := ({ result := .ok [] }, x)

/-- What a wait by the hourglass works with. -/
def hourglassRig : Rig ℚ String ℚ Unit where
  settings := {}
  devices := hourglass
  listener := .silent
  exclusion := .ok {}
  failureLimit := .int 0

/-- The scene in which the hourglass is turned. -/
def turned : Scene ℚ String ℚ Unit where
  state := {}
  files := {}
  devices := 0
  listener := ()

/-- Looks every 30 ms, and gives up after five seconds. -/
def brisk : Manner := ⟨.int 30, .int 5000, true⟩

theorem hourglass_stops : StopsAt hourglassRig brisk turned (some 2000) := by
  have hstate : ∀ t, Slept hourglassRig turned t →
      t.state.signal = none ∧ (t.state.stopRequested = true ↔ 2 ≤ t.devices) := by
    intro t slept
    induction slept with
    | here => exact ⟨rfl, by decide +kernel⟩
    | @on t u length before lasts sleep ih =>
      obtain ⟨hsignal, hasked⟩ := ih
      have hdevices : u.devices = t.devices + length :=
        (congrArg (fun x => x.2.devices) sleep).symm
      have hstate : u.state =
          if decide (2 ≤ t.devices + length) = true then t.state.requestStop else t.state :=
        (congrArg (fun x => x.2.state) sleep).symm
      rw [hstate, hdevices]
      by_cases hcome : 2 ≤ t.devices + length
      · rw [if_pos (decide_eq_true hcome)]
        exact ⟨hsignal, iff_of_true rfl hcome⟩
      · rw [if_neg (by simpa using hcome)]
        refine ⟨hsignal, iff_of_false (fun h => hcome ?_) hcome⟩
        linarith [hasked.mp h]
  refine ⟨fun t slept => ?_, fun t slept => ?_⟩
  · obtain ⟨hsignal, hasked⟩ := hstate t slept
    have hquiet : t.state.signalPresent t.files ≠ .ok true := by
      rw [RunState.signalPresent, hsignal]
      exact nofun
    have helapsed : elapsed hourglassRig turned t = t.devices * 1000 := by
      exact congrArg (· * 1000) (sub_zero t.devices)
    rw [helapsed]
    constructor
    · rintro ⟨-, hpending | hpresent⟩
      · exact ⟨2000, rfl, by linarith [hasked.mp hpending]⟩
      · exact absurd hpresent hquiet
    · rintro ⟨_, ⟨⟩, hreached⟩
      exact ⟨rfl, .inl (hasked.mpr (by linarith))⟩
  · refine ⟨false, ?_⟩
    rw [RunState.signalPresent, (hstate t slept).1]

/-- A stop after two seconds ends a wait of ten at the first look after five. -/
theorem wait_lasts_five_seconds :
    ∃ t, wait hourglassRig brisk (.int 10000) turned = (.ok false, t) ∧ Pending t ∧
      5000 < elapsed hourglassRig turned t ∧ elapsed hourglassRig turned t ≤ 5030 := by
  have hpunctual : hourglassRig.devices.Punctual := ⟨rfl, fun _ _ _ => rfl⟩
  obtain ⟨completed, t, hwait, -, hlasts⟩ :=
    wait_lasts hourglassRig brisk (.int 10000) 10000 30 5000 (some 2000) turned hpunctual
      (.int 10000) (by norm_num) (.int 30) (.int 5000) hourglass_stops
  have hsoon := hlasts.soon 2000 rfl (by norm_num)
  norm_num at hsoon
  cases completed with
  | true =>
    have hwhole := hlasts.whole rfl
    rw [hwhole] at hsoon
    norm_num at hsoon
  | false =>
    obtain ⟨hheeds, hlong, -⟩ := hlasts.given_up rfl
    exact ⟨t, hwait, hheeds.2, hlong, hsoon⟩

end Delay

end Reroll
