import K1Sim.Foundations.Machine
import K1Sim.Foundations.Numerals
import K1Sim.Foundations.StaticCast
import Mathlib.Algebra.Order.Field.Basic
import Mathlib.Data.Rat.Floor
import Mathlib.Tactic.Linarith

/-!
# Simulation/Pacing — real-time pacing of the physics loop

Each pass of the loop moves a deadline by one period, reads the clock and sleeps until the deadline,
which falls back on the clock once it is late by more than `resync_threshold`.  So the deadline is
never late by more than that at the read (`le_deadline_add`), and the passes completed since are
counted by the deadlines (`paced`).
-/

namespace K1Sim

open Foundations

/-- `timespec`. -/
structure Timespec where
  tvSec : ℤ
  tvNsec : ℤ
  deriving DecidableEq

namespace Timespec

/-- The nanoseconds are less than a second. -/
def Normalised (t : Timespec) : Prop := 0 ≤ t.tvNsec ∧ t.tvNsec < 1000000000

instance (t : Timespec) : Decidable t.Normalised := inferInstanceAs (Decidable (_ ∧ _))

/-- A clock value in nanoseconds. -/
def nsec (t : Timespec) : ℤ := t.tvSec * 1000000000 + t.tvNsec

variable {K : Type*} [Field K]

/-- `to_seconds`. -/
def toSeconds (t : Timespec) : K := t.tvSec + t.tvNsec * (1 / 1000000000)

variable [LinearOrder K] [FloorRing K]

/-- `add_seconds`. -/
def addSeconds (t : Timespec) (seconds : K) : Timespec :=
  let totalNsec : K := t.tvNsec + seconds * 1000000000
  let secAdjust := ⌊totalNsec / 1000000000⌋
  ⟨t.tvSec + secAdjust, truncate (totalNsec - secAdjust * 1000000000)⟩

section Seconds

variable {F : Type*} [Field F] [LinearOrder F] [IsStrictOrderedRing F]

theorem billion_pos : (0 : F) < 1000000000 := by norm_num

theorem toSeconds_eq (t : Timespec) : (t.toSeconds : F) = t.nsec / 1000000000 := by
  rw [toSeconds, nsec, Int.cast_add, Int.cast_mul, add_div, mul_one_div]
  push_cast
  rw [mul_div_cancel_right₀ _ billion_pos.ne']

theorem toSeconds_le_toSeconds {t u : Timespec} :
    (t.toSeconds : F) ≤ u.toSeconds ↔ t.nsec ≤ u.nsec := by
  rw [toSeconds_eq, toSeconds_eq, div_le_div_iff_of_pos_right billion_pos, Int.cast_le]

end Seconds

section Facts

variable [IsStrictOrderedRing K]

/-- The nanoseconds over the whole seconds. -/
theorem rest_mem (totalNsec : K) :
    0 ≤ totalNsec - ⌊totalNsec / 1000000000⌋ * 1000000000
      ∧ totalNsec - ⌊totalNsec / 1000000000⌋ * 1000000000 < 1000000000 := by
  have hle := Int.floor_le (totalNsec / 1000000000)
  have hlt := Int.lt_floor_add_one (totalNsec / 1000000000)
  rw [le_div_iff₀ billion_pos] at hle
  rw [div_lt_iff₀ billion_pos] at hlt
  exact ⟨by linarith, by linarith⟩

/-- **An addition normalises.** -/
theorem normalised_addSeconds (t : Timespec) (seconds : K) : (t.addSeconds seconds).Normalised := by
  obtain ⟨hnonneg, hlt⟩ := rest_mem ((t.tvNsec : K) + seconds * 1000000000)
  rw [Normalised, addSeconds]
  dsimp only
  rw [truncate, if_pos hnonneg]
  exact ⟨Int.floor_nonneg.mpr hnonneg, Int.floor_lt.mpr (by exact_mod_cast hlt)⟩

/-- **An addition loses less than a nanosecond**: the fraction that `tv_nsec` cannot hold. -/
theorem lt_toSeconds_addSeconds (t : Timespec) (seconds : K) :
    t.toSeconds + seconds - 1 / 1000000000 < (t.addSeconds seconds).toSeconds := by
  obtain ⟨hnonneg, -⟩ := rest_mem ((t.tvNsec : K) + seconds * 1000000000)
  have hlt := Int.lt_floor_add_one ((t.tvNsec : K) + seconds * 1000000000
    - ⌊((t.tvNsec : K) + seconds * 1000000000) / 1000000000⌋ * 1000000000)
  rw [addSeconds, toSeconds, toSeconds]
  dsimp only
  rw [truncate, if_pos hnonneg]
  push_cast
  linarith

end Facts

end Timespec

open Timespec

/-- What `Config` and the model say of the pacing. -/
structure PacingConfig (K : Type*) where
  rtf : K
  resyncThreshold : K
  timestep : K

/-- The clock in one pass of the loop: where it is read after the step, when the sleep returns, and
where it is read at the end. -/
structure ClockReads where
  now : Timespec
  wake : Timespec
  wall : Timespec
  deriving DecidableEq

/-- The pacing variables of `physics_loop`, with `dropped_deadlines_` and `measured_rtf_`. -/
structure Pacing (K : Type*) where
  deadline : Timespec
  droppedDeadlines : ℕ
  windowWallStart : K
  windowStepStart : ℕ
  steps : ℕ
  measuredRtf : K

namespace Pacing

variable {K : Type*} [Field K]

/-- The wall time of a step. -/
def period (cfg : PacingConfig K) : K := cfg.timestep / cfg.rtf

/-- The loop is entered at a clock value. -/
def enter (now : Timespec) : Pacing K :=
  { deadline := now
    droppedDeadlines := 0
    windowWallStart := now.toSeconds
    windowStepStart := 0
    steps := 0
    measuredRtf := 0 }

variable [LinearOrder K] [FloorRing K] (cfg : PacingConfig K)

/-- The deadline of a pass, and whether it is a resync, when the clock reads `now`. -/
def nextDeadline (deadline now : Timespec) : Timespec × Bool :=
  let deadline := deadline.addSeconds (period cfg)
  let behind : K := now.toSeconds - deadline.toSeconds
  if cfg.resyncThreshold < behind then (now, true) else (deadline, false)

/-- A pass of the loop that is paced: everything but the step and the snapshot. -/
def pass (p : Pacing K) (e : ClockReads) : Pacing K :=
  let steps := p.steps + 1
  let (deadline, dropped) :=
    if cfg.rtf ≤ 0 then (p.deadline, false) else nextDeadline cfg p.deadline e.now
  let wallElapsed := e.wall.toSeconds - p.windowWallStart
  let p := { p with
    deadline := deadline
    droppedDeadlines := p.droppedDeadlines + if dropped then 1 else 0
    steps := steps }
  if 1 ≤ wallElapsed then
    { p with
      measuredRtf := ((steps - p.windowStepStart : ℕ) : K) * cfg.timestep / wallElapsed
      windowWallStart := e.wall.toSeconds
      windowStepStart := steps }
  else p

/-- The pacing, pass after pass. -/
def machine : Machine (Pacing K) ClockReads Unit where
  next := pass cfg
  out _ _ := none

/-- The clock in a pass: `CLOCK_MONOTONIC`, which does not go back and reads normalised, and the
sleep does not return before the deadline. -/
def ClockOk (p : Pacing K × Timespec) (e : ClockReads) : Prop :=
  (e.now.Normalised ∧ e.wall.Normalised)
    ∧ (p.2.nsec ≤ e.now.nsec ∧ e.now.nsec ≤ e.wake.nsec ∧ e.wake.nsec ≤ e.wall.nsec)
    ∧ (pass cfg p.1 e).deadline.nsec ≤ e.wake.nsec

instance (p : Pacing K × Timespec) (e : ClockReads) : Decidable (ClockOk cfg p e) :=
  inferInstanceAs (Decidable (_ ∧ _))

/-- A clock trace of the loop entered at `start`, the history variable being the last clock read. -/
def ClockTrace (start : Timespec) (es : List ClockReads) : Prop :=
  start.Normalised
    ∧ ((machine cfg).withHistory fun _ _ e => e.wall).Always (ClockOk cfg) (enter start, start) es

/-! ## One pass -/

theorem deadline_pass (hrtf : 0 < cfg.rtf) (p : Pacing K) (e : ClockReads) :
    (pass cfg p e).deadline = (nextDeadline cfg p.deadline e.now).1 := by
  rw [pass, if_neg hrtf.not_ge]
  dsimp only
  split_ifs <;> rfl

section Facts

variable [IsStrictOrderedRing K] {cfg} (deadline : Timespec)

theorem normalised_nextDeadline {now : Timespec} (hnow : now.Normalised) :
    (nextDeadline cfg deadline now).1.Normalised := by
  rw [nextDeadline]
  split_ifs
  · exact hnow
  · exact normalised_addSeconds _ _

variable (hthreshold : 0 ≤ cfg.resyncThreshold) (now : Timespec)

include hthreshold

/-- **At the read of the clock the deadline is late by the threshold at most.** -/
theorem le_nextDeadline_add : (now.toSeconds : K)
    ≤ (nextDeadline cfg deadline now).1.toSeconds + cfg.resyncThreshold := by
  rw [nextDeadline]
  split_ifs with hlate
  · exact le_add_of_nonneg_right hthreshold
  · exact sub_le_iff_le_add'.mp (not_lt.mp hlate)

/-- **A pass moves the deadline by a period**, less the nanosecond that the addition may lose: a
resync moves it further. -/
theorem add_le_nextDeadline : (deadline.toSeconds : K) + (period cfg - 1 / 1000000000)
    ≤ (nextDeadline cfg deadline now).1.toSeconds := by
  have hadd := lt_toSeconds_addSeconds deadline (period cfg)
  rw [nextDeadline]
  split_ifs with hlate
  · have hbehind := hthreshold.trans_lt hlate
    linarith [sub_pos.mp hbehind]
  · linarith

end Facts

/-! ## A run of passes -/

section Run

variable [IsStrictOrderedRing K] {cfg} (hrtf : 0 < cfg.rtf) (hthreshold : 0 ≤ cfg.resyncThreshold)

include hrtf hthreshold

/-- Deadlines count passes. -/
theorem add_le_deadline_run (p : Pacing K) (es : List ClockReads) :
    (p.deadline.toSeconds : K) + es.length * (period cfg - 1 / 1000000000)
      ≤ ((machine cfg).run p es).deadline.toSeconds := by
  induction es generalizing p with
  | nil => simp
  | cons e es ih =>
    have hfirst := add_le_nextDeadline p.deadline hthreshold e.now
    rw [← deadline_pass cfg hrtf] at hfirst
    have hrest := ih (pass cfg p e)
    rw [List.length_cons, Nat.cast_succ]
    refine le_trans ?_ hrest
    linarith

end Run

/-! ## A clock trace -/

/-- After a clock read of one of its passes, a trace completes no more passes by any time than fit
into the time since, give or take the resync threshold and `slack`. -/
def PassesWithin (read : ClockReads → Timespec) (slack : K) (es : List ClockReads) : Prop :=
  ∀ pre e later, pre ++ e :: later <+: es → ∀ s' : K, (read e).toSeconds ≤ s' →
    (∀ f ∈ later, f.wall.toSeconds ≤ s') →
      (later.length : K)
        ≤ (s' - (read e).toSeconds + cfg.resyncThreshold) / (period cfg - 1 / 1000000000) + slack

/-- After a clock read of one of its passes, the passes that a trace completes by any time take the
simulation ahead of the clock by no more than `ahead`, of their number. -/
def AheadWithin (read : ClockReads → Timespec) (ahead : ℕ → K) (es : List ClockReads) : Prop :=
  ∀ pre e later, pre ++ e :: later <+: es → ∀ s' : K, (read e).toSeconds ≤ s' →
    (∀ f ∈ later, f.wall.toSeconds ≤ s') →
      (later.length : K) * period cfg - (s' - (read e).toSeconds) ≤ ahead later.length

section Trace

variable [IsStrictOrderedRing K] {cfg} {start : Timespec} {es : List ClockReads}
  (htrace : ClockTrace cfg start es)

include htrace

omit [IsStrictOrderedRing K] in
/-- The clock is in order in every pass, the last read before it being the one that ended the pass
before. -/
theorem clockOk_at {pre : List ClockReads} {e : ClockReads} (h : pre ++ [e] <+: es) :
    ClockOk cfg (((machine cfg).withHistory fun _ _ e => e.wall).run (enter start, start) pre)
      e := by
  obtain ⟨post, rfl⟩ := h
  have halways := htrace.2
  rw [List.append_assoc, Machine.always_append] at halways
  exact halways.2.1

theorem normalised_deadline (hrtf : 0 < cfg.rtf) {pre : List ClockReads} (h : pre <+: es) :
    ((machine cfg).run (enter start) pre).deadline.Normalised := by
  rcases pre.eq_nil_or_concat' with rfl | ⟨pre, e, rfl⟩
  · exact htrace.1
  · rw [Machine.run_append]
    change (pass cfg _ e).deadline.Normalised
    rw [deadline_pass cfg hrtf]
    exact normalised_nextDeadline _ (clockOk_at htrace h).1.1

/-- A pass is over when its deadline is. -/
theorem deadline_le_wall {pre : List ClockReads} {f : ClockReads} (h : pre ++ [f] <+: es) :
    (((machine cfg).run (enter start) (pre ++ [f])).deadline.toSeconds : K) ≤ f.wall.toSeconds := by
  obtain ⟨-, ⟨-, -, hwall⟩, hwake⟩ := clockOk_at htrace h
  rw [Machine.fst_run_withHistory] at hwake
  rw [Machine.run_append]
  exact toSeconds_le_toSeconds.mpr (hwake.trans hwall)

variable (hrtf : 0 < cfg.rtf) (hthreshold : 0 ≤ cfg.resyncThreshold)

include hrtf hthreshold

/-- **The passes since a read before the sleep**, in time. -/
theorem passes_since_now {pre later : List ClockReads} {e : ClockReads}
    (h : pre ++ e :: later <+: es) {s' : K} (hs : e.now.toSeconds ≤ s')
    (hlater : ∀ f ∈ later, f.wall.toSeconds ≤ s') :
    later.length * (period cfg - 1 / 1000000000)
      ≤ s' - e.now.toSeconds + cfg.resyncThreshold := by
  rcases later.eq_nil_or_concat' with rfl | ⟨most, f, rfl⟩
  · rw [List.length_nil, Nat.cast_zero, zero_mul]
    exact add_nonneg (sub_nonneg.mpr hs) hthreshold
  · have hsplit : pre ++ e :: (most ++ [f]) = (pre ++ e :: most) ++ [f] :=
      (List.append_assoc pre (e :: most) [f]).symm
    have hend := deadline_le_wall htrace (hsplit ▸ h)
    rw [← hsplit, Machine.run_append, Machine.run_cons] at hend
    have hstart := le_nextDeadline_add
      ((machine cfg).run (enter start) pre).deadline hthreshold e.now
    rw [← deadline_pass cfg hrtf] at hstart
    have hrun := add_le_deadline_run hrtf hthreshold
      (pass cfg ((machine cfg).run (enter start) pre) e) (most ++ [f])
    have hlast := hlater f (List.mem_append_right _ List.mem_cons_self)
    change (Timespec.toSeconds (Machine.run _ (pass cfg _ e) _).deadline : K) ≤ _ at hend
    linarith

/-- **The passes since a read after the sleep**: one more, as the sleep may have been too long for
the deadline to be a late one. -/
theorem passes_since_wall (hperiod : 1 / 1000000000 < period cfg) {pre later : List ClockReads}
    {e : ClockReads} (h : pre ++ e :: later <+: es) {s' : K} (hs : e.wall.toSeconds ≤ s')
    (hlater : ∀ f ∈ later, f.wall.toSeconds ≤ s') :
    later.length * (period cfg - 1 / 1000000000)
      ≤ s' - e.wall.toSeconds + cfg.resyncThreshold + (period cfg - 1 / 1000000000) := by
  have hshort := sub_pos.mpr hperiod
  rcases later with - | ⟨f, later⟩
  case nil =>
    rw [List.length_nil, Nat.cast_zero, zero_mul]
    exact add_nonneg (add_nonneg (sub_nonneg.mpr hs) hthreshold) hshort.le
  case cons =>
    have hsplit : pre ++ e :: f :: later = (pre ++ [e]) ++ f :: later :=
      List.append_cons pre e (f :: later)
    have hf : (pre ++ [e]) ++ [f] <+: es := by
      refine List.IsPrefix.trans ?_ (hsplit ▸ h)
      exact (List.prefix_append_right_inj _).mpr (List.prefix_append [f] later)
    obtain ⟨-, ⟨hafter, hnow, hwall⟩, -⟩ := clockOk_at htrace hf
    rw [Machine.run_append] at hafter
    have hread : (e.wall.toSeconds : K) ≤ f.now.toSeconds := toSeconds_le_toSeconds.mpr hafter
    have hlate : (f.now.toSeconds : K) ≤ s' :=
      (toSeconds_le_toSeconds.mpr (hnow.trans hwall)).trans (hlater f List.mem_cons_self)
    have hpasses := passes_since_now htrace hrtf hthreshold (hsplit ▸ h) hlate
      fun g hg => hlater g (List.mem_cons_of_mem f hg)
    rw [List.length_cons, Nat.cast_succ]
    linarith

end Trace

/-- **Real-time pacing has no long catch-up burst**, along a clock trace. -/
structure Paced (start : Timespec) (es : List ClockReads) : Prop where
  normalised : ∀ pre, pre <+: es → ((machine cfg).run (enter start) pre).deadline.Normalised
  advances : ∀ pre e, pre ++ [e] <+: es →
    (((machine cfg).run (enter start) pre).deadline.toSeconds : K)
        + (period cfg - 1 / 1000000000)
      ≤ ((machine cfg).run (enter start) (pre ++ [e])).deadline.toSeconds
  /-- Since a read before the sleep. -/
  passes_now : 1 / 1000000000 < period cfg → PassesWithin cfg ClockReads.now 0 es
  /-- Since a read after the sleep, one more. -/
  passes_wall : 1 / 1000000000 < period cfg → PassesWithin cfg ClockReads.wall 1 es
  /-- The simulation gets ahead by the threshold and what the deadlines lose, -/
  ahead_now : 1 / 1000000000 < period cfg →
    AheadWithin cfg ClockReads.now (fun n => cfg.resyncThreshold + n * (1 / 1000000000)) es
  /-- and by a step, since a read after the sleep. -/
  ahead_wall : 1 / 1000000000 < period cfg →
    AheadWithin cfg ClockReads.wall
      (fun n => cfg.resyncThreshold + period cfg + n * (1 / 1000000000)) es

theorem paced [IsStrictOrderedRing K] {cfg : PacingConfig K} (hrtf : 0 < cfg.rtf)
    (hthreshold : 0 ≤ cfg.resyncThreshold) {start : Timespec} {es : List ClockReads}
    (htrace : ClockTrace cfg start es) : Paced cfg start es where
  normalised pre h := normalised_deadline htrace hrtf h
  advances pre e h := by
    rw [Machine.run_append, Machine.run_cons, Machine.run_nil]
    change _ ≤ (Timespec.toSeconds (pass cfg _ e).deadline : K)
    rw [deadline_pass cfg hrtf]
    exact add_le_nextDeadline _ hthreshold e.now
  passes_now hperiod pre e later h s' hs hlater := by
    rw [add_zero, le_div_iff₀ (sub_pos.mpr hperiod)]
    exact passes_since_now htrace hrtf hthreshold h hs hlater
  passes_wall hperiod pre e later h s' hs hlater := by
    rw [← sub_le_iff_le_add, le_div_iff₀ (sub_pos.mpr hperiod)]
    linarith [passes_since_wall htrace hrtf hthreshold hperiod h hs hlater]
  ahead_now hperiod pre e later h s' hs hlater := by
    linarith [passes_since_now htrace hrtf hthreshold h hs hlater]
  ahead_wall hperiod pre e later h s' hs hlater := by
    have hnanosecond : (0 : K) < 1 / 1000000000 := one_div_pos.mpr billion_pos
    linarith [passes_since_wall htrace hrtf hthreshold hperiod h hs hlater]

/-! ## Two traces -/

/-- A step a second, resynced as soon as it is late. -/
def eachSecond : PacingConfig ℚ := ⟨1, 0, 1⟩

/-- The first sleep lasts four seconds too long. -/
def overslept : List ClockReads := [⟨⟨0, 0⟩, ⟨5, 0⟩, ⟨5, 0⟩⟩, ⟨⟨5, 0⟩, ⟨5, 0⟩, ⟨5, 0⟩⟩]

theorem clockTrace_overslept : ClockTrace eachSecond ⟨0, 0⟩ overslept :=
  ⟨by decide, by decide +kernel⟩

theorem paced_overslept : Paced eachSecond ⟨0, 0⟩ overslept :=
  paced (by decide +kernel) (by decide +kernel) clockTrace_overslept

/-- Three steps a second. -/
def thirds : PacingConfig ℚ := ⟨3, 0, 1⟩

/-- Every sleep returns at its deadline, which has lost a third of a nanosecond. -/
def punctual : List ClockReads :=
  [⟨⟨0, 333333333⟩, ⟨0, 333333333⟩, ⟨0, 333333333⟩⟩,
    ⟨⟨0, 666666666⟩, ⟨0, 666666666⟩, ⟨0, 666666666⟩⟩,
    ⟨⟨0, 999999999⟩, ⟨0, 999999999⟩, ⟨0, 999999999⟩⟩]

theorem clockTrace_punctual : ClockTrace thirds ⟨0, 0⟩ punctual :=
  ⟨by decide, by decide +kernel⟩

/-- **A pass more than fits** follows at once on a clock read after a sleep that was too long, and
the simulation gets ahead by more than the threshold where a period is no whole number of
nanoseconds. -/
theorem burst_after_overslept :
    (ClockTrace eachSecond ⟨0, 0⟩ overslept
      ∧ ¬ (1 / 1000000000 < period eachSecond
        → PassesWithin eachSecond ClockReads.wall 0 overslept))
    ∧ ClockTrace thirds ⟨0, 0⟩ punctual
      ∧ ¬ AheadWithin thirds ClockReads.now (fun _ => thirds.resyncThreshold) punctual := by
  refine ⟨⟨clockTrace_overslept, fun h => ?_⟩, clockTrace_punctual, fun h => ?_⟩
  · have hburst := h (by decide +kernel) [] _ _ List.prefix_rfl (Timespec.toSeconds ⟨5, 0⟩) le_rfl
      (by decide +kernel)
    exact absurd hburst (by decide +kernel)
  · have hahead := h [] _ _ List.prefix_rfl (Timespec.toSeconds ⟨0, 999999999⟩)
      (by decide +kernel) (by decide +kernel)
    exact absurd hahead (by decide +kernel)

end Pacing

end K1Sim
