import K1Sim.SdkBridge.FallDown
import K1Sim.Simulation.PhysicsLoop
import Mathlib.Data.Nat.Cast.Order.Field
import Mathlib.Tactic.LinearCombination

/-!
# SdkBridge/OdometryReset — when a sim reset restarts the odometry

The odometry model knows of a reset only by an update whose time is not past that of the update
before, while the publish phase follows a step counter that resets leave alone.
`odometry_restarts_iff` says along which patterns of resets every one of them is noticed.
-/

namespace K1Sim

open Foundations

namespace StatePublisher

variable {K : Type*} [Field K] [Libc K] [LinearOrder K] {ρ : Type*} (normal : ρ → K × ρ)

/-- The resets and the updates of a run, by the step count they happened at: the latest reset before
the last update and the latest of all, the start of the run counting as one; the last update; and
whether a reset has happened since. -/
structure ResetRun where
  anchor : ℕ := 0
  latest : ℕ := 0
  lastUpdate : Option ℕ := none
  fresh : Bool := false

/-- The physics loop with the publisher at its end. -/
def bridge (timestep : K) (divisor : ℤ) :
    Machine (SimCore K × StatePublisher K ρ) (LoopEvent K) (List (StateSample K)) :=
  (SimCore.physicsLoop timestep divisor).feed (machine normal)

omit [Libc K] [LinearOrder K] in
/-- The history variable of resets and updates. -/
def ResetRun.note (timestep : K) (divisor : ℤ) (h : ResetRun) (s : SimCore K × StatePublisher K ρ)
    (e : LoopEvent K) : ResetRun :=
  match e with
  | .reset => { h with latest := s.1.steps, fresh := true }
  | .step _ =>
    match (SimCore.physicsLoop timestep divisor).out s.1 e with
    | none => h
    | some update =>
      { anchor := h.latest
        latest := h.latest
        lastUpdate := some update.stepCount
        fresh := false }

/-- The true pose and velocity that the publisher reads from an update. -/
def groundTruth (update : SimStateUpdate K) : OdometryModel.Estimate K :=
  OdometryModel.truth update.base.position.x update.base.position.y (yawFromQuat update.base.quat)
    update.base.linVel.x update.base.linVel.y update.base.angVel.z

/-- The first update after a reset makes the odometry return the true pose and velocity of that
update: those read from it, and any others that it might have had. -/
def RestartsAfterReset (timestep : K) (divisor : ℤ)
    (p : (SimCore K × StatePublisher K ρ) × ResetRun) (e : LoopEvent K) : Prop :=
  ∀ update, (SimCore.physicsLoop timestep divisor).out p.1.1 e = some update → p.2.fresh = true →
    (p.1.2.publish normal update).1.odometry.estimate = groundTruth update
      ∧ ∀ x y yaw vx vy wz,
        (p.1.2.odometry.update normal update.simTime x y yaw vx vy wz).estimate
          = OdometryModel.truth x y yaw vx vy wz

omit [Libc K] [LinearOrder K] in
/-- Such an update is the first of the run, or a full publish period of steps ran between the latest
reset before the update before it and the latest reset before it. -/
def ResetsApart (timestep : K) (divisor : ℤ) (p : (SimCore K × StatePublisher K ρ) × ResetRun)
    (e : LoopEvent K) : Prop :=
  ∀ update, (SimCore.physicsLoop timestep divisor).out p.1.1 e = some update → p.2.fresh = true →
    p.2.lastUpdate = none ∨ p.2.anchor + SimCore.publishEvery divisor ≤ p.2.latest

/-- The history is true of the clock, the step counter and the odometry model. -/
structure ResetInv (timestep : K) (divisor : ℤ) (s : SimCore K × StatePublisher K ρ)
    (h : ResetRun) : Prop where
  enabled : s.2.odometry.config.enabled = true
  latest_le : h.latest ≤ s.1.steps
  time : s.1.time = timestep * (s.1.steps - h.latest)
  initialised : s.2.odometry.initialised = h.lastUpdate.isSome
  update : ∀ k, h.lastUpdate = some k →
    s.2.odometry.t = timestep * (k - h.anchor) ∧ SimCore.publishEvery divisor ∣ k
      ∧ k ≤ s.1.steps ∧ s.1.steps < k + SimCore.publishEvery divisor

variable {normal} {timestep : K} {divisor : ℤ}

omit [Libc K] in
theorem ResetInv.restarts_iff [IsStrictOrderedRing K] (ht : 0 < timestep)
    {s : SimCore K × StatePublisher K ρ} {h : ResetRun} (hinv : ResetInv timestep divisor s h)
    (hpublishes : SimCore.publishEvery divisor ∣ s.1.steps + 1) :
    s.2.odometry.Restarts (s.1.time + timestep)
      ↔ h.lastUpdate = none ∨ h.anchor + SimCore.publishEvery divisor ≤ h.latest := by
  rw [OdometryModel.Restarts, hinv.enabled, hinv.initialised]
  rcases hlast : h.lastUpdate with - | k
  case none => simp
  case some =>
    obtain ⟨hclock, hdvd, hle, hlt⟩ := hinv.update k hlast
    -- the update after the one at `k` is a publish period later
    have hnext : s.1.steps + 1 = k + SimCore.publishEvery divisor := by
      have hperiod := Nat.le_of_dvd (by omega) (Nat.dvd_sub hpublishes hdvd)
      omega
    have hcast : (s.1.steps : K) + 1 = k + SimCore.publishEvery divisor := by
      exact_mod_cast hnext
    have helapsed : s.1.time + timestep - s.2.odometry.t
        = timestep * ((h.anchor + SimCore.publishEvery divisor : ℕ) - h.latest : K) := by
      rw [hinv.time, hclock]
      push_cast
      linear_combination timestep * hcast
    simp only [Bool.true_eq_false, Option.isSome_some, false_or, reduceCtorEq]
    rw [helapsed, ← mul_zero timestep, mul_le_mul_iff_right₀ ht, sub_nonpos, Nat.cast_le]

theorem ResetInv.restartsAfterReset_iff [IsStrictOrderedRing K] (ht : 0 < timestep)
    {s : SimCore K × StatePublisher K ρ} {h : ResetRun} (hinv : ResetInv timestep divisor s h)
    (e : LoopEvent K) :
    RestartsAfterReset normal timestep divisor (s, h) e
      ↔ ResetsApart timestep divisor (s, h) e := by
  refine forall_congr' fun update => imp_congr_right fun hout => imp_congr_right fun _ => ?_
  obtain ⟨reading, rfl, -, hpublishes, rfl⟩ := SimCore.out_eq_some_iff.mp hout
  rw [publish_odometry, and_iff_right_of_imp fun hall => hall _ _ _ _ _ _,
    OdometryModel.returnsTruth_iff]
  exact hinv.restarts_iff ht hpublishes

theorem ResetInv.reset {core : SimCore K} {p : StatePublisher K ρ} {h : ResetRun}
    (hinv : ResetInv timestep divisor (core, p) h) :
    ResetInv timestep divisor ((bridge normal timestep divisor).next (core, p) .reset)
      (h.note timestep divisor (core, p) .reset) := by
  refine ⟨hinv.enabled, le_refl core.steps, ?_, hinv.initialised, fun k hk => hinv.update k hk⟩
  change 0 = timestep * ((core.steps : K) - core.steps)
  ring

/-- A step takes the clock and the counter on together, and an update the publisher with them. -/
theorem ResetInv.step {core : SimCore K} {p : StatePublisher K ρ} {h : ResetRun}
    (hinv : ResetInv timestep divisor (core, p) h) (reading : Reading K) :
    ResetInv timestep divisor ((bridge normal timestep divisor).next (core, p) (.step reading))
      (h.note timestep divisor (core, p) (.step reading)) := by
  obtain ⟨henabled, hle, htime, hinit, hupdate⟩ := hinv
  have hclock : core.time + timestep = timestep * (((core.steps + 1 : ℕ) : K) - h.latest) := by
    rw [show core.time = timestep * (core.steps - h.latest) from htime]
    push_cast
    ring
  rcases hout : (SimCore.physicsLoop timestep divisor).out core (.step reading) with - | update
  · simp only [bridge, Machine.feed, ResetRun.note, hout]
    refine ⟨henabled, Nat.le_succ_of_le hle, hclock, hinit, fun k hk => ?_⟩
    obtain ⟨ht, hdvd, hle', hlt⟩ := hupdate k hk
    refine ⟨ht, hdvd, Nat.le_succ_of_le hle', ?_⟩
    exact SimCore.succ_lt_of_out_eq_none hout hdvd hle' hlt
  · obtain ⟨reading, -, hpos, hdvd, rfl⟩ := SimCore.out_eq_some_iff.mp hout
    simp only [bridge, Machine.feed, ResetRun.note, hout]
    obtain ⟨ht, hinitialised, hconfig⟩ := publish_odometry_frame normal p
      ((core.step timestep).makeSnapshot reading)
    have henabled' := (congrArg OdometryModel.Config.enabled hconfig).trans henabled
    refine ⟨henabled', Nat.le_succ_of_le hle, hclock, hinitialised, fun k hk => ?_⟩
    obtain rfl := Option.some.inj hk
    exact ⟨ht.trans hclock, hdvd, le_refl _, Nat.lt_add_of_pos_right hpos⟩

theorem ResetInv.next {s : SimCore K × StatePublisher K ρ} {h : ResetRun}
    (hinv : ResetInv timestep divisor s h) (e : LoopEvent K) :
    ResetInv timestep divisor ((bridge normal timestep divisor).next s e)
      (h.note timestep divisor s e) := by
  rcases e with reading | -
  case step => exact hinv.step reading
  case reset => exact hinv.reset

/-- **A reset is noticed exactly when it moves the clock back past the last update.**  Along every
interleaving of steps and resets, the first update after each reset returns the truth if and only if
these updates are the first of the run or come with resets at least a publish period apart. -/
theorem odometry_restarts_iff [IsStrictOrderedRing K] (ht : 0 < timestep) (divisor : ℤ)
    {cfg : OdometryModel.Config K} (henabled : cfg.enabled = true) (rng : ρ)
    (es : List (LoopEvent K)) :
    ((bridge normal timestep divisor).withHistory (ResetRun.note timestep divisor)).Always
        (RestartsAfterReset normal timestep divisor)
        (({}, { odometry := { config := cfg, rng := rng } }), {}) es
      ↔ ((bridge normal timestep divisor).withHistory (ResetRun.note timestep divisor)).Always
        (ResetsApart timestep divisor)
        (({}, { odometry := { config := cfg, rng := rng } }), {}) es := by
  have hstart : ResetInv timestep divisor (({}, { odometry := { config := cfg, rng := rng } }) :
      SimCore K × StatePublisher K ρ) {} := by
    refine ⟨henabled, le_refl 0, ?_, rfl, nofun⟩
    change (0 : K) = timestep * (((0 : ℕ) : K) - ((0 : ℕ) : K))
    ring
  let Inv (s : (SimCore K × StatePublisher K ρ) × ResetRun) := ResetInv timestep divisor s.1 s.2
  exact Machine.always_iff_always _ (fun s e (hinv : Inv s) => hinv.restartsAfterReset_iff ht e)
    (fun s e hinv _ => hinv.next e) es _ hstart

/-- The odometry switched on, every error at its default. -/
def enabledOdometry : OdometryModel.Config ℚ := OdometryModel.loadConfig { enabled := some true }

/-- A reset between two updates a publish period apart is noticed. -/
theorem odometry_restarts_spaced :
    ((bridge noDraw 1 2).withHistory (ResetRun.note 1 2)).Always (RestartsAfterReset noDraw 1 2)
      (({}, { odometry := { config := enabledOdometry, rng := () } }), {})
      [.step restReading, .step restReading, .reset, .step restReading, .step restReading] := by
  refine (odometry_restarts_iff one_pos 2 rfl () _).mpr ⟨?_, ?_, ?_, ?_, ?_, trivial⟩
  · exact fun _ _ hfresh => absurd hfresh Bool.false_ne_true
  · exact fun _ _ hfresh => absurd hfresh Bool.false_ne_true
  · exact fun _ _ hfresh => absurd hfresh (by decide +kernel)
  · exact fun _ _ _ => .inr (by decide +kernel)
  · exact fun _ _ _ => .inr (by decide +kernel)

/-- A reset in each of two publish periods, the second earlier in its period than the first: the
clock is at 1 s at the first update and at 2 s at the second, which goes on from the estimate. -/
theorem odometry_not_restarted :
    ¬ ((bridge noDraw 1 2).withHistory (ResetRun.note 1 2)).Always (RestartsAfterReset noDraw 1 2)
      (({}, { odometry := { config := enabledOdometry, rng := () } }), {})
      [.step restReading, .reset, .step restReading, .reset, .step restReading,
        .step restReading] := by
  rintro ⟨-, -, -, -, -, hlast, -⟩
  have htruth := congrArg OdometryModel.Estimate.x ((hlast _ rfl rfl).2 1 0 0 0 0 0)
  exact absurd htruth (by decide +kernel)

end StatePublisher

end K1Sim
