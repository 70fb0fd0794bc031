import K1Sim.Foundations.GaussMarkov
import K1Sim.SdkBridge.OdometryModel
import K1Sim.Shared.RealLibc

/-!
# SdkBridge/OdometryNoise — the odometry noise at any publish rate

The draws of a run are those of one stream, so that an update finds its own at fixed places: the
bias of each axis is a Gauss-Markov process of its draws (`bias_eq_gaussMarkov`), and what the white
noise adds to the position of a robot that stands still is a random walk (`whiteX_eq_walk`).
-/

namespace K1Sim

open Foundations MeasureTheory ProbabilityTheory

/-- The planar pose and velocity of the base, in the world. -/
structure PlanarTruth (K : Type*) where
  x : K
  y : K
  yaw : K
  vxWorld : K
  vyWorld : K
  wz : K

namespace OdometryModel

section Updates

variable {K ρ : Type*} [Field K] [LinearOrder K] [Libc K] (normal : ρ → K × ρ)

/-- `update`, from the base's true pose and velocity. -/
def updateFrom (m : OdometryModel K ρ) (t : K) (p : PlanarTruth K) : OdometryModel K ρ :=
  m.update normal t p.x p.y p.yaw p.vxWorld p.vyWorld p.wz

/-- The model after the updates at `t 0, …, t n`. -/
def updates (m : OdometryModel K ρ) (t : ℕ → K) (truth : ℕ → PlanarTruth K) :
    ℕ → OdometryModel K ρ
  | 0 => m.updateFrom normal (t 0) (truth 0)
  | n + 1 => (updates m t truth n).updateFrom normal (t (n + 1)) (truth (n + 1))

end Updates

/-- `normal_(rng_)`, when the generator is the number of draws made so far. -/
def drawOf (ξ : ℕ → ℝ) (n : ℕ) : ℝ × ℕ := (ξ n, n + 1)

/-- The base stands still at yaw `0`. -/
def StandsStill (truth : ℕ → PlanarTruth ℝ) : Prop := ∃ x y, ∀ n, truth n = ⟨x, y, 0, 0, 0, 0⟩

/-- The model without its white noise. -/
def withoutWhite {ρ : Type*} (m : OdometryModel ℝ ρ) : OdometryModel ℝ ρ :=
  { m with config := { m.config with velocityNoiseDensity := fun _ => 0 } }

/-- The draw of the bias of axis `i` at update `n`. -/
def biasDraw (m : OdometryModel ℝ ℕ) (i : Fin 3) : ℕ → ℕ
  | 0 => m.rng + i
  | n + 1 => m.rng + 3 + 6 * n + 2 * i

/-- The draw of the white noise of axis `i` at update `n + 1`. -/
def whiteDraw (m : OdometryModel ℝ ℕ) (i : Fin 3) (n : ℕ) : ℕ := m.rng + 3 + 6 * n + 2 * i + 1

theorem biasDraw_injective (m : OdometryModel ℝ ℕ) (i : Fin 3) :
    Function.Injective (m.biasDraw i) := by
  have hi := i.isLt
  intro a b h
  rcases a with - | a <;> rcases b with - | b <;> simp only [biasDraw] at h <;> omega

theorem whiteDraw_injective (m : OdometryModel ℝ ℕ) (i : Fin 3) :
    Function.Injective (m.whiteDraw i) := by
  intro a b h
  simp only [whiteDraw] at h
  omega

/-! ## One update -/

section Update

variable (ξ : ℕ → ℝ) (m : OdometryModel ℝ ℕ) (t : ℝ) (p : PlanarTruth ℝ)

theorem update_of_restarts (h : Restarts m t) (i : Fin 3) :
    (m.updateFrom (drawOf ξ) t p).rng = m.rng + 3
      ∧ (m.updateFrom (drawOf ξ) t p).bias i
        = m.config.biasSigma i * ξ (m.rng + i) := by
  rw [updateFrom, update, if_pos h]
  refine ⟨rfl, ?_⟩
  fin_cases i <;> rfl

/-- **An update that goes on** moves each axis by its own two draws. -/
theorem update_of_not_restarts (h : ¬ Restarts m t) (i : Fin 3) :
    (m.updateFrom (drawOf ξ) t p).rng = m.rng + 6
      ∧ (m.updateFrom (drawOf ξ) t p).bias i
        = Real.exp (-(t - m.t) / m.config.biasTimeConstant i) * m.bias i
          + m.config.biasSigma i
            * √(1 - Real.exp (-(t - m.t) / m.config.biasTimeConstant i)
              * Real.exp (-(t - m.t) / m.config.biasTimeConstant i))
            * ξ (m.rng + 2 * i)
      ∧ (m.updateFrom (drawOf ξ) t p).estimate.velocity i
        = m.config.scale i * trueVelocity p.yaw p.vxWorld p.vyWorld p.wz i
          + (m.updateFrom (drawOf ξ) t p).bias i
          + m.config.velocityNoiseDensity i / √(t - m.t) * ξ (m.rng + 2 * i + 1)
      ∧ (m.updateFrom (drawOf ξ) t p).estimate.velocityVariance i
        = m.config.velocityNoiseDensity i / √(t - m.t)
          * (m.config.velocityNoiseDensity i / √(t - m.t)) := by
  rw [updateFrom, update, if_neg h]
  fin_cases i <;> exact ⟨rfl, rfl, rfl, rfl⟩

/-- The pose of such an update is integrated from its own velocity. -/
theorem estimate_eq_integrate (h : ¬ Restarts m t) :
    (m.updateFrom (drawOf ξ) t p).estimate
      = integrate (t - m.t) m.estimate
        (m.updateFrom (drawOf ξ) t p).estimate.velocity
        (m.updateFrom (drawOf ξ) t p).estimate.velocityVariance := by
  rw [updateFrom, update, if_neg h]
  rfl

end Update

/-- Heading straight on at yaw `0`, the position moves by the velocity. -/
theorem integrate_straight (dt : ℝ) {e : Estimate ℝ} {v : Fin 3 → ℝ} (var : Fin 3 → ℝ)
    (hyaw : e.yaw = 0) (hv : v 2 = 0) :
    (integrate dt e v var).x = e.x + v 0 * dt ∧ (integrate dt e v var).y = e.y + v 1 * dt
      ∧ (integrate dt e v var).yaw = 0 := by
  have hmid : e.yaw + 1 / 2 * v 2 * dt = 0 := by rw [hyaw, hv, mul_zero, zero_mul, add_zero]
  refine ⟨?_, ?_, ?_⟩
  · change e.x + (Real.cos (e.yaw + 1 / 2 * v 2 * dt) * v 0
      - Real.sin (e.yaw + 1 / 2 * v 2 * dt) * v 1) * dt = _
    rw [hmid, Real.cos_zero, Real.sin_zero, one_mul, zero_mul, sub_zero]
  · change e.y + (Real.sin (e.yaw + 1 / 2 * v 2 * dt) * v 0
      + Real.cos (e.yaw + 1 / 2 * v 2 * dt) * v 1) * dt = _
    rw [hmid, Real.cos_zero, Real.sin_zero, one_mul, zero_mul, zero_add]
  · change Libc.remainder (e.yaw + v 2 * dt) (2 * Libc.pi) = 0
    rw [hyaw, hv, zero_mul, add_zero, remainder_zero]

/-! ## A run of updates -/

variable {Ω : Type*}

/-- The model after the updates at `t 0, …, t n`, on the draws `ξ` of the outcome `ω`. -/
noncomputable def sampled (ξ : ℕ → Ω → ℝ) (m : OdometryModel ℝ ℕ) (t : ℕ → ℝ)
    (truth : Ω → ℕ → PlanarTruth ℝ) (n : ℕ) (ω : Ω) : OdometryModel ℝ ℕ :=
  updates (drawOf fun k => ξ k ω) m t (truth ω) n

/-- The part of an estimate due to white noise: what it differs by from the one that the same draws
give without white noise. -/
noncomputable def whitePart (ξ : ℕ → Ω → ℝ) (m : OdometryModel ℝ ℕ) (t : ℕ → ℝ)
    (truth : Ω → ℕ → PlanarTruth ℝ) (n : ℕ) (field : Estimate ℝ → ℝ) (ω : Ω) : ℝ :=
  field (sampled ξ m t truth n ω).estimate - field (sampled ξ m.withoutWhite t truth n ω).estimate

section Run

variable {m : OdometryModel ℝ ℕ} {t : ℕ → ℝ} (ξ : ℕ → Ω → ℝ) (truth : Ω → ℕ → PlanarTruth ℝ)
  (n : ℕ) (ω : Ω)

theorem sampled_frame : (sampled ξ m t truth n ω).t = t n
    ∧ (sampled ξ m t truth n ω).initialised = true
    ∧ (sampled ξ m t truth n ω).config = m.config := by
  induction n with
  | zero => exact update_frame _ _ _ _ _ _ _ _ _
  | succ n ih =>
    have hframe := update_frame (drawOf fun k => ξ k ω) (sampled ξ m t truth n ω) (t (n + 1))
    refine ⟨(hframe _ _ _ _ _ _).1, (hframe _ _ _ _ _ _).2.1, ?_⟩
    exact (hframe _ _ _ _ _ _).2.2.trans ih.2.2

variable (henabled : m.config.enabled = true) (ht : StrictMono t)

include henabled ht

theorem not_restarts_sampled : ¬ Restarts (sampled ξ m t truth n ω) (t (n + 1)) := by
  obtain ⟨htime, hinit, hconfig⟩ := sampled_frame (m := m) (t := t) ξ truth n ω
  have hdt : ¬ t (n + 1) - t n ≤ 0 := not_le.mpr (sub_pos.mpr (ht n.lt_succ_self))
  rw [Restarts, htime, hinit, hconfig, henabled]
  simp [hdt]

/-- The pose of a later update is integrated from its own velocity. -/
theorem sampled_succ_estimate : (sampled ξ m t truth (n + 1) ω).estimate
    = integrate (t (n + 1) - t n) (sampled ξ m t truth n ω).estimate
      (sampled ξ m t truth (n + 1) ω).estimate.velocity
      (sampled ξ m t truth (n + 1) ω).estimate.velocityVariance := by
  have hstep := estimate_eq_integrate (fun k => ξ k ω) (sampled ξ m t truth n ω) (t (n + 1))
    (truth ω (n + 1)) (not_restarts_sampled ξ truth n ω henabled ht)
  rw [(sampled_frame ξ truth n ω).1] at hstep
  exact hstep

variable (hfresh : Restarts m (t 0))

include hfresh

theorem rng_sampled : (sampled ξ m t truth n ω).rng = m.rng + 3 + 6 * n := by
  induction n with
  | zero => exact (update_of_restarts _ m (t 0) _ hfresh 0).1
  | succ n ih =>
    have hgoes := not_restarts_sampled ξ truth n ω henabled ht
    have hrng := (update_of_not_restarts (fun k => ξ k ω) (sampled ξ m t truth n ω) (t (n + 1))
      (truth ω (n + 1)) hgoes 0).1
    rw [ih] at hrng
    exact hrng

/-- **The bias of an axis is a Gauss-Markov process** of its own draws, whatever the base does. -/
theorem bias_eq_gaussMarkov (i : Fin 3) : (sampled ξ m t truth n ω).bias i
    = gaussMarkov (m.config.biasSigma i) (m.config.biasTimeConstant i) t
      (fun k => ξ (m.biasDraw i k)) n ω := by
  induction n with
  | zero => exact (update_of_restarts _ m (t 0) _ hfresh i).2
  | succ n ih =>
    have hgoes := not_restarts_sampled ξ truth n ω henabled ht
    have hbias := (update_of_not_restarts (fun k => ξ k ω) (sampled ξ m t truth n ω) (t (n + 1))
      (truth ω (n + 1)) hgoes i).2.1
    obtain ⟨htime, -, hconfig⟩ := sampled_frame (m := m) (t := t) ξ truth n ω
    rw [htime, hconfig, rng_sampled ξ truth n ω henabled ht hfresh, ih] at hbias
    exact hbias

/-- The velocity of a later update: what the base does, the bias, and one draw. -/
theorem velocity_sampled (i : Fin 3) :
    (sampled ξ m t truth (n + 1) ω).estimate.velocity i
      = m.config.scale i * trueVelocity (truth ω (n + 1)).yaw (truth ω (n + 1)).vxWorld
          (truth ω (n + 1)).vyWorld (truth ω (n + 1)).wz i
        + gaussMarkov (m.config.biasSigma i) (m.config.biasTimeConstant i) t
          (fun k => ξ (m.biasDraw i k)) (n + 1) ω
        + m.config.velocityNoiseDensity i / √(t (n + 1) - t n) * ξ (m.whiteDraw i n) ω
    ∧ (sampled ξ m t truth (n + 1) ω).estimate.velocityVariance i
      = (m.config.velocityNoiseDensity i / √(t (n + 1) - t n)) ^ 2 := by
  have hgoes := not_restarts_sampled ξ truth n ω henabled ht
  obtain ⟨-, -, hvelocity, hvariance⟩ := update_of_not_restarts (fun k => ξ k ω)
    (sampled ξ m t truth n ω) (t (n + 1)) (truth ω (n + 1)) hgoes i
  obtain ⟨htime, -, hconfig⟩ := sampled_frame (m := m) (t := t) ξ truth n ω
  rw [htime, hconfig] at hvelocity hvariance
  rw [rng_sampled ξ truth n ω henabled ht hfresh] at hvelocity
  rw [← bias_eq_gaussMarkov ξ truth (n + 1) ω henabled ht hfresh, sq]
  exact ⟨hvelocity, hvariance⟩

/-- **What white noise adds to a velocity** is its one draw, at the standard deviation of a
sample. -/
theorem whitePart_velocity_succ (i : Fin 3) :
    whitePart ξ m t truth (n + 1) (fun e => e.velocity i) ω
      = m.config.velocityNoiseDensity i / √(t (n + 1) - t n) * ξ (m.whiteDraw i n) ω := by
  have hwith := (velocity_sampled ξ truth n ω henabled ht hfresh i).1
  have hwithout :=
    (velocity_sampled (m := m.withoutWhite) ξ truth n ω henabled ht hfresh i).1
  have hnone : m.withoutWhite.config.velocityNoiseDensity i / √(t (n + 1) - t n)
      * ξ (m.withoutWhite.whiteDraw i n) ω = 0 := by
    change 0 / √(t (n + 1) - t n) * _ = 0
    rw [zero_div, zero_mul]
  rw [whitePart, hwith, hwithout, hnone, add_zero]
  exact add_sub_cancel_left _ _

omit henabled ht in
/-- The first update is the truth, and has no white noise. -/
theorem whitePart_zero (field : Estimate ℝ → ℝ) : whitePart ξ m t truth 0 field ω = 0 := by
  have hwith := estimate_of_restarts (drawOf fun k => ξ k ω) m (t 0) (truth ω 0).x (truth ω 0).y
    (truth ω 0).yaw (truth ω 0).vxWorld (truth ω 0).vyWorld (truth ω 0).wz hfresh
  have hwithout := estimate_of_restarts (drawOf fun k => ξ k ω) m.withoutWhite (t 0)
    (truth ω 0).x (truth ω 0).y (truth ω 0).yaw (truth ω 0).vxWorld (truth ω 0).vyWorld
    (truth ω 0).wz hfresh
  have heq : (sampled ξ m t truth 0 ω).estimate
      = (sampled ξ m.withoutWhite t truth 0 ω).estimate := hwith.trans hwithout.symm
  rw [whitePart, heq, sub_self]

/-! ## Standing still -/

variable (hstill : StandsStill (truth ω)) (hwhite : m.config.velocityNoiseDensity 2 = 0)
  (hsigma : m.config.biasSigma 2 = 0)

include hstill hwhite hsigma

/-- Standing still without noise on the yaw axis, the estimate does not turn. -/
theorem turnRate_still : (sampled ξ m t truth (n + 1) ω).estimate.velocity 2 = 0 := by
  obtain ⟨x, y, hstill⟩ := hstill
  rw [(velocity_sampled ξ truth n ω henabled ht hfresh 2).1, hwhite, hsigma, gaussMarkov_zero,
    hstill (n + 1)]
  change m.config.scale 2 * 0 + 0 + 0 / √(t (n + 1) - t n) * _ = 0
  rw [mul_zero, add_zero, zero_div, zero_mul, add_zero]

theorem yaw_still : (sampled ξ m t truth n ω).estimate.yaw = 0 := by
  induction n with
  | zero =>
    obtain ⟨x, y, hstill⟩ := hstill
    have htruth := estimate_of_restarts (drawOf fun k => ξ k ω) m (t 0) (truth ω 0).x
      (truth ω 0).y (truth ω 0).yaw (truth ω 0).vxWorld (truth ω 0).vyWorld (truth ω 0).wz hfresh
    change (updateFrom _ m (t 0) (truth ω 0)).estimate.yaw = 0
    rw [updateFrom, htruth, hstill 0]
    rfl
  | succ n ih =>
    rw [sampled_succ_estimate ξ truth n ω henabled ht]
    exact (integrate_straight _ _ ih
      (turnRate_still ξ truth n ω henabled ht hfresh hstill hwhite hsigma)).2.2

/-- Standing still without noise on the yaw axis, the position moves by the velocity. -/
theorem position_still :
    (sampled ξ m t truth (n + 1) ω).estimate.x = (sampled ξ m t truth n ω).estimate.x
      + (sampled ξ m t truth (n + 1) ω).estimate.velocity 0 * (t (n + 1) - t n)
    ∧ (sampled ξ m t truth (n + 1) ω).estimate.y = (sampled ξ m t truth n ω).estimate.y
      + (sampled ξ m t truth (n + 1) ω).estimate.velocity 1 * (t (n + 1) - t n) := by
  have hstraight := integrate_straight (t (n + 1) - t n)
    (sampled ξ m t truth (n + 1) ω).estimate.velocityVariance
    (yaw_still ξ truth n ω henabled ht hfresh hstill hwhite hsigma)
    (turnRate_still ξ truth n ω henabled ht hfresh hstill hwhite hsigma)
  rw [← sampled_succ_estimate ξ truth n ω henabled ht] at hstraight
  exact ⟨hstraight.1, hstraight.2.1⟩

/-- **What white noise adds to the position** is a random walk of its draws, on each axis. -/
theorem whitePart_position_still :
    whitePart ξ m t truth n Estimate.x ω
      = walk (m.config.velocityNoiseDensity 0) t (fun k => ξ (m.whiteDraw 0 k)) n ω
    ∧ whitePart ξ m t truth n Estimate.y ω
      = walk (m.config.velocityNoiseDensity 1) t (fun k => ξ (m.whiteDraw 1 k)) n ω := by
  induction n with
  | zero =>
    exact ⟨whitePart_zero ξ truth ω hfresh _, whitePart_zero ξ truth ω hfresh _⟩
  | succ n ih =>
    have hwith := position_still ξ truth n ω henabled ht hfresh hstill hwhite hsigma
    have hwithout := position_still (m := m.withoutWhite) ξ truth n ω henabled ht hfresh hstill
      rfl hsigma
    have hvelocity := whitePart_velocity_succ ξ truth n ω henabled ht hfresh
    obtain ⟨hx, hy⟩ := ih
    rw [whitePart] at hx hy
    refine ⟨?_, ?_⟩
    · rw [walk_succ, mul_assoc, ← hvelocity 0, ← hx, whitePart, whitePart, hwith.1, hwithout.1]
      ring
    · rw [walk_succ, mul_assoc, ← hvelocity 1, ← hy, whitePart, whitePart, hwith.2, hwithout.2]
      ring

end Run

/-! ## Variances -/

/-- The noise is the same at any publish rate: what it spreads by depends on the times only through
the time passed. -/
structure RateIndependent {mΩ : MeasurableSpace Ω} (ξ : ℕ → Ω → ℝ) (μ : Measure Ω)
    (m : OdometryModel ℝ ℕ) (t : ℕ → ℝ) : Prop where
  /-- Every bias has its variance at every update. -/
  bias_variance : ∀ truth i n,
    Var[fun ω => (sampled ξ m t truth n ω).bias i; μ] = m.config.biasSigma i ^ 2
  /-- Between two updates, a bias decorrelates by the time between them. -/
  bias_covariance : ∀ truth i j k, j ≤ k →
    cov[fun ω => (sampled ξ m t truth j ω).bias i, fun ω => (sampled ξ m t truth k ω).bias i; μ]
      = m.config.biasSigma i ^ 2 * Real.exp (-(t k - t j) / m.config.biasTimeConstant i)
  /-- Standing still at yaw zero without noise on the yaw axis, the white noise spreads the position
  with the time passed. -/
  position_variance : ∀ truth : Ω → ℕ → PlanarTruth ℝ, (∀ ω, StandsStill (truth ω)) →
    m.config.velocityNoiseDensity 2 = 0 → m.config.biasSigma 2 = 0 → ∀ n,
    Var[whitePart ξ m t truth n Estimate.x; μ]
        = m.config.velocityNoiseDensity 0 ^ 2 * (t n - t 0)
      ∧ Var[whitePart ξ m t truth n Estimate.y; μ]
        = m.config.velocityNoiseDensity 1 ^ 2 * (t n - t 0)
  /-- `velocityVariance` is the variance of the white noise of its sample. -/
  velocityVariance_eq : ∀ truth i n ω, (sampled ξ m t truth n ω).estimate.velocityVariance i
    = Var[whitePart ξ m t truth n fun e => e.velocity i; μ]

/-- **The odometry noise does not depend on the publish rate.** -/
theorem rateIndependent {mΩ : MeasurableSpace Ω} {μ : Measure Ω} [IsProbabilityMeasure μ]
    {ξ : ℕ → Ω → ℝ} (hξ : StandardDraws ξ μ) {m : OdometryModel ℝ ℕ}
    (henabled : m.config.enabled = true) (htau : ∀ i, 0 < m.config.biasTimeConstant i) {t : ℕ → ℝ}
    (ht : StrictMono t) (hfresh : Restarts m (t 0)) : RateIndependent ξ μ m t where
  bias_variance truth i n := by
    have hbias : (fun ω => (sampled ξ m t truth n ω).bias i)
        = gaussMarkov _ _ t (fun k => ξ (m.biasDraw i k)) n :=
      funext fun ω => bias_eq_gaussMarkov ξ truth n ω henabled ht hfresh i
    rw [hbias, (hξ.comp (m.biasDraw_injective i)).variance_gaussMarkov _ (htau i) ht]
  bias_covariance truth i j k hjk := by
    have hbias (n : ℕ) : (fun ω => (sampled ξ m t truth n ω).bias i)
        = gaussMarkov _ _ t (fun k => ξ (m.biasDraw i k)) n :=
      funext fun ω => bias_eq_gaussMarkov ξ truth n ω henabled ht hfresh i
    rw [hbias, hbias, (hξ.comp (m.biasDraw_injective i)).covariance_gaussMarkov _ (htau i) ht hjk]
  position_variance truth hstill hwhite hsigma n := by
    have hposition (ω : Ω) :=
      whitePart_position_still ξ truth n ω henabled ht hfresh (hstill ω) hwhite hsigma
    refine ⟨?_, ?_⟩
    · rw [funext fun ω => (hposition ω).1, (hξ.comp (m.whiteDraw_injective 0)).variance_walk _ ht]
    · rw [funext fun ω => (hposition ω).2, (hξ.comp (m.whiteDraw_injective 1)).variance_walk _ ht]
  velocityVariance_eq truth i n ω := by
    rcases n with - | n
    case zero =>
      rw [funext fun ω => whitePart_zero ξ truth ω hfresh fun e => e.velocity i]
      have htruth := estimate_of_restarts (drawOf fun k => ξ k ω) m (t 0) (truth ω 0).x
        (truth ω 0).y (truth ω 0).yaw (truth ω 0).vxWorld (truth ω 0).vyWorld (truth ω 0).wz hfresh
      change (updateFrom _ m (t 0) (truth ω 0)).estimate.velocityVariance i = _
      rw [updateFrom, htruth]
      exact (variance_zero μ).symm
    case succ =>
      rw [(velocity_sampled ξ truth n ω henabled ht hfresh i).2,
        funext fun ω => whitePart_velocity_succ ξ truth n ω henabled ht hfresh i,
        variance_const_mul, hξ.variance, mul_one]

/-- The errors of a model on five-second biases. -/
noncomputable def noisyConfig : Config ℝ where
  enabled := true
  velocityNoiseDensity := ![1 / 50, 1 / 50, 0]
  biasSigma := ![1 / 100, 1 / 100, 0]
  biasTimeConstant := fun _ => 5

theorem rateIndependent_fifty_hertz : RateIndependent (fun n (ω : ℕ → ℝ) => ω n) normalStream
    { config := noisyConfig, rng := 0 } (fun n => (n : ℝ) / 50) :=
  rateIndependent standardDraws_normalStream rfl (fun _ => by norm_num [noisyConfig])
    (fun _ _ h => div_lt_div_of_pos_right (Nat.cast_lt.mpr h) (by norm_num)) (.inr (.inl rfl))

end OdometryModel

end K1Sim
