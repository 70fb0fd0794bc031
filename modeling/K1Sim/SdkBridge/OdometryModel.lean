import K1Sim.Shared.Libc
import K1Sim.Shared.Mujoco
import Mathlib.Algebra.Order.Group.Defs
import Mathlib.Data.Fin.VecNotation

/-!
# SdkBridge/OdometryModel — the robot's own odometry

The planar body velocity is corrupted axis by axis and the pose integrated from it.  The first
update, and any update whose time is not past that of the one before, starts again from the truth
(`returnsTruth_iff`).
-/

namespace K1Sim

namespace OdometryModel

/-- `Config`. -/
structure Config (K : Type*) [Zero K] [One K] [OfNat K 10] where
  enabled : Bool := false
  scale : Fin 3 → K := fun _ => 1
  velocityNoiseDensity : Fin 3 → K := fun _ => 0
  biasSigma : Fin 3 → K := fun _ => 0
  biasTimeConstant : Fin 3 → K := fun _ => 10
  seed : UInt64 := 0

/-- `Estimate`: the planar pose, the body-frame velocity that moved it, and the variance of its
white noise. -/
structure Estimate (K : Type*) where
  x : K
  y : K
  yaw : K
  velocity : Fin 3 → K
  velocityVariance : Fin 3 → K

end OdometryModel

open OdometryModel

/-- `OdometryModel`.  `ρ` is the state of the random number generator. -/
structure OdometryModel (K ρ : Type*) [Field K] where
  config : Config K
  rng : ρ
  initialised : Bool := false
  t : K := 0
  bias : Fin 3 → K := fun _ => 0
  estimate : Estimate K := ⟨0, 0, 0, fun _ => 0, fun _ => 0⟩

namespace OdometryModel

variable {K : Type*} [Field K]

/-- The nodes of `config/odometry.yaml`. -/
structure Yaml (K : Type*) where
  enabled : Option Bool := none
  scale : Option (Fin 3 → K) := none
  velocityNoiseDensity : Option (Fin 3 → K) := none
  biasSigma : Option (Fin 3 → K) := none
  biasTimeConstant : Option (Fin 3 → K) := none
  seed : Option UInt64 := none

/-- `load_config`. -/
def loadConfig (node : Yaml K) : Config K :=
  let cfg : Config K := {}
  { enabled := node.enabled.getD cfg.enabled
    scale := node.scale.getD cfg.scale
    velocityNoiseDensity := node.velocityNoiseDensity.getD cfg.velocityNoiseDensity
    biasSigma := node.biasSigma.getD cfg.biasSigma
    biasTimeConstant := node.biasTimeConstant.getD cfg.biasTimeConstant
    seed := node.seed.getD cfg.seed }

variable [Libc K] {ρ : Type*} (normal : ρ → K × ρ)

/-- The true velocity in the yaw-only body frame. -/
def trueVelocity (yaw vxWorld vyWorld wz : K) : Fin 3 → K :=
  let c := Libc.cos yaw
  let s := Libc.sin yaw
  ![c * vxWorld + s * vyWorld, -s * vxWorld + c * vyWorld, wz]

/-- The estimate that is the truth. -/
def truth (x y yaw vxWorld vyWorld wz : K) : Estimate K :=
  ⟨x, y, yaw, trueVelocity yaw vxWorld vyWorld wz, fun _ => 0⟩

/-- A fresh bias from its stationary distribution, one draw per axis. -/
def freshBias (cfg : Config K) (rng : ρ) : (Fin 3 → K) × ρ :=
  let (n₀, rng) := normal rng
  let (n₁, rng) := normal rng
  let (n₂, rng) := normal rng
  (![cfg.biasSigma 0 * n₀, cfg.biasSigma 1 * n₁, cfg.biasSigma 2 * n₂], rng)

/-- The bias, the velocity and its variance on one axis, `dt` later: two draws. -/
def advanceAxis (cfg : Config K) (dt : K) (vTrue bias : Fin 3 → K) (i : Fin 3) (rng : ρ) :
    (K × K × K) × ρ :=
  let a := Libc.exp (-dt / cfg.biasTimeConstant i)
  let (n, rng) := normal rng
  let bias' := a * bias i + cfg.biasSigma i * Libc.sqrt (1 - a * a) * n
  let sampleSigma := cfg.velocityNoiseDensity i / Libc.sqrt dt
  let (n, rng) := normal rng
  ((bias', cfg.scale i * vTrue i + bias' + sampleSigma * n, sampleSigma * sampleSigma), rng)

/-- The pose `dt` later, rotating the velocity by the midpoint heading. -/
def integrate (dt : K) (estimate : Estimate K) (velocity variance : Fin 3 → K) : Estimate K :=
  let yawMid := estimate.yaw + 1 / 2 * velocity 2 * dt
  let cm := Libc.cos yawMid
  let sm := Libc.sin yawMid
  { x := estimate.x + (cm * velocity 0 - sm * velocity 1) * dt
    y := estimate.y + (sm * velocity 0 + cm * velocity 1) * dt
    yaw := Libc.remainder (estimate.yaw + velocity 2 * dt) (2 * Libc.pi)
    velocity := velocity
    velocityVariance := variance }

variable [LinearOrder K]

/-- An update at this time starts again from the truth. -/
def Restarts (m : OdometryModel K ρ) (t : K) : Prop :=
  m.config.enabled = false ∨ m.initialised = false ∨ t - m.t ≤ 0

instance (m : OdometryModel K ρ) (t : K) : Decidable (Restarts m t) :=
  inferInstanceAs (Decidable (_ ∨ _))

/-- `update`; the estimate it returns is the model's. -/
def update (m : OdometryModel K ρ) (t x y yaw vxWorld vyWorld wz : K) : OdometryModel K ρ :=
  if Restarts m t then
    let (bias, rng) := freshBias normal m.config m.rng
    { m with
      rng := rng
      initialised := true
      t := t
      bias := bias
      estimate := truth x y yaw vxWorld vyWorld wz }
  else
    let dt := t - m.t
    let vTrue := trueVelocity yaw vxWorld vyWorld wz
    let (a₀, rng) := advanceAxis normal m.config dt vTrue m.bias 0 m.rng
    let (a₁, rng) := advanceAxis normal m.config dt vTrue m.bias 1 rng
    let (a₂, rng) := advanceAxis normal m.config dt vTrue m.bias 2 rng
    { m with
      rng := rng
      t := t
      bias := ![a₀.1, a₁.1, a₂.1]
      estimate := integrate dt m.estimate ![a₀.2.1, a₁.2.1, a₂.2.1] ![a₀.2.2, a₁.2.2, a₂.2.2] }

section Facts

variable (m : OdometryModel K ρ) (t x y yaw vxWorld vyWorld wz : K)

/-- Every update leaves the model initialised at its own time, and configured as it was. -/
theorem update_frame :
    (update normal m t x y yaw vxWorld vyWorld wz).t = t
      ∧ (update normal m t x y yaw vxWorld vyWorld wz).initialised = true
      ∧ (update normal m t x y yaw vxWorld vyWorld wz).config = m.config := by
  rw [update]
  split_ifs with h
  · exact ⟨rfl, rfl, rfl⟩
  · have hinit : m.initialised = true := by
      simpa using (not_or.mp (not_or.mp h).2).1
    exact ⟨rfl, hinit, rfl⟩

theorem estimate_of_restarts (h : Restarts m t) :
    (update normal m t x y yaw vxWorld vyWorld wz).estimate
      = truth x y yaw vxWorld vyWorld wz := by
  rw [update, if_pos h]

/-- An update that does not restart takes no notice of the true position. -/
theorem estimate_of_not_restarts (h : ¬ Restarts m t) (x' y' : K) :
    (update normal m t x y yaw vxWorld vyWorld wz).estimate
      = (update normal m t x' y' yaw vxWorld vyWorld wz).estimate := by
  rw [update, update, if_neg h, if_neg h]

/-- **An update returns the truth, whatever it is, exactly when it restarts.** -/
theorem returnsTruth_iff :
    (∀ x y yaw vxWorld vyWorld wz, (update normal m t x y yaw vxWorld vyWorld wz).estimate
        = truth x y yaw vxWorld vyWorld wz)
      ↔ Restarts m t := by
  refine ⟨fun htruth => ?_, fun h x y yaw vxWorld vyWorld wz =>
    estimate_of_restarts normal m t x y yaw vxWorld vyWorld wz h⟩
  by_contra hgoes
  have hzero := htruth 0 0 0 0 0 0
  have hone := htruth 1 0 0 0 0 0
  rw [estimate_of_not_restarts normal m t 1 0 0 0 0 0 hgoes 0 0, hzero] at hone
  exact zero_ne_one (congrArg Estimate.x hone)

end Facts

end OdometryModel

end K1Sim
