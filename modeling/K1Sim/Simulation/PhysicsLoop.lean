import K1Sim.Foundations.Machine
import K1Sim.Shared.SimMessages
import Mathlib.Algebra.Order.Ring.Defs
import Mathlib.Tactic.Ring

/-!
# Simulation/PhysicsLoop — the clock, the step counter and the publish phase

`physicsLoop` is `SimCore::physics_loop` as the other modules see it: each physics step moves the
simulation clock and the step counter, and publishes a state update when the counter is a multiple
of `state_publish_divisor`; `SimCore::reset` rewinds the clock and leaves the counter alone.
-/

namespace K1Sim

open Foundations

/-- What moves the physics loop: a step, with what a snapshot after it would read, and a reset to a
keyframe of time zero. -/
inductive LoopEvent (K : Type*) where
  | step (reading : Reading K)
  | reset

/-- The part of `SimCore` that its updates are stamped from. -/
structure SimCore (K : Type*) [Zero K] where
  steps : ℕ := 0
  time : K := 0

namespace SimCore

/-- `publish_every`: a divisor that is not positive publishes nothing. -/
def publishEvery (statePublishDivisor : ℤ) : ℕ := statePublishDivisor.toNat

/-- `make_snapshot`. -/
def makeSnapshot {K : Type*} [Zero K] (core : SimCore K) (reading : Reading K) : SimStateUpdate K :=
  { reading with simTime := core.time, stepCount := core.steps }

variable {K : Type*} [Field K]

/-- One pass of the loop under the mutex. -/
def step (timestep : K) (core : SimCore K) : SimCore K :=
  { steps := core.steps + 1, time := core.time + timestep }

/-- Whether a pass of the loop ends in a snapshot. -/
def publishes (every : ℕ) (core : SimCore K) : Bool := 0 < every && core.steps % every == 0

/-- `reset`. -/
def reset (core : SimCore K) : SimCore K := { core with time := 0 }

/-- `physics_loop`, with the resets that other threads ask for between its passes. -/
def physicsLoop (timestep : K) (statePublishDivisor : ℤ) :
    Machine (SimCore K) (LoopEvent K) (SimStateUpdate K) where
  next core
    | .step _ => core.step timestep
    | .reset => core.reset
  out core
    | .step reading =>
      let core := core.step timestep
      if publishes (publishEvery statePublishDivisor) core then some (core.makeSnapshot reading)
      else none
    | .reset => none

/-- **An update is published exactly when the step counter reaches a multiple of the publish
period**, stamped with the clock and the counter. -/
theorem out_eq_some_iff {timestep : K} {divisor : ℤ} {core : SimCore K} {e : LoopEvent K}
    {update : SimStateUpdate K} :
    (physicsLoop timestep divisor).out core e = some update
      ↔ ∃ reading, e = .step reading ∧ 0 < publishEvery divisor
        ∧ publishEvery divisor ∣ core.steps + 1
        ∧ (core.step timestep).makeSnapshot reading = update := by
  rcases e with reading | -
  case reset => simp [physicsLoop]
  case step =>
    have hpublishes : publishes (publishEvery divisor) (core.step timestep) = true
        ↔ 0 < publishEvery divisor ∧ publishEvery divisor ∣ core.steps + 1 := by
      simp [publishes, step, Nat.dvd_iff_mod_eq_zero]
    simp only [physicsLoop, Option.ite_none_right_eq_some, hpublishes, Option.some.injEq,
      LoopEvent.step.injEq, exists_eq_left', and_assoc]

/-- A step that publishes nothing stays short of the next multiple of the publish period. -/
theorem succ_lt_of_out_eq_none {timestep : K} {divisor : ℤ} {core : SimCore K}
    {reading : Reading K} (hout : (physicsLoop timestep divisor).out core (.step reading) = none)
    {k : ℕ} (hdvd : publishEvery divisor ∣ k) (hle : k ≤ core.steps)
    (hlt : core.steps < k + publishEvery divisor) :
    core.steps + 1 < k + publishEvery divisor := by
  refine lt_of_le_of_ne hlt fun hnext => ?_
  have hpublishes : publishEvery divisor ∣ core.steps + 1 := by
    rw [hnext]
    exact Nat.dvd_add_self_right.mpr hdvd
  have hsome : (physicsLoop timestep divisor).out core (.step reading)
      = some ((core.step timestep).makeSnapshot reading) :=
    out_eq_some_iff.mpr ⟨reading, rfl, by omega, hpublishes, rfl⟩
  rw [hout] at hsome
  exact nomatch hsome

end SimCore

end K1Sim
