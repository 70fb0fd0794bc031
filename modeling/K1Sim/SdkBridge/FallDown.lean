import K1Sim.SdkBridge.StatePublisher
import K1Sim.Simulation.PhysicsLoop
import Mathlib.Algebra.Order.Group.MinMax
import Mathlib.Tactic.LinearCombination

/-!
# SdkBridge/FallDown — the keepalive of rt/fall_down

The keepalive compares absolute simulation times, and resets rewind the simulation clock.
`fallDown_keepsAlive_iff` says along which runs the topic is nevertheless written at every change
and once a second of simulated running.
-/

namespace K1Sim

open Foundations

namespace StatePublisher

variable {K : Type*} [Field K] [Libc K] [LinearOrder K] {ρ : Type*} (normal : ρ → K × ρ)

/-- Since the last sample of `rt/fall_down`: the forward time covered from update to update, and the
time rewound; with the fall state of that sample and the time of the last update. -/
structure Coverage (K : Type*) [Zero K] where
  published : Option FallState := none
  prevTime : K := 0
  covered : K := 0
  rewound : K := 0

namespace Coverage

omit [Libc K] in
/-- The forward time covered up to an update. -/
def coveredAt (h : Coverage K) (update : SimStateUpdate K) : K :=
  h.covered + max (update.simTime - h.prevTime) 0

omit [Libc K] in
/-- The time rewound up to an update. -/
def rewoundAt (h : Coverage K) (update : SimStateUpdate K) : K :=
  h.rewound + max (-(update.simTime - h.prevTime)) 0

/-- The history variable: a sample starts it over. -/
def note (h : Coverage K) (p : StatePublisher K ρ) (update : SimStateUpdate K) : Coverage K :=
  if (p.publish normal update).2.any StateSample.isFallDown then
    { published := some update.fallState, prevTime := update.simTime }
  else
    { h with
      prevTime := update.simTime
      covered := h.coveredAt update
      rewound := h.rewoundAt update }

omit [Libc K] in
/-- Forward and rewound time make up the clock. -/
theorem coveredAt_sub_rewoundAt [IsStrictOrderedRing K] (h : Coverage K)
    (update : SimStateUpdate K) :
    h.coveredAt update - h.rewoundAt update
      = h.covered - h.rewound + (update.simTime - h.prevTime) := by
  have hsplit := max_zero_sub_max_neg_zero_eq_self (update.simTime - h.prevTime)
  rw [coveredAt, rewoundAt]
  linear_combination hsplit

end Coverage

/-- `rt/fall_down` is written on a change of fall state, and when the forward time covered since the
last sample reaches a second. -/
def KeepsAlive (p : StatePublisher K ρ × Coverage K) (update : SimStateUpdate K) : Prop :=
  p.2.published ≠ some update.fallState ∨ 1 ≤ p.2.coveredAt update →
    (p.1.publish normal update).2.any StateSample.isFallDown = true

/-- When the forward time covered since the last sample reaches a second with the fall state
unchanged, it exceeds the time rewound since that sample by a second. -/
def OutrunsResets (p : StatePublisher K ρ × Coverage K) (update : SimStateUpdate K) : Prop :=
  p.2.published = some update.fallState → 1 ≤ p.2.coveredAt update →
    p.2.rewoundAt update + 1 ≤ p.2.coveredAt update

/-- The publisher remembers the last sample, and the clock has moved by the time covered, less the
time rewound, since then. -/
structure CoverageInv (p : StatePublisher K ρ × Coverage K) : Prop where
  have_eq : p.1.haveLastFallState = p.2.published.isSome
  last_eq : p.1.lastFallState = p.2.published
  clock : p.2.published.isSome = true →
    p.2.prevTime - p.1.lastFallPublishTime = p.2.covered - p.2.rewound

theorem publish_of_due {p : StatePublisher K ρ} {update : SimStateUpdate K}
    (h : p.fallDue update = true) :
    (p.publish normal update).1.haveLastFallState = true
      ∧ (p.publish normal update).1.lastFallState = some update.fallState
      ∧ (p.publish normal update).1.lastFallPublishTime = update.simTime := by
  rw [publish, if_pos h]
  exact ⟨rfl, rfl, rfl⟩

theorem publish_of_not_due {p : StatePublisher K ρ} {update : SimStateUpdate K}
    (h : p.fallDue update = false) :
    (p.publish normal update).1.haveLastFallState = p.haveLastFallState
      ∧ (p.publish normal update).1.lastFallState = p.lastFallState
      ∧ (p.publish normal update).1.lastFallPublishTime = p.lastFallPublishTime := by
  rw [publish, if_neg (by simp [h])]
  exact ⟨rfl, rfl, rfl⟩

variable {normal}

namespace CoverageInv

variable {p : StatePublisher K ρ × Coverage K}

omit [Libc K] [LinearOrder K] in
theorem fallChanged_iff (hinv : CoverageInv p) (update : SimStateUpdate K) :
    p.1.fallChanged update = true ↔ p.2.published ≠ some update.fallState := by
  rw [fallChanged, hinv.have_eq, hinv.last_eq]
  rcases p.2.published with - | fallState <;> simp

variable [IsStrictOrderedRing K]

omit [Libc K] in
/-- Once a sample is out, the time the publisher sees gone is the time covered less the time
rewound. -/
theorem clock_update (hinv : CoverageInv p) {update : SimStateUpdate K}
    (hsame : p.2.published.isSome = true) :
    update.simTime - p.1.lastFallPublishTime = p.2.coveredAt update - p.2.rewoundAt update := by
  rw [Coverage.coveredAt_sub_rewoundAt]
  linear_combination hinv.clock hsame

theorem keepsAlive_iff (hinv : CoverageInv p) (update : SimStateUpdate K) :
    KeepsAlive normal p update ↔ OutrunsResets p update := by
  rw [KeepsAlive, OutrunsResets, any_isFallDown_publish, fallDue, Bool.or_eq_true,
    decide_eq_true_eq, hinv.fallChanged_iff update]
  rcases eq_or_ne p.2.published (some update.fallState) with hsame | hchanged
  · rw [hinv.clock_update (by rw [hsame]; rfl), le_sub_iff_add_le']
    simp only [hsame, ne_eq, not_true_eq_false, false_or, forall_const]
  · simp only [hchanged, ne_eq, not_false_eq_true, true_or, forall_const, false_imp_iff]

theorem next (hinv : CoverageInv p) (update : SimStateUpdate K) :
    CoverageInv (((machine normal).withHistory (Coverage.note normal)).next p update) := by
  obtain ⟨p, h⟩ := p
  simp only [Machine.withHistory, machine, Coverage.note, any_isFallDown_publish]
  rcases Bool.eq_false_or_eq_true (p.fallDue update) with hdue | hquiet
  · obtain ⟨hhave, hlast, htime⟩ := publish_of_due normal hdue
    rw [if_pos hdue]
    refine ⟨hhave, hlast, fun _ => ?_⟩
    rw [htime, sub_self, sub_self]
  · obtain ⟨hhave, hlast, htime⟩ := publish_of_not_due normal hquiet
    rw [if_neg (by simp [hquiet])]
    refine ⟨hhave.trans hinv.have_eq, hlast.trans hinv.last_eq, fun hsome => ?_⟩
    rw [htime]
    exact hinv.clock_update hsome

end CoverageInv

variable [IsStrictOrderedRing K]

variable (normal)

/-- **rt/fall_down is kept alive exactly along the runs that outrun their resets**: a reset makes
the next second of silence longer by the time it rewinds. -/
theorem fallDown_keepsAlive_iff (m : OdometryModel K ρ) (updates : List (SimStateUpdate K)) :
    ((machine normal).withHistory (Coverage.note normal)).Always (KeepsAlive normal)
        ({ odometry := m }, {}) updates
      ↔ ((machine normal).withHistory (Coverage.note normal)).Always OutrunsResets
        ({ odometry := m }, {}) updates :=
  Machine.always_iff_always _ (fun _ update hinv => CoverageInv.keepsAlive_iff hinv update)
    (fun _ update hinv _ => CoverageInv.next hinv update) updates _ ⟨rfl, rfl, nofun⟩

/-- A generator whose draws are all zero. -/
def noDraw (_ : Unit) : ℚ × Unit := (0, ())

/-- The odometry as configured by default. -/
def defaultOdometry : OdometryModel ℚ Unit := { config := OdometryModel.loadConfig {}, rng := () }

/-- One step a second, every one published, and a reset before the first: kept alive. -/
theorem fallDown_keepsAlive_atStart :
    ((machine noDraw).withHistory (Coverage.note noDraw)).Always (KeepsAlive noDraw)
      ({ odometry := defaultOdometry }, {})
      ((SimCore.physicsLoop 1 1).trace {} [.reset, .step restReading, .step restReading]) := by
  refine (fallDown_keepsAlive_iff noDraw _ _).mpr ⟨?_, ?_, trivial⟩
  · intro hchanged
    exact absurd hchanged (by decide +kernel)
  · intro _ _
    decide +kernel

/-- Two seconds, a reset, two seconds more: a second of running after the last sample passes in
silence. -/
theorem fallDown_not_keptAlive :
    ¬ ((machine noDraw).withHistory (Coverage.note noDraw)).Always (KeepsAlive noDraw)
      ({ odometry := defaultOdometry }, {})
      ((SimCore.physicsLoop 1 1).trace {}
        [.step restReading, .step restReading, .reset, .step restReading, .step restReading]) := by
  rintro ⟨-, -, -, hsecond, -⟩
  have hwritten := hsecond (.inr (by decide +kernel))
  exact absurd hwritten (by decide +kernel)

end StatePublisher

end K1Sim
