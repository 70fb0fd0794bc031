import K1Sim.Shared.Libc
import K1Sim.Shared.ModelMap
import Mathlib.Algebra.Order.Field.Basic
import Mathlib.Tactic.LinearCombination
import Mathlib.Tactic.Linarith
import Mathlib.Tactic.Positivity

/-!
# Locomotion/LocoMath — the PREPARE blend and the tilt of the base

The blend from a start pose to the ready pose follows `smoothstep`.  It arrives exactly when the
clamped fraction is `1` (`smoothstep_eq_one_iff`), and before that only for a joint that starts
where it ends (`lerp_eq_right_iff`).
-/

namespace K1Sim

open Foundations

variable {K : Type*} [Field K] [LinearOrder K]

/-- `frac`: how much of a duration has elapsed, by the division of floating-point numbers.  A
duration of zero has elapsed all or not at all, and at its own start the quotient is not a
number. -/
def frac? (elapsed duration : K) : Option K :=
  if duration ≠ 0 then some (clamp (elapsed / duration) 0 1)
  else if elapsed = 0 then none
  else some (if elapsed < 0 then 0 else 1)

theorem frac?_of_ne_zero {elapsed duration : K} (h : duration ≠ 0) :
    frac? elapsed duration = some (clamp (elapsed / duration) 0 1) :=
  if_pos h

theorem frac?_eq_none_iff {elapsed duration : K} :
    frac? elapsed duration = none ↔ duration = 0 ∧ elapsed = 0 := by
  rw [frac?]
  split_ifs with hduration helapsed
  · simp [hduration]
  · simp [not_not.mp hduration, helapsed]
  · simp [helapsed]

/-- `smoothstep`: the ease from 0 to 1 with zero derivative at both ends. -/
def smoothstep (t : K) : K :=
  let t := clamp t 0 1
  t * t * (3 - 2 * t)

omit [LinearOrder K] in
/-- `lerp`. -/
def lerp (a b t : K) : K := a + (b - a) * t

omit [LinearOrder K] in
/-- A blend sits at its right end exactly at `t = 1`, or if its ends agree. -/
theorem lerp_eq_right_iff {a b t : K} : lerp a b t = b ↔ a = b ∨ t = 1 := by
  have hfactor : lerp a b t - b = (b - a) * (t - 1) := by
    rw [lerp]
    ring
  rw [← sub_eq_zero, hfactor, mul_eq_zero, sub_eq_zero, sub_eq_zero, eq_comm (a := b)]

section Order

variable [IsStrictOrderedRing K]

/-- **The ease reaches 1 only at the right end**: `1 - t²(3 - 2t) = (1 - t)²(1 + 2t)`. -/
theorem smoothstep_eq_one_iff {t : K} : smoothstep t = 1 ↔ 1 ≤ t := by
  have hlo : (0 : K) ≤ clamp t 0 1 := le_clamp zero_le_one
  rw [← clamp_eq_hi_iff (zero_lt_one : (0 : K) < 1)]
  rw [smoothstep]
  generalize clamp t 0 1 = s at hlo
  have hfactor : s * s * (3 - 2 * s) - 1 = (1 - s) * (1 - s) * (-(1 + 2 * s)) := by ring
  have hpos : (1 + 2 * s) ≠ 0 := by positivity
  change s * s * (3 - 2 * s) = 1 ↔ s = 1
  rw [← sub_eq_zero, hfactor, mul_eq_zero, mul_self_eq_zero, neg_eq_zero, or_iff_left hpos,
    sub_eq_zero, eq_comm]

/-- A clamped fraction of a positive duration eases to 1 once the duration has passed. -/
theorem smoothstep_frac_eq_one_iff {elapsed duration : K} (hd : 0 < duration) :
    smoothstep ((frac? elapsed duration).getD 0) = 1 ↔ duration ≤ elapsed := by
  rw [frac?_of_ne_zero hd.ne', Option.getD_some, smoothstep_eq_one_iff, ← one_le_div hd]
  constructor
  · intro h
    exact (clamp_eq_hi_iff zero_lt_one).mp (le_antisymm (clamp_le zero_le_one) h)
  · intro h
    exact ((clamp_eq_hi_iff zero_lt_one).mpr h).ge

end Order

/-! ## The base -/

/-- The orientation of the free root, `w x y z`. -/
def rootQuat (d : MjData K) (map : ModelMap) : Quat K :=
  ⟨d.qpos (map.rootQposAdr + 3), d.qpos (map.rootQposAdr + 4), d.qpos (map.rootQposAdr + 5),
    d.qpos (map.rootQposAdr + 6)⟩

/-- `base_up_vector`: the body's `z` axis in the world. -/
def baseUpVector (d : MjData K) (map : ModelMap) : Vec3 K :=
  mjuRotVecQuat ⟨0, 0, 1⟩ (rootQuat d map)

/-- `base_tilt`: the angle between the body's `z` axis and the world's. -/
def baseTilt [Libc K] (d : MjData K) (map : ModelMap) : K :=
  Libc.acos (clamp (baseUpVector d map).z (-1) 1)

end K1Sim
