import K1Sim.Foundations.Numerals
import Mathlib.Analysis.InnerProductSpace.Orthonormal
import Mathlib.Geometry.Euclidean.Angle.Unoriented.RightAngle
import Mathlib.Geometry.Euclidean.Angle.Unoriented.TriangleInequality

/-!
# Foundations/Sightlines — the directions that a pinhole camera looks in

A pinhole camera looks along `forward`; the point of its picture that is `s` to the right and `t` up
at the distance one is seen in the direction `ray s t`.  Points at most `ρ` off the middle are seen
under an angle of at most `2 * arctan ρ`, and opposite ones at that distance under this angle
(`isGreatest_angles`).
-/

namespace Foundations

open InnerProductGeometry RealInnerProductSpace

/-- The directions of a camera: to the right, up and along the axis. -/
structure View (V : Type*) [NormedAddCommGroup V] [InnerProductSpace ℝ V] where
  right : V
  up : V
  forward : V
  orthonormal : Orthonormal ℝ ![right, up, forward]

namespace View

variable {V : Type*} [NormedAddCommGroup V] [InnerProductSpace ℝ V] (view : View V)

/-- How far a point of the picture lies off its middle. -/
def offset (s t : ℝ) : V := s • view.right + t • view.up

/-- The direction that a point of the picture is seen in. -/
def ray (s t : ℝ) : V := view.forward + view.offset s t

/-- The angles between what is seen at two points of a part of the picture. -/
def angles (part : Set (ℝ × ℝ)) : Set ℝ :=
  {θ | ∃ p ∈ part, ∃ q ∈ part, angle (view.ray p.1 p.2) (view.ray q.1 q.2) = θ}

theorem norm_forward : ‖view.forward‖ = 1 := view.orthonormal.norm_eq_one 2

theorem forward_ne_zero : view.forward ≠ 0 := view.orthonormal.ne_zero 2

theorem inner_right_up : ⟪view.right, view.up⟫ = 0 :=
  view.orthonormal.inner_eq_zero (show (0 : Fin 3) ≠ 1 by decide)

theorem inner_forward_offset (s t : ℝ) : ⟪view.forward, view.offset s t⟫ = 0 := by
  have hright : ⟪view.forward, view.right⟫ = 0 :=
    view.orthonormal.inner_eq_zero (show (2 : Fin 3) ≠ 0 by decide)
  have hup : ⟪view.forward, view.up⟫ = 0 :=
    view.orthonormal.inner_eq_zero (show (2 : Fin 3) ≠ 1 by decide)
  rw [offset, inner_add_right, inner_smul_right, inner_smul_right, hright, hup, mul_zero, mul_zero,
    add_zero]

theorem norm_offset (s t : ℝ) : ‖view.offset s t‖ = √(s ^ 2 + t ^ 2) := by
  have hright : ‖view.right‖ = 1 := view.orthonormal.norm_eq_one 0
  have hup : ‖view.up‖ = 1 := view.orthonormal.norm_eq_one 1
  have hinner : ⟪s • view.right, t • view.up⟫ = 0 := by
    rw [inner_smul_left, inner_smul_right, view.inner_right_up, mul_zero, mul_zero]
  rw [offset, norm_add_eq_sqrt_iff_real_inner_eq_zero.mpr hinner, norm_smul, norm_smul, hright, hup,
    mul_one, mul_one, Real.norm_eq_abs, Real.norm_eq_abs, abs_mul_abs_self, abs_mul_abs_self, sq,
    sq]

theorem offset_neg (s t : ℝ) : view.offset (-s) (-t) = -view.offset s t := by
  rw [offset, offset, neg_smul, neg_smul, neg_add]

/-- **Off the axis** by the arc tangent of the distance from the middle. -/
theorem angle_forward_ray (s t : ℝ) :
    angle view.forward (view.ray s t) = Real.arctan √(s ^ 2 + t ^ 2) := by
  rw [ray, angle_add_eq_arctan_of_inner_eq_zero (view.inner_forward_offset s t)
    view.forward_ne_zero, view.norm_forward, div_one, norm_offset]

/-- Two points that are seen under no more than their angles off the axis. -/
theorem angle_ray_le (s t s' t' : ℝ) :
    angle (view.ray s t) (view.ray s' t')
      ≤ Real.arctan √(s ^ 2 + t ^ 2) + Real.arctan √(s' ^ 2 + t' ^ 2) := by
  calc angle (view.ray s t) (view.ray s' t')
      ≤ angle (view.ray s t) view.forward + angle view.forward (view.ray s' t') :=
        angle_le_angle_add_angle _ _ _
    _ = _ := by rw [angle_comm, angle_forward_ray, angle_forward_ray]

/-- The axis lies between what is seen at opposite points. -/
theorem forward_mem_span (s t : ℝ) :
    view.forward ∈ Submodule.span NNReal {view.ray s t, view.ray (-s) (-t)} := by
  refine Submodule.mem_span_pair.mpr ⟨1 / 2, 1 / 2, ?_⟩
  rw [ray, ray, offset_neg, ← smul_add, add_add_add_comm, add_neg_cancel, add_zero,
    ← two_smul NNReal, smul_smul, one_div, inv_mul_cancel₀ two_ne_zero, one_smul]

/-- **Opposite points** are seen under twice their angle off the axis. -/
theorem angle_ray_opposite (s t : ℝ) :
    angle (view.ray s t) (view.ray (-s) (-t)) = 2 * Real.arctan √(s ^ 2 + t ^ 2) := by
  rw [angle_eq_angle_add_add_angle_add_of_mem_span view.forward_ne_zero (view.forward_mem_span s t),
    angle_comm, angle_forward_ray, angle_forward_ray, neg_sq, neg_sq, two_mul]

/-- **The widest angle of a part of the picture** is that between two opposite points of it which
no other is farther off the middle than. -/
theorem isGreatest_angles {part : Set (ℝ × ℝ)} {s t : ℝ} (hmem : (s, t) ∈ part)
    (hopposite : (-s, -t) ∈ part) (hfar : ∀ p ∈ part, p.1 ^ 2 + p.2 ^ 2 ≤ s ^ 2 + t ^ 2) :
    IsGreatest (view.angles part) (2 * Real.arctan √(s ^ 2 + t ^ 2)) := by
  have hle : ∀ p ∈ part, Real.arctan √(p.1 ^ 2 + p.2 ^ 2) ≤ Real.arctan √(s ^ 2 + t ^ 2) :=
    fun p hp => Real.arctan_mono (Real.sqrt_le_sqrt (hfar p hp))
  refine ⟨⟨(s, t), hmem, (-s, -t), hopposite, view.angle_ray_opposite s t⟩, ?_⟩
  rintro θ ⟨p, hp, q, hq, rfl⟩
  rw [two_mul]
  exact (view.angle_ray_le _ _ _ _).trans (add_le_add (hle p hp) (hle q hq))

end View

end Foundations
