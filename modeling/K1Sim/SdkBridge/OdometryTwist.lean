import K1Sim.SdkBridge.OdometryTopics

/-!
# SdkBridge/OdometryTwist — whether the published twist follows the published pose

The pose is integrated from a velocity in the yaw-only frame, while the twist is in the full body
frame.  The error of the estimate is added to the twist as it is, axis by axis, so an error on an
axis that the tilt moves is one the pose does not make (`twist_follows_iff`).
-/

namespace K1Sim

open Foundations Quaternion

/-- The twist follows the pose: in the world it is the velocity that the position is integrated
from, and the rate of the estimated yaw. -/
structure TwistFollows (est : OdometryModel.Estimate ℝ) (ros : OdometryMsg ℝ) : Prop where
  x : (mjuRotVecQuat ros.linear ros.orientation).x
    = Real.cos est.yaw * est.velocity 0 - Real.sin est.yaw * est.velocity 1
  y : (mjuRotVecQuat ros.linear ros.orientation).y
    = Real.sin est.yaw * est.velocity 0 + Real.cos est.yaw * est.velocity 1
  yaw_rate : (mjuRotVecQuat ros.angular ros.orientation).z = est.velocity 2

/-- The error of the estimated velocity, in the yaw-only frame. -/
noncomputable def velocityError (base : BaseState ℝ) (est : OdometryModel.Estimate ℝ) (i : Fin 3) :
    ℝ :=
  est.velocity i - OdometryModel.trueVelocity (yawFromQuat base.quat) base.linVel.x base.linVel.y
    base.angVel.z i

/-- A body vector in the yaw-only frame. -/
noncomputable def inYawFrame (q : Quat ℝ) (v : Vec3 ℝ) : Vec3 ℝ :=
  mjuRotVecQuat (mjuRotVecQuat v q) (mjuAxisAngle2Quat ⟨0, 0, 1⟩ (-yawFromQuat q))

/-- The axes that velocities are estimated along: forward, sideways, and up for the turning. -/
def velocityAxis : Fin 3 → Vec3 ℝ := ![⟨1, 0, 0⟩, ⟨0, 1, 0⟩, ⟨0, 0, 1⟩]

/-- The orientation without its yaw. -/
noncomputable def tilt (q : Quat ℝ) : ℍ[ℝ] := spin (-yawFromQuat q) * q.toQuaternion

section Tilt

variable {q : Quat ℝ} (hunit : q.normSq = 1)

include hunit

theorem normSq_tilt : normSq (tilt q) = 1 := by
  rw [tilt, map_mul, normSq_spin, normSq_toQuaternion, hunit, one_mul]

theorem toQuaternion_inYawFrame (v : Vec3 ℝ) :
    (inYawFrame q v).toQuaternion = turn (tilt q) v.toQuaternion := by
  rw [inYawFrame, toQuaternion_mjuRotVecQuat (normSq_mjuAxisAngle2Quat _),
    toQuaternion_mjuRotVecQuat hunit, toQuaternion_mjuAxisAngle2Quat, tilt, turn_mul]

theorem inYawFrame_eq_iff (v : Vec3 ℝ) :
    inYawFrame q v = v ↔ turn (tilt q) v.toQuaternion = v.toQuaternion := by
  rw [← toQuaternion_inYawFrame hunit]
  exact Vec3.toQuaternion_injective.eq_iff.symm

/-- **Without its yaw, an orientation heads straight on.** -/
theorem imJ_turn_tilt_first : (turn (tilt q) (vector 1 0 0)).imJ = 0 := by
  have hheading := heading_spin_neg_arg_mul q.toQuaternion
  rw [← Quat.yaw_eq_arg hunit] at hheading
  exact congrArg Complex.im hheading

end Tilt

section Twist

variable (update : SimStateUpdate ℝ) (est : OdometryModel.Estimate ℝ)

theorem toQuaternion_linear (hunit : update.base.quat.normSq = 1) :
    (rosOdometer update est).linear.toQuaternion
      = turn (star update.base.quat.toQuaternion) update.base.linVel.toQuaternion
        + vector (velocityError update.base est 0) (velocityError update.base est 1) 0 := by
  rw [← toQuaternion_worldToBody hunit]
  refine Quaternion.ext _ _ (add_zero 0).symm ?_ ?_ (add_zero _).symm
  · exact add_sub_assoc _ _ _
  · exact add_sub_assoc _ _ _

theorem toQuaternion_angular (hunit : update.base.quat.normSq = 1) :
    (rosOdometer update est).angular.toQuaternion
      = turn (star update.base.quat.toQuaternion) update.base.angVel.toQuaternion
        + vector 0 0 (velocityError update.base est 2) := by
  rw [← toQuaternion_worldToBody hunit]
  refine Quaternion.ext _ _ (add_zero 0).symm (add_zero _).symm (add_zero _).symm ?_
  exact add_sub_assoc _ _ _

theorem exp_headingError : Complex.exp (headingError update est * Complex.I)
    = Complex.exp (est.yaw * Complex.I)
      * Complex.exp ((-yawFromQuat update.base.quat : ℝ) * Complex.I) := by
  rw [← Complex.exp_add, ← add_mul, ← Complex.ofReal_add]
  refine exp_mul_I_congr ?_
  rw [coe_headingError, Real.Angle.coe_add, Real.Angle.coe_neg, sub_eq_add_neg]

/-- The true velocity in the yaw-only frame is the true velocity turned back by the yaw. -/
theorem horizontal_turn_linVel :
    horizontal (turn (spin (-yawFromQuat update.base.quat)) update.base.linVel.toQuaternion)
      = ⟨est.velocity 0 - velocityError update.base est 0,
        est.velocity 1 - velocityError update.base est 1⟩ := by
  rw [velocityError, velocityError, sub_sub_cancel, sub_sub_cancel]
  refine Complex.ext ?_ ?_
  · change (turn _ _).imI = _
    rw [imI_turn_spin, Real.cos_neg, Real.sin_neg, neg_mul, sub_neg_eq_add]
    rfl
  · change (turn _ _).imJ = _
    rw [imJ_turn_spin, Real.cos_neg, Real.sin_neg]
    rfl

variable {update} (hunit : update.base.quat.normSq = 1)

include hunit

/-- **Rotated by the published orientation**, a true velocity in the body frame with an error on top
is the true velocity with the error tilted, both turned by the error of the heading. -/
theorem turn_orientation {body v e : ℍ[ℝ]}
    (hbody : body = turn (star update.base.quat.toQuaternion) v + e) :
    turn (rosOdometer update est).orientation.toQuaternion body
      = turn (spin (headingError update est)) (v + turn update.base.quat.toQuaternion e) := by
  have hnorm : normSq update.base.quat.toQuaternion = 1 := by rw [normSq_toQuaternion, hunit]
  rw [toQuaternion_orientation, hbody, turn_mul, turn_add, turn_turn_star hnorm]

/-- **The linear twist in the world**: the true velocity and the error of the estimate, the error
tilted with the body. -/
theorem horizontal_linear :
    horizontal (turn (rosOdometer update est).orientation.toQuaternion
        (rosOdometer update est).linear.toQuaternion)
      = Complex.exp (est.yaw * Complex.I)
        * (⟨est.velocity 0 - velocityError update.base est 0,
            est.velocity 1 - velocityError update.base est 1⟩
          + horizontal (turn (tilt update.base.quat)
            (vector (velocityError update.base est 0) (velocityError update.base est 1) 0))) := by
  rw [turn_orientation est hunit (toQuaternion_linear update est hunit), horizontal_turn_spin,
    exp_headingError, mul_assoc, horizontal_add, mul_add, ← horizontal_turn_spin,
    ← horizontal_turn_spin, horizontal_turn_linVel, ← turn_mul]
  rfl

/-- **The angular twist in the world**, about the vertical. -/
theorem imK_angular :
    (turn (rosOdometer update est).orientation.toQuaternion
        (rosOdometer update est).angular.toQuaternion).imK
      = est.velocity 2 - velocityError update.base est 2
        + (turn (tilt update.base.quat) (vector 0 0 (velocityError update.base est 2))).imK := by
  rw [turn_orientation est hunit (toQuaternion_angular update est hunit), imK_turn_spin, tilt,
    turn_mul, imK_turn_spin, Quaternion.imK_add, velocityError, sub_sub_cancel]
  rfl

theorem twistFollows_iff_turn :
    TwistFollows est (rosOdometer update est)
      ↔ horizontal (turn (rosOdometer update est).orientation.toQuaternion
            (rosOdometer update est).linear.toQuaternion)
          = Complex.exp (est.yaw * Complex.I) * ⟨est.velocity 0, est.velocity 1⟩
        ∧ (turn (rosOdometer update est).orientation.toQuaternion
            (rosOdometer update est).angular.toQuaternion).imK = est.velocity 2 := by
  have hnorm := normSq_orientation est hunit
  rw [← toQuaternion_mjuRotVecQuat hnorm, ← toQuaternion_mjuRotVecQuat hnorm, exp_mul_I_mul,
    Complex.ext_iff]
  exact ⟨fun h => ⟨⟨h.x, h.y⟩, h.yaw_rate⟩, fun h => ⟨h.1.1, h.1.2, h.2⟩⟩

theorem linear_follows_iff :
    horizontal (turn (rosOdometer update est).orientation.toQuaternion
        (rosOdometer update est).linear.toQuaternion)
      = Complex.exp (est.yaw * Complex.I) * ⟨est.velocity 0, est.velocity 1⟩
      ↔ (velocityError update.base est 0 = 0
          ∨ inYawFrame update.base.quat ⟨1, 0, 0⟩ = ⟨1, 0, 0⟩)
        ∧ (velocityError update.base est 1 = 0
          ∨ inYawFrame update.base.quat ⟨0, 1, 0⟩ = ⟨0, 1, 0⟩) := by
  have hsplit : (⟨est.velocity 0, est.velocity 1⟩ : ℂ)
      = ⟨est.velocity 0 - velocityError update.base est 0,
          est.velocity 1 - velocityError update.base est 1⟩
        + ⟨velocityError update.base est 0, velocityError update.base est 1⟩ :=
    Complex.ext (sub_add_cancel _ _).symm (sub_add_cancel _ _).symm
  rw [horizontal_linear est hunit, hsplit, mul_right_inj' (Complex.exp_ne_zero _), add_right_inj,
    horizontal_turn_eq_iff (normSq_tilt hunit) (imJ_turn_tilt_first hunit),
    inYawFrame_eq_iff hunit, inYawFrame_eq_iff hunit]
  rfl

theorem angular_follows_iff :
    (turn (rosOdometer update est).orientation.toQuaternion
        (rosOdometer update est).angular.toQuaternion).imK = est.velocity 2
      ↔ velocityError update.base est 2 = 0
        ∨ inYawFrame update.base.quat ⟨0, 0, 1⟩ = ⟨0, 0, 1⟩ := by
  rw [imK_angular est hunit, sub_add_eq_add_sub, sub_eq_iff_eq_add, add_right_inj,
    imK_turn_upright_eq_iff (normSq_tilt hunit), inYawFrame_eq_iff hunit]
  rfl

end Twist

/-- **The twist follows the pose exactly when each axis with an error is one that the tilt
keeps.** -/
theorem twist_follows_iff (update : SimStateUpdate ℝ) (hunit : update.base.quat.normSq = 1)
    (est : OdometryModel.Estimate ℝ) :
    TwistFollows est (rosOdometer update est)
      ↔ ∀ i, velocityError update.base est i = 0
        ∨ inYawFrame update.base.quat (velocityAxis i) = velocityAxis i := by
  rw [twistFollows_iff_turn est hunit, linear_follows_iff est hunit, angular_follows_iff est hunit]
  constructor
  · rintro ⟨⟨hforward, hsideways⟩, hup⟩ i
    fin_cases i
    exacts [hforward, hsideways, hup]
  · exact fun h => ⟨⟨h 0, h 1⟩, h 2⟩

open StatePublisher

theorem yaw_pitched : yawFromQuat pitchedUpdate.base.quat = 0 :=
  Complex.arg_eq_zero_iff.mpr (by norm_num [pitchedUpdate])

theorem inYawFrame_pitched_forward :
    inYawFrame pitchedUpdate.base.quat ⟨1, 0, 0⟩ = ⟨7 / 25, 0, -24 / 25⟩ := by
  rw [inYawFrame, yaw_pitched, neg_zero, mjuAxisAngle2Quat, if_pos rfl]
  norm_num [pitchedUpdate, mjuRotVecQuat, Vec3.cross]

theorem inYawFrame_pitched_sideways :
    inYawFrame pitchedUpdate.base.quat ⟨0, 1, 0⟩ = ⟨0, 1, 0⟩ := by
  rw [inYawFrame, yaw_pitched, neg_zero, mjuAxisAngle2Quat, if_pos rfl]
  norm_num [pitchedUpdate, mjuRotVecQuat, Vec3.cross]

/-- The robot is at rest: what is estimated is the error. -/
theorem velocityError_pitched (yaw : ℝ) (velocity : Fin 3 → ℝ) (i : Fin 3) :
    velocityError pitchedUpdate.base ⟨0, 0, yaw, velocity, fun _ => 0⟩ i = velocity i := by
  fin_cases i <;> simp [velocityError, OdometryModel.trueVelocity, pitchedUpdate]

/-- Pitching keeps the sideways axis: an error along it does no harm. -/
theorem twist_follows_pitched : TwistFollows ⟨0, 0, 1, ![0, 1, 0], fun _ => 0⟩
    (rosOdometer pitchedUpdate ⟨0, 0, 1, ![0, 1, 0], fun _ => 0⟩) := by
  refine (twist_follows_iff pitchedUpdate pitchedUpdate_unit _).mpr fun i => ?_
  rw [velocityError_pitched]
  fin_cases i
  exacts [.inl rfl, .inr inYawFrame_pitched_sideways, .inl rfl]

/-- A robot pitched forward and at rest, whose odometry believes that it walks forward: the twist is
the estimate along the body, which in the world is mostly downwards. -/
theorem twist_not_follows : ¬ TwistFollows ⟨0, 0, 0, ![1, 0, 0], fun _ => 0⟩
    (rosOdometer pitchedUpdate ⟨0, 0, 0, ![1, 0, 0], fun _ => 0⟩) := by
  rw [twistFollows_iff_turn _ pitchedUpdate_unit, linear_follows_iff _ pitchedUpdate_unit,
    inYawFrame_pitched_forward, velocityError_pitched]
  rintro ⟨⟨hforward, -⟩, -⟩
  rcases hforward with herror | haxis
  · exact one_ne_zero herror
  · have hx := congrArg Vec3.x haxis
    norm_num at hx

end K1Sim
