import K1Sim.Shared.Rotation

/-!
# Shared/HeadFootprint — the head pose is relative to the footprint

Poses compose, and `headInFootprint` undoes the footprint in front of the head
(`headInFootprint_relative`).  The footprint follows the robot over the floor, its yaw up to whole
turns; a whole turn changes the sign of the quaternion and nothing else.
-/

namespace K1Sim

open Foundations Quaternion

/-- The pose `b`, given in the frame of the pose `a`. -/
noncomputable def BodyPose.comp (a b : BodyPose ℝ) : BodyPose ℝ :=
  let turned := mjuRotVecQuat b.position a.quat
  ⟨⟨a.position.x + turned.x, a.position.y + turned.y, a.position.z + turned.z⟩,
    mjuMulQuat a.quat b.quat⟩

/-- `translate(x, y, 0) * rotz(yaw)`. -/
noncomputable def planarPose (x y yaw : ℝ) : BodyPose ℝ :=
  ⟨⟨x, y, 0⟩, mjuAxisAngle2Quat ⟨0, 0, 1⟩ yaw⟩

/-- The yaw-only frame of the base on the floor. -/
noncomputable def footprint (base : BasePose ℝ) : BodyPose ℝ :=
  planarPose base.x base.y base.quat.yaw

/-- A head pose as a pose. -/
def HeadPose.toBodyPose (pose : HeadPose ℝ) : BodyPose ℝ := ⟨pose.position, pose.quat⟩

/-- `translate(0, 0, HEAD_FRAME_ABOVE_PITCH)`. -/
noncomputable def headOffset : BodyPose ℝ := ⟨⟨0, 0, headFrameAbovePitch⟩, ⟨1, 0, 0, 0⟩⟩

/-- The head and the base moved over the floor by one motion. -/
noncomputable def HeadReading.moved (r : HeadReading ℝ) (motion : BodyPose ℝ) : HeadReading ℝ :=
  let base := motion.comp ⟨⟨r.base.x, r.base.y, 0⟩, r.base.quat⟩
  ⟨motion.comp r.head, ⟨base.position.x, base.position.y, base.quat⟩⟩

/-- The same orientation: a quaternion and its negative are one rotation. -/
def Quat.SameRotation (p q : Quat ℝ) : Prop := p = q ∨ p = ⟨-q.w, -q.x, -q.y, -q.z⟩

/-! ## Poses as quaternions -/

theorem toQuaternion_comp {a : BodyPose ℝ} (ha : a.quat.normSq = 1) (b : BodyPose ℝ) :
    (a.comp b).position.toQuaternion
        = a.position.toQuaternion + turn a.quat.toQuaternion b.position.toQuaternion
      ∧ (a.comp b).quat.toQuaternion = a.quat.toQuaternion * b.quat.toQuaternion := by
  refine ⟨?_, toQuaternion_mjuMulQuat a.quat b.quat⟩
  rw [← toQuaternion_mjuRotVecQuat ha]
  exact Quaternion.ext _ _ (add_zero 0).symm rfl rfl rfl

theorem BodyPose.ext_toQuaternion {a b : BodyPose ℝ}
    (hposition : a.position.toQuaternion = b.position.toQuaternion)
    (hquat : a.quat.toQuaternion = b.quat.toQuaternion) : a = b := by
  obtain ⟨p, q⟩ := a
  obtain rfl := Vec3.toQuaternion_injective hposition
  obtain rfl := Quat.toQuaternion_injective hquat
  rfl

/-- **The returned pose**: the head seen from the footprint, the yaw undone. -/
theorem toQuaternion_headInFootprint {r : HeadReading ℝ} (hhead : r.head.quat.normSq = 1) :
    (headInFootprint r).position.toQuaternion
        = turn (spin (-r.base.quat.yaw))
            (r.head.position.toQuaternion - vector r.base.x r.base.y 0)
          + turn (spin (-r.base.quat.yaw) * r.head.quat.toQuaternion)
            (vector 0 0 headFrameAbovePitch)
      ∧ (headInFootprint r).quat.toQuaternion
        = spin (-r.base.quat.yaw) * r.head.quat.toQuaternion := by
  have hquat : (headInFootprint r).quat.toQuaternion
      = spin (-r.base.quat.yaw) * r.head.quat.toQuaternion := by
    rw [← toQuaternion_mjuAxisAngle2Quat, ← toQuaternion_mjuMulQuat]
    rfl
  have hunit : (headInFootprint r).quat.normSq = 1 := by
    rw [← normSq_toQuaternion, hquat, map_mul, normSq_spin, normSq_toQuaternion, hhead, one_mul]
  refine ⟨?_, hquat⟩
  have hfrom : r.head.position.toQuaternion - vector r.base.x r.base.y 0
      = Vec3.toQuaternion
        ⟨r.head.position.x - r.base.x, r.head.position.y - r.base.y, r.head.position.z⟩ :=
    Quaternion.ext _ _ (sub_zero 0) rfl rfl (sub_zero _)
  have hup : vector 0 0 headFrameAbovePitch = Vec3.toQuaternion ⟨0, 0, headFrameAbovePitch⟩ := rfl
  rw [← hquat, hfrom, hup, ← toQuaternion_mjuAxisAngle2Quat,
    ← toQuaternion_mjuRotVecQuat (normSq_mjuAxisAngle2Quat _), ← toQuaternion_mjuRotVecQuat hunit]
  exact Quaternion.ext _ _ (add_zero 0).symm rfl rfl rfl

theorem normSq_headInFootprint {r : HeadReading ℝ} (hhead : r.head.quat.normSq = 1) :
    (headInFootprint r).quat.normSq = 1 := by
  rw [← normSq_toQuaternion, (toQuaternion_headInFootprint hhead).2, map_mul, normSq_spin,
    normSq_toQuaternion, hhead, one_mul]

/-! ## The footprint in front -/

/-- **The footprint and the returned pose compose to the head.** -/
theorem footprint_comp_headInFootprint {r : HeadReading ℝ} (hhead : r.head.quat.normSq = 1) :
    (footprint r.base).comp (headInFootprint r).toBodyPose = r.head.comp headOffset := by
  obtain ⟨hposition, hquat⟩ := toQuaternion_headInFootprint hhead
  have hyaw : (footprint r.base).quat.toQuaternion = spin r.base.quat.yaw :=
    toQuaternion_mjuAxisAngle2Quat _
  have hundo : spin r.base.quat.yaw * spin (-r.base.quat.yaw) = 1 := by
    rw [← spin_add, add_neg_cancel, spin_zero]
  obtain ⟨hleft, hleftQuat⟩ := toQuaternion_comp (a := footprint r.base)
    (normSq_mjuAxisAngle2Quat _) (headInFootprint r).toBodyPose
  obtain ⟨hright, hrightQuat⟩ := toQuaternion_comp hhead headOffset
  refine BodyPose.ext_toQuaternion ?_ ?_
  · rw [hleft, hright, hyaw]
    change vector r.base.x r.base.y 0
        + turn (spin r.base.quat.yaw) (headInFootprint r).position.toQuaternion = _
    rw [hposition, turn_add, ← turn_mul, ← turn_mul, ← mul_assoc, hundo, turn_one, one_mul,
      ← add_assoc, add_sub_cancel]
    rfl
  · rw [hleftQuat, hrightQuat, hyaw]
    change spin r.base.quat.yaw * (headInFootprint r).quat.toQuaternion = _
    rw [hquat, ← mul_assoc, hundo, one_mul]
    exact (mul_one _).symm

/-! ## Moving over the floor -/

/-- Spins back by the yaw, before and after a motion of the base, agree up to sign. -/
theorem spin_neg_yaw_mul {base : Quat ℝ} (hbase : base.normSq = 1) (hlevel : ¬ base.Vertical)
    (a : ℝ) (s : Quat ℝ) (hs : s.toQuaternion = spin a) :
    spin (-(mjuMulQuat s base).yaw) * spin a = spin (-base.yaw)
      ∨ spin (-(mjuMulQuat s base).yaw) * spin a = -spin (-base.yaw) := by
  rw [← spin_add]
  refine spin_eq_or_eq_neg ?_
  rw [Real.Angle.coe_add, Real.Angle.coe_neg, Quat.yaw_mjuMulQuat hbase hs hlevel,
    Real.Angle.coe_neg, neg_add, neg_add_cancel_comm]

section Moved

variable (r : HeadReading ℝ) (x y a : ℝ)

/-- A motion over the floor moves the footprint with the base. -/
theorem moved_base :
    vector (r.moved (planarPose x y a)).base.x (r.moved (planarPose x y a)).base.y 0
      = vector x y 0 + turn (spin a) (vector r.base.x r.base.y 0) := by
  let p := ((planarPose x y a).comp ⟨⟨r.base.x, r.base.y, 0⟩, r.base.quat⟩).position
  have hmoved : p.toQuaternion = vector x y 0 + turn (spin a) (vector r.base.x r.base.y 0) := by
    rw [(toQuaternion_comp (a := planarPose x y a) (normSq_mjuAxisAngle2Quat a) _).1,
      ← toQuaternion_mjuAxisAngle2Quat]
    rfl
  have hfloor : p.z = 0 := by
    have hz := congrArg (·.imK) hmoved
    rwa [Quaternion.imK_add, imK_turn_spin, imK_vector, imK_vector, add_zero] at hz
  rw [← hmoved, Vec3.toQuaternion, hfloor]
  rfl

theorem moved_head :
    (r.moved (planarPose x y a)).head.position.toQuaternion
        = vector x y 0 + turn (spin a) r.head.position.toQuaternion
      ∧ (r.moved (planarPose x y a)).head.quat.toQuaternion
        = spin a * r.head.quat.toQuaternion := by
  rw [← toQuaternion_mjuAxisAngle2Quat]
  exact toQuaternion_comp (a := planarPose x y a) (normSq_mjuAxisAngle2Quat a) r.head

variable {r} (hhead : r.head.quat.normSq = 1)

include hhead

theorem normSq_moved_head : (r.moved (planarPose x y a)).head.quat.normSq = 1 := by
  rw [← normSq_toQuaternion, (moved_head r x y a).2, map_mul, normSq_spin, normSq_toQuaternion,
    hhead, one_mul]

/-- **The motion goes in front of the turn back** by the new yaw, and the rest is as before. -/
theorem toQuaternion_headInFootprint_moved :
    (headInFootprint (r.moved (planarPose x y a))).position.toQuaternion
        = turn (spin (-(r.moved (planarPose x y a)).base.quat.yaw) * spin a)
            (r.head.position.toQuaternion - vector r.base.x r.base.y 0)
          + turn (spin (-(r.moved (planarPose x y a)).base.quat.yaw) * spin a
              * r.head.quat.toQuaternion)
            (vector 0 0 headFrameAbovePitch)
      ∧ (headInFootprint (r.moved (planarPose x y a))).quat.toQuaternion
        = spin (-(r.moved (planarPose x y a)).base.quat.yaw) * spin a
          * r.head.quat.toQuaternion := by
  obtain ⟨hfrom, hturned⟩ := moved_head r x y a
  obtain ⟨hposition, hquat⟩ := toQuaternion_headInFootprint (normSq_moved_head x y a hhead)
  have hsub : vector x y 0 + turn (spin a) r.head.position.toQuaternion
      - (vector x y 0 + turn (spin a) (vector r.base.x r.base.y 0))
      = turn (spin a) (r.head.position.toQuaternion - vector r.base.x r.base.y 0) := by
    rw [add_sub_add_left_eq_sub, turn_sub]
  rw [hfrom, hturned, moved_base, hsub, ← turn_mul, ← mul_assoc] at hposition
  rw [hturned, ← mul_assoc] at hquat
  exact ⟨hposition, hquat⟩

variable (hbase : r.base.quat.normSq = 1) (hlevel : ¬ r.base.quat.Vertical)

include hbase hlevel

/-- **A motion over the floor leaves the returned pose alone**, up to the sign of its quaternion. -/
theorem headInFootprint_moved :
    (headInFootprint (r.moved (planarPose x y a))).position = (headInFootprint r).position
      ∧ (headInFootprint (r.moved (planarPose x y a))).quat.SameRotation
        (headInFootprint r).quat := by
  obtain ⟨hposition, hquat⟩ := toQuaternion_headInFootprint hhead
  obtain ⟨hposition', hquat'⟩ := toQuaternion_headInFootprint_moved x y a hhead
  have hneg : -spin (-r.base.quat.yaw) * r.head.quat.toQuaternion
      = -(spin (-r.base.quat.yaw) * r.head.quat.toQuaternion) := neg_mul (α := ℍ[ℝ]) _ _
  have hspin : spin (-(r.moved (planarPose x y a)).base.quat.yaw) * spin a
        = spin (-r.base.quat.yaw)
      ∨ spin (-(r.moved (planarPose x y a)).base.quat.yaw) * spin a
        = -spin (-r.base.quat.yaw) :=
    spin_neg_yaw_mul hbase hlevel a _ (toQuaternion_mjuAxisAngle2Quat a)
  rcases hspin with hsame | hopposite
  · rw [hsame, ← hposition] at hposition'
    rw [hsame, ← hquat] at hquat'
    exact ⟨Vec3.toQuaternion_injective hposition', .inl (Quat.toQuaternion_injective hquat')⟩
  · -- a turn by the negative of a quaternion is the turn by the quaternion
    rw [hopposite, turn_neg, hneg, turn_neg, ← hposition] at hposition'
    rw [hopposite, hneg, ← hquat] at hquat'
    exact ⟨Vec3.toQuaternion_injective hposition', .inr (Quat.toQuaternion_injective hquat')⟩

end Moved

/-- **The head pose is relative to the footprint**: the two compose to the head, the quaternion is a
rotation, and a motion of the robot over the floor leaves the pose alone, its quaternion up to
sign. -/
theorem headInFootprint_relative (r : HeadReading ℝ) (hhead : r.head.quat.normSq = 1)
    (hbase : r.base.quat.normSq = 1) :
    (footprint r.base).comp (headInFootprint r).toBodyPose = r.head.comp headOffset
      ∧ (headInFootprint r).quat.normSq = 1
      ∧ (¬ r.base.quat.Vertical → ∀ x y a : ℝ,
        (headInFootprint (r.moved (planarPose x y a))).position = (headInFootprint r).position
          ∧ (headInFootprint (r.moved (planarPose x y a))).quat.SameRotation
            (headInFootprint r).quat) :=
  ⟨footprint_comp_headInFootprint hhead, normSq_headInFootprint hhead,
    fun hlevel x y a => headInFootprint_moved x y a hhead hbase hlevel⟩

/-- A robot at the origin that faces backwards, its head level and straight on in the world. -/
def facingBack : HeadReading ℝ := ⟨⟨⟨0, 0, 1⟩, ⟨1, 0, 0, 0⟩⟩, ⟨0, 0, ⟨0, 0, 0, 1⟩⟩⟩

theorem facingBack_unit : facingBack.head.quat.normSq = 1 ∧ facingBack.base.quat.normSq = 1 := by
  norm_num [facingBack, Quat.normSq]

theorem facingBack_level : ¬ facingBack.base.quat.Vertical := by
  norm_num [facingBack, Quat.Vertical, mjuRotVecQuat, Vec3.cross]

theorem facingBack_relative :
    (footprint facingBack.base).comp (headInFootprint facingBack).toBodyPose
        = facingBack.head.comp headOffset
      ∧ (headInFootprint (facingBack.moved (planarPose 1 2 Real.pi))).position
        = (headInFootprint facingBack).position := by
  obtain ⟨hcomp, -, hmoved⟩ :=
    headInFootprint_relative facingBack facingBack_unit.1 facingBack_unit.2
  exact ⟨hcomp, (hmoved facingBack_level 1 2 Real.pi).1⟩

theorem yaw_facingBack : facingBack.base.quat.yaw = Real.pi :=
  Complex.arg_eq_pi_iff.mpr (by norm_num [facingBack])

/-- Half a turn on top of half a turn: the robot faces forward, by the negative of the identity. -/
theorem facingBack_turned :
    (facingBack.moved (planarPose 0 0 Real.pi)).base.quat = ⟨-1, 0, 0, 0⟩ := by
  have hhalf : facingBack.base.quat.toQuaternion = spin Real.pi :=
    Quaternion.ext _ _ Real.cos_pi_div_two.symm rfl rfl Real.sin_pi_div_two.symm
  have hwhole : (facingBack.moved (planarPose 0 0 Real.pi)).base.quat.toQuaternion
      = spin (Real.pi + Real.pi) := by
    rw [spin_add]
    nth_rewrite 2 [← hhalf]
    rw [← toQuaternion_mjuAxisAngle2Quat, ← toQuaternion_mjuMulQuat]
    rfl
  refine Quat.toQuaternion_injective ?_
  rw [hwhole]
  refine Quaternion.ext _ _ ?_ rfl rfl ?_
  · rw [re_spin, add_self_div_two, Real.cos_pi]
    rfl
  · rw [imK_spin, add_self_div_two, Real.sin_pi]
    rfl

theorem yaw_facingBack_turned :
    (facingBack.moved (planarPose 0 0 Real.pi)).base.quat.yaw = 0 := by
  rw [facingBack_turned]
  exact Complex.arg_eq_zero_iff.mpr (by norm_num)

/-- Turned by half a turn, the robot has yaw `0` instead of `π`, and the same head pose comes with
the negative of the quaternion. -/
theorem headInFootprint_not_unchanged :
    ¬ ∀ (r : HeadReading ℝ) (x y a : ℝ), r.head.quat.normSq = 1 → r.base.quat.normSq = 1 →
      ¬ r.base.quat.Vertical →
        headInFootprint (r.moved (planarPose x y a)) = headInFootprint r := by
  intro hunchanged
  have hsame := hunchanged facingBack 0 0 Real.pi facingBack_unit.1 facingBack_unit.2
    facingBack_level
  have hstraight : facingBack.head.quat.toQuaternion = 1 := rfl
  have hquat := (toQuaternion_headInFootprint facingBack_unit.1).2
  have hquat' := (toQuaternion_headInFootprint
    (normSq_moved_head 0 0 Real.pi facingBack_unit.1)).2
  rw [hsame, hquat, (moved_head _ 0 0 Real.pi).2, yaw_facingBack, yaw_facingBack_turned, hstraight,
    mul_one, mul_one, neg_zero, spin_zero, one_mul] at hquat'
  -- the turns by `-π` and by `π` are one rotation and two quaternions
  have hz := congrArg (·.imK) hquat'
  rw [imK_spin, imK_spin, neg_div, Real.sin_neg, Real.sin_pi_div_two] at hz
  norm_num at hz

end K1Sim
