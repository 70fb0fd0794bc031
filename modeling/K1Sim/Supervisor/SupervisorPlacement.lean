import K1Sim.Foundations.Writes
import K1Sim.Shared.Libc
import K1Sim.Shared.Mujoco
import Mathlib.Data.Fin.VecNotation
import Mathlib.Data.List.FinRange

/-!
# Supervisor/SupervisorPlacement — teleporting free-jointed bodies

`placeFreeBody` writes the seven positions and six velocities of the free joint that a body owns,
and nothing else (`placeFreeBody_wrote`).  It refuses any other body (`placeFreeBody_isSome_iff`).
-/

namespace K1Sim

open Foundations

/-- `Pose3`: a standing pose on flat ground. -/
structure Pose3 (K : Type*) [Zero K] where
  x : K := 0
  y : K := 0
  z : K := 0
  yaw : K := 0
  deriving DecidableEq

/-- The seven positions of a free-jointed body. -/
def MjModel.FreeQpos (m : MjModel K) (bodyId p : ℕ) : Prop :=
  ∃ a < 7, p = m.jntQposadr (m.bodyJntadr bodyId) + a

/-- The six velocities of a free-jointed body. -/
def MjModel.FreeQvel (m : MjModel K) (bodyId p : ℕ) : Prop :=
  ∃ a < 6, p = m.jntDofadr (m.bodyJntadr bodyId) + a

/-- The world position of a free-jointed body. -/
def MjData.freePos (d : MjData K) (adr : ℕ) : Vec3 K :=
  ⟨d.qpos adr, d.qpos (adr + 1), d.qpos (adr + 2)⟩

variable {K : Type*} [Field K] [Libc K]

/-- `yaw_to_quat`. -/
def yawToQuat (yawRad : K) : Quat K :=
  let half := 1 / 2 * yawRad
  ⟨Libc.cos half, 0, 0, Libc.sin half⟩

omit [Field K] [Libc K] in
/-- The body is one of the model's and owns exactly one joint, a free one. -/
def MjModel.FreeJointed (m : MjModel K) (bodyId : ℕ) : Prop :=
  bodyId < m.nbody ∧ m.bodyJntnum bodyId = 1 ∧ m.jntType (m.bodyJntadr bodyId) = .free

omit [Field K] [Libc K] in
instance (m : MjModel K) (bodyId : ℕ) : Decidable (m.FreeJointed bodyId) :=
  inferInstanceAs (Decidable (_ ∧ _))

/-- `place_free_body`: the data afterwards, unless the body is refused. -/
def placeFreeBody (m : MjModel K) (d : MjData K) (bodyId : ℕ) (x y z yawRad : K) :
    Option (MjData K) :=
  if m.nbody ≤ bodyId then none
  else if m.bodyJntnum bodyId ≠ 1 then none
  else
    let jnt := m.bodyJntadr bodyId
    if m.jntType jnt ≠ .free then none
    else
      let q := yawToQuat yawRad
      some { d with
        qpos := writeAll (fun i : Fin 7 => m.jntQposadr jnt + i) ![x, y, z, q.w, q.x, q.y, q.z]
          (List.finRange 7) d.qpos
        qvel := writeAll (fun i : Fin 6 => m.jntDofadr jnt + i) (fun _ => 0) (List.finRange 6)
          d.qvel }

/-- `place_free_body_by_geom_center`: the body placed so that its geom is centred at the target. -/
def placeFreeBodyByGeomCenter (m : MjModel K) (d : MjData K) (bodyId geomId : ℕ) (x y z : K) :
    Option (MjData K) :=
  if m.ngeom ≤ geomId ∨ m.geomBodyid geomId ≠ bodyId then none
  else
    placeFreeBody m d bodyId (x - m.geomPos (3 * geomId)) (y - m.geomPos (3 * geomId + 1))
      (z - m.geomPos (3 * geomId + 2)) 0

/-- **A body is placed exactly when it is free-jointed.** -/
theorem placeFreeBody_isSome_iff (m : MjModel K) (d : MjData K) (bodyId : ℕ) (x y z yawRad : K) :
    (placeFreeBody m d bodyId x y z yawRad).isSome = true ↔ m.FreeJointed bodyId := by
  rw [placeFreeBody, MjModel.FreeJointed]
  split_ifs with hid hnum
  · simp [hid]
  · simp [hnum]
  · have hnum : m.bodyJntnum bodyId = 1 := by simpa using hnum
    simp [hnum, Nat.lt_of_not_le hid]

/-- **A body is placed by one of its geoms exactly when the geom is its own and it is
free-jointed.** -/
theorem placeFreeBodyByGeomCenter_isSome_iff (m : MjModel K) (d : MjData K) (bodyId geomId : ℕ)
    (x y z : K) :
    (placeFreeBodyByGeomCenter m d bodyId geomId x y z).isSome = true
      ↔ geomId < m.ngeom ∧ m.geomBodyid geomId = bodyId ∧ m.FreeJointed bodyId := by
  rw [placeFreeBodyByGeomCenter]
  split_ifs with hgeom
  · refine iff_of_false Bool.false_ne_true fun ⟨hid, hown, _⟩ => ?_
    exact hgeom.elim (fun hle => absurd hid (Nat.not_lt_of_le hle)) (absurd hown)
  · obtain ⟨hid, hown⟩ := not_or.mp hgeom
    rw [placeFreeBody_isSome_iff]
    exact ⟨fun hfree => ⟨Nat.lt_of_not_le hid, not_not.mp hown, hfree⟩, fun h => h.2.2⟩

/-! ## What a placement writes -/

/-- **The body stands at the pose**: its free joint has it, and is at rest. -/
structure MjModel.StandsAt (m : MjModel K) (bodyId : ℕ) (pose : Pose3 K) (d : MjData K) :
    Prop where
  position : d.freePos (m.jntQposadr (m.bodyJntadr bodyId)) = ⟨pose.x, pose.y, pose.z⟩
  orientation : d.freeQuat (m.jntQposadr (m.bodyJntadr bodyId)) = yawToQuat pose.yaw
  still : ∀ a < 6, d.qvel (m.jntDofadr (m.bodyJntadr bodyId) + a) = 0

/-- **The body was placed**: it stands at the pose, and nothing but its free joint was written. -/
structure MjModel.Wrote (m : MjModel K) (bodyId : ℕ) (pose : Pose3 K) (d d' : MjData K) : Prop where
  freeJointed : m.FreeJointed bodyId
  stands : m.StandsAt bodyId pose d'
  qpos : ∀ p, ¬ m.FreeQpos bodyId p → d'.qpos p = d.qpos p
  qvel : ∀ p, ¬ m.FreeQvel bodyId p → d'.qvel p = d.qvel p
  rest : d'.time = d.time ∧ d'.ctrl = d.ctrl ∧ d'.sensordata = d.sensordata

section Wrote

variable {m : MjModel K} {bodyId : ℕ} {d d' : MjData K} {x y z yaw : K}

/-- A placement is of a free-jointed body, and writes its positions and velocities. -/
theorem placeFreeBody_eq_some (h : placeFreeBody m d bodyId x y z yaw = some d') :
    m.FreeJointed bodyId ∧ d' = { d with
      qpos := writeAll (fun i : Fin 7 => m.jntQposadr (m.bodyJntadr bodyId) + i)
        ![x, y, z, (yawToQuat yaw).w, (yawToQuat yaw).x, (yawToQuat yaw).y, (yawToQuat yaw).z]
        (List.finRange 7) d.qpos
      qvel := writeAll (fun i : Fin 6 => m.jntDofadr (m.bodyJntadr bodyId) + i) (fun _ => 0)
        (List.finRange 6) d.qvel } := by
  have hfree : m.FreeJointed bodyId :=
    (placeFreeBody_isSome_iff m d bodyId x y z yaw).mp (by rw [h]; rfl)
  rw [placeFreeBody, if_neg (Nat.not_le_of_lt hfree.1), if_neg (not_not_intro hfree.2.1)] at h
  dsimp only at h
  rw [if_neg (not_not_intro hfree.2.2)] at h
  exact ⟨hfree, (Option.some.inj h).symm⟩

theorem nodup_map_add (n adr : ℕ) : ((List.finRange n).map fun i : Fin n => adr + i).Nodup :=
  (List.nodup_finRange n).map fun _ _ h => Fin.ext (Nat.add_left_cancel h)

/-- **The frame of a placement.** -/
theorem placeFreeBody_frame (h : placeFreeBody m d bodyId x y z yaw = some d') :
    (∀ p, ¬ m.FreeQpos bodyId p → d'.qpos p = d.qpos p)
      ∧ (∀ p, ¬ m.FreeQvel bodyId p → d'.qvel p = d.qvel p)
      ∧ d'.time = d.time ∧ d'.ctrl = d.ctrl ∧ d'.sensordata = d.sensordata := by
  obtain ⟨-, rfl⟩ := placeFreeBody_eq_some h
  refine ⟨fun p hp => ?_, fun p hp => ?_, rfl, rfl, rfl⟩
  · exact writeAll_of_notMem _ _ _ _ fun i _ heq => hp ⟨i, i.isLt, heq.symm⟩
  · exact writeAll_of_notMem _ _ _ _ fun i _ heq => hp ⟨i, i.isLt, heq.symm⟩

/-- **Where a placement leaves the body.** -/
theorem placeFreeBody_pose (h : placeFreeBody m d bodyId x y z yaw = some d') :
    d'.freePos (m.jntQposadr (m.bodyJntadr bodyId)) = ⟨x, y, z⟩
      ∧ d'.freeQuat (m.jntQposadr (m.bodyJntadr bodyId)) = yawToQuat yaw
      ∧ ∀ a < 6, d'.qvel (m.jntDofadr (m.bodyJntadr bodyId) + a) = 0 := by
  obtain ⟨-, rfl⟩ := placeFreeBody_eq_some h
  have hqpos (i : Fin 7) := writeAll_of_mem _
    ![x, y, z, (yawToQuat yaw).w, (yawToQuat yaw).x, (yawToQuat yaw).y, (yawToQuat yaw).z]
    _ d.qpos (nodup_map_add 7 (m.jntQposadr (m.bodyJntadr bodyId))) (List.mem_finRange i)
  refine ⟨?_, ?_, fun a ha => ?_⟩
  · rw [MjData.freePos, Vec3.mk.injEq]
    exact ⟨hqpos 0, hqpos 1, hqpos 2⟩
  · rw [MjData.freeQuat, Quat.mk.injEq]
    exact ⟨hqpos 3, hqpos 4, hqpos 5, hqpos 6⟩
  · exact writeAll_of_mem (fun i : Fin 6 => m.jntDofadr (m.bodyJntadr bodyId) + i) (fun _ => 0) _
      d.qvel (nodup_map_add 6 _) (List.mem_finRange ⟨a, ha⟩)

/-- **What is placed was written**, and nothing else. -/
theorem placeFreeBody_wrote {pose : Pose3 K}
    (h : placeFreeBody m d bodyId pose.x pose.y pose.z pose.yaw = some d') :
    m.Wrote bodyId pose d d' := by
  obtain ⟨hposition, horientation, hstill⟩ := placeFreeBody_pose h
  obtain ⟨hqpos, hqvel, hrest⟩ := placeFreeBody_frame h
  exact ⟨(placeFreeBody_eq_some h).1, ⟨hposition, horientation, hstill⟩, hqpos, hqvel, hrest⟩

theorem placeFreeBodyByGeomCenter_wrote {geomId : ℕ}
    (h : placeFreeBodyByGeomCenter m d bodyId geomId x y z = some d') :
    m.Wrote bodyId { x := x - m.geomPos (3 * geomId), y := y - m.geomPos (3 * geomId + 1)
                     z := z - m.geomPos (3 * geomId + 2) } d d' := by
  rw [placeFreeBodyByGeomCenter] at h
  split_ifs at h
  exact placeFreeBody_wrote h

end Wrote

end K1Sim
