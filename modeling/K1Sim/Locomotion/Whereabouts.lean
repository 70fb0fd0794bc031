import K1Sim.Locomotion.Unwinding

/-!
# Locomotion/Whereabouts — the controller does not see where the robot is

The same robot elsewhere on the floor and turned about the vertical is `Moved`.  It has the same
tilt, so neither the torques nor the mode nor the fall state ever tell the two apart
(`trace_eq_of_moved`).
-/

namespace K1Sim

open Foundations

namespace LocomotionController

variable {K : Type*} [Field K] [LinearOrder K]

omit [LinearOrder K] in
/-- A turn about the vertical keeps the height of a body's up axis. -/
theorem up_z_turned {c s : K} (hunit : c * c + s * s = 1) (q : Quat K) :
    (mjuRotVecQuat ⟨0, 0, 1⟩ (mjuMulQuat ⟨c, 0, 0, s⟩ q)).z = (mjuRotVecQuat ⟨0, 0, 1⟩ q).z := by
  rw [mjuMulQuat, mjuRotVecQuat, mjuRotVecQuat]
  dsimp only [Vec3.cross]
  linear_combination -2 * (q.x * q.x + q.y * q.y) * hunit

/-- The orientation of the root, from the positions alone. -/
def quatOf (map : ModelMap) (qpos : ℕ → K) : Quat K :=
  ⟨qpos (map.rootQposAdr + 3), qpos (map.rootQposAdr + 4), qpos (map.rootQposAdr + 5),
    qpos (map.rootQposAdr + 6)⟩

variable (lm : LoadedModel K)

/-- The same robot elsewhere on the floor, turned about the vertical: the height, the joints and the
angular rate in the body's frame are the same. -/
structure Moved (o o' : Observation K) : Prop where
  turned : ∃ c s : K, c * c + s * s = 1
    ∧ quatOf lm.map o'.qpos = mjuMulQuat ⟨c, 0, 0, s⟩ (quatOf lm.map o.qpos)
  height : o'.qpos (lm.map.rootQposAdr + 2) = o.qpos (lm.map.rootQposAdr + 2)
  joints : o.joints lm = o'.joints lm
  gyro : ∀ g, lm.map.sensGyro = some g →
    ∀ a < 3, o'.sensordata (g + a) = o.sensordata (g + a)

/-- Events of two runs that show the controller a robot and the same robot moved. -/
inductive Event.Alike : Event K → Event K → Prop
  | call (c : Call K) : Alike (.call c) (.call c)
  | tick : Alike .tick .tick
  | mjStep {o o' : Observation K} (h : Moved lm o o') : Alike (.mjStep o) (.mjStep o')
  | reset {o o' : Observation K} (h : Moved lm o o') {ctrl ctrl' : ℕ → K}
      (hctrl : ∀ i, ctrl' (lm.map.actId i) = ctrl (lm.map.actId i)) :
      Alike (.reset o ctrl) (.reset o' ctrl')

/-- What the controller reads of the data. -/
def seen (d : MjData K) : Observation K := ⟨d.qpos, d.qvel, d.sensordata⟩

/-- Worlds that differ in the robot's whereabouts alone. -/
structure Elsewhere (w w' : World K) : Prop where
  ctl : w'.ctl = w.ctl
  phase : w'.phase = w.phase
  time : w'.data.time = w.data.time
  ctrl : jointCtrl lm w'.data = jointCtrl lm w.data
  moved : Moved lm (seen w.data) (seen w'.data)

variable {lm}

theorem Moved.sameJoints {d d' : MjData K} (h : Moved lm (seen d) (seen d'))
    (htime : d'.time = d.time) : SameJoints lm d d' where
  time := htime.symm
  q := congrFun (congrArg Prod.fst h.joints)
  dq := congrFun (congrArg Prod.snd h.joints)

/-- **The fall state does not tell the two apart.** -/
theorem Moved.computedFallState [Libc K] {d d' : MjData K} (h : Moved lm (seen d) (seen d'))
    (cfg : Config K) : computedFallState lm cfg d' = computedFallState lm cfg d := by
  obtain ⟨⟨c, s, hunit, hturned⟩, hheight, -, hgyro⟩ := h
  have htilt : baseTilt d' lm.map = baseTilt d lm.map := by
    have hup : (baseUpVector d' lm.map).z = (baseUpVector d lm.map).z := by
      change (mjuRotVecQuat ⟨0, 0, 1⟩ (quatOf lm.map (seen d').qpos)).z = _
      rw [hturned, up_z_turned hunit]
      rfl
    rw [baseTilt, baseTilt, hup]
  have hrate : gyroMagnitude lm d' = gyroMagnitude lm d := by
    rw [gyroMagnitude, gyroMagnitude]
    cases hsens : lm.map.sensGyro with
    | none => rfl
    | some g =>
      have hsame := hgyro g hsens
      dsimp only [seen] at hsame ⊢
      rw [hsame 1 (by decide), hsame 2 (by decide), show d'.sensordata g = d.sensordata g from
        hsame 0 (by decide)]
  rw [LocomotionController.computedFallState, LocomotionController.computedFallState, htilt, hrate,
    show d'.qpos (lm.map.rootQposAdr + 2) = d.qpos (lm.map.rootQposAdr + 2) from hheight]

/-- **A mode request is consumed alike.** -/
theorem Moved.consumeModeRequest {d d' : MjData K} (h : Moved lm (seen d) (seen d'))
    (htime : d'.time = d.time) (c : LocomotionController K) (snap : CommandSnapshot K) :
    consumeModeRequest lm c snap d' = consumeModeRequest lm c snap d := by
  have hq : currentQ lm d' = currentQ lm d := (h.sameJoints htime).currentQ.symm
  simp only [LocomotionController.consumeModeRequest, handleModeRequest, hq, htime]

variable [Libc K]

/-- **A step acts alike.** -/
theorem Moved.actuate {d d' : MjData K} (h : Moved lm (seen d) (seen d'))
    (htime : d'.time = d.time) (hctrl : jointCtrl lm d' = jointCtrl lm d)
    (c : LocomotionController K) (snap : CommandSnapshot K) :
    (actuate lm c snap d').1 = (actuate lm c snap d).1
      ∧ jointCtrl lm (actuate lm c snap d').2 = jointCtrl lm (actuate lm c snap d).2 := by
  constructor
  · have hfall : updateFallDetection lm c d' = updateFallDetection lm c d := by
      rw [updateFallDetection, updateFallDetection, h.computedFallState]
    simp only [LocomotionController.actuate, hfall, stepCustom]
    split
    · rfl
    · rfl
    · split_ifs <;> rfl
  · rw [actuate_ctrl, actuate_ctrl, htime, hctrl]
    exact (Law.ctrl_congr (h.sameJoints htime) _ _ _).symm

variable (lm) in
/-- The data after a step are where they were. -/
theorem seen_actuate (c : LocomotionController K) (snap : CommandSnapshot K) (d : MjData K) :
    seen (actuate lm c snap d).2 = seen d ∧ (actuate lm c snap d).2.time = d.time := by
  obtain ⟨_, _, _, _, hact⟩ := actuate_frame lm c snap d
  rw [hact]
  exact ⟨rfl, rfl⟩

/-- **A part of a step keeps the worlds alike.** -/
theorem Elsewhere.tick {w w' : World K} (h : Elsewhere lm w w') :
    Elsewhere lm (w.tick lm) (w'.tick lm) := by
  obtain ⟨c, d, phase⟩ := w
  obtain ⟨c', d', phase'⟩ := w'
  obtain ⟨rfl, rfl, htime, hctrl, hmoved⟩ := h
  cases phase' with
  | idle => exact ⟨rfl, rfl, htime, hctrl, hmoved⟩
  | snapped snap =>
    exact ⟨hmoved.consumeModeRequest htime c' snap, rfl, htime, hctrl, hmoved⟩
  | consumed snap =>
    obtain ⟨hctl, hjoints⟩ := hmoved.actuate htime hctrl c' snap
    obtain ⟨hseen, hclock⟩ := seen_actuate lm c' snap d
    obtain ⟨hseen', hclock'⟩ := seen_actuate lm c' snap d'
    refine ⟨hctl, rfl, hclock'.trans (htime.trans hclock.symm), hjoints, ?_⟩
    change Moved lm (seen (LocomotionController.actuate lm c' snap d).2)
      (seen (LocomotionController.actuate lm c' snap d').2)
    rwa [hseen, hseen']

omit [Libc K] in
theorem Elsewhere.sample {w w' : World K} (h : Elsewhere lm w w') :
    w'.sample lm = w.sample lm := by
  rw [World.sample, World.sample, h.ctl, h.ctrl]

/-- **Alike events keep the worlds alike.** -/
theorem Elsewhere.next {w w' : World K} (h : Elsewhere lm w w') {e e' : Event K}
    (hlike : Event.Alike lm e e') :
    Elsewhere lm ((world lm).next w e) ((world lm).next w' e') := by
  cases hlike with
  | call c => exact ⟨congrArg (applyCall · c) h.ctl, h.phase, h.time, h.ctrl, h.moved⟩
  | tick => exact h.tick
  | mjStep hmoved =>
    obtain ⟨c, d, phase⟩ := w
    obtain ⟨c', d', phase'⟩ := w'
    obtain ⟨rfl, rfl, htime, hctrl, hbefore⟩ := h
    cases phase' with
    | idle => exact ⟨rfl, rfl, congrArg (· + _) htime, hctrl, hmoved⟩
    | snapped snap => exact ⟨rfl, rfl, htime, hctrl, hbefore⟩
    | consumed snap => exact ⟨rfl, rfl, htime, hctrl, hbefore⟩
  | reset hmoved hrewound =>
    obtain ⟨c, d, phase⟩ := w
    obtain ⟨c', d', phase'⟩ := w'
    obtain ⟨rfl, rfl, htime, hctrl, hbefore⟩ := h
    cases phase' with
    | idle => exact ⟨rfl, rfl, rfl, funext hrewound, hmoved⟩
    | snapped snap => exact ⟨rfl, rfl, htime, hctrl, hbefore⟩
    | consumed snap => exact ⟨rfl, rfl, htime, hctrl, hbefore⟩

/-- Alike events show the same. -/
theorem Elsewhere.out {w w' : World K} (h : Elsewhere lm w w') {e e' : Event K}
    (hlike : Event.Alike lm e e') : (world lm).out w e = (world lm).out w' e' := by
  cases hlike with
  | call c => rfl
  | tick =>
    have hsample := h.tick.sample
    obtain ⟨c, d, phase⟩ := w
    obtain ⟨c', d', phase'⟩ := w'
    obtain ⟨-, rfl, -, -, -⟩ := h
    cases phase' with
    | idle => rfl
    | snapped snap => rfl
    | consumed snap => exact congrArg some hsample.symm
  | mjStep hmoved => rfl
  | reset hmoved hctrl => rfl

/-- **The controller does not see where the robot is, nor which way it faces**: two runs whose
callers call the same, on a robot and on the same robot elsewhere and turned, leave the same
torques, modes and fall states behind, step by step. -/
theorem trace_eq_of_moved {es es' : List (Event K)}
    (hlike : List.Forall₂ (Event.Alike lm) es es') {w w' : World K} (h : Elsewhere lm w w') :
    (world lm).trace w es = (world lm).trace w' es' := by
  have hmap := (world lm).trace_map_eq_of_rel id (R := Elsewhere lm) (E := Event.Alike lm)
    (fun w w' e e' hlike h => by rw [h.out hlike]) (fun w w' e e' hlike h => h.next hlike) hlike h
  rwa [List.map_id, List.map_id] at hmap

/-! ## A K1 on the other side of the field -/

/-- The bare K1 at `(3, -2)`, turned and sliding. -/
def k1Elsewhere : Observation ℚ where
  qpos i := if i = 0 then 3 else if i = 1 then -2 else if i = 2 then 1 / 2
    else if i = 3 then 3 / 5 else if i = 6 then 4 / 5 else 0
  qvel i := if i < 6 then 1 else 0
  sensordata _ := 0

theorem moved_k1Elsewhere : Moved (k1Plant 1) uprightObs k1Elsewhere where
  turned := ⟨3 / 5, 4 / 5, by decide +kernel, by decide +kernel⟩
  height := rfl
  joints := by
    have hq : ∀ i : Fin jointCount, uprightObs.qpos (7 + i) = k1Elsewhere.qpos (7 + i) := by
      decide +kernel
    have hdq : ∀ i : Fin jointCount, uprightObs.qvel (6 + i) = k1Elsewhere.qvel (6 + i) := by
      decide +kernel
    exact Prod.ext (funext hq) (funext hdq)
  gyro g hg := nomatch hg

/-- A stand and a session of CUSTOM, here and there. -/
theorem trace_eq_of_movedK1 :
    (world (k1Plant 1)).trace
        { ctl := { cfg := Config.ofYaml {} {} }, data := rewind uprightObs fun _ => 0 }
        [.call (.requestModeChange 1), .tick, .tick, .tick, .mjStep uprightObs,
          .call (.requestModeChange 3), .tick, .tick, .tick]
      = (world (k1Plant 1)).trace
        { ctl := { cfg := Config.ofYaml {} {} }, data := rewind k1Elsewhere fun _ => 0 }
        [.call (.requestModeChange 1), .tick, .tick, .tick, .mjStep k1Elsewhere,
          .call (.requestModeChange 3), .tick, .tick, .tick] :=
  trace_eq_of_moved
    (.cons (.call _) (.cons .tick (.cons .tick (.cons .tick (.cons (.mjStep moved_k1Elsewhere)
      (.cons (.call _) (.cons .tick (.cons .tick (.cons .tick .nil)))))))))
    ⟨rfl, rfl, rfl, rfl, moved_k1Elsewhere⟩

end LocomotionController

end K1Sim
