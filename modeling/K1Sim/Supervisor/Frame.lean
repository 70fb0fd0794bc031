import K1Sim.Supervisor.Reports
import Mathlib.Tactic.LinearCombination

/-!
# Supervisor/Frame — what a call leaves alone, and what it leaves behind

A call writes the free joints of configured bodies and nothing else.  A body it places is at rest,
upright but for its yaw, and a packet seen before does nothing (`process_managesOnly`,
`feed_duplicates`).
-/

namespace K1Sim

open Foundations

section Placement

variable {K : Type*}

/-- **A well-formed model**: distinct joints have their own positions and velocities, and the one
joint of a body is a joint of the model that belongs to it. -/
structure MjModel.WellFormed (m : MjModel K) : Prop where
  qpos_apart : m.Apart m.jntQposadr MjJnt.nq
  qvel_apart : m.Apart m.jntDofadr MjJnt.nv
  bodyJntadr_lt : ∀ bodyId < m.nbody, m.bodyJntnum bodyId = 1 → m.bodyJntadr bodyId < m.njnt
  jntBodyid_bodyJntadr : ∀ bodyId < m.nbody, m.bodyJntnum bodyId = 1 →
    m.jntBodyid (m.bodyJntadr bodyId) = bodyId

/-- Free-jointed bodies that share a stretch of an array are one body. -/
theorem MjModel.WellFormed.eq_of_stretch {m : MjModel K} (hwf : m.WellFormed) {adr : ℕ → ℕ}
    {width : MjJnt → ℕ} (hapart : m.Apart adr width) {b b' p : ℕ} (hb : m.FreeJointed b)
    (hb' : m.FreeJointed b') (hp : m.Stretch adr width (m.bodyJntadr b) p)
    (hp' : m.Stretch adr width (m.bodyJntadr b') p) : b = b' := by
  have hjnt := hapart _ _ p (hwf.bodyJntadr_lt b hb.1 hb.2.1) (hwf.bodyJntadr_lt b' hb'.1 hb'.2.1)
    hp hp'
  rw [← hwf.jntBodyid_bodyJntadr b hb.1 hb.2.1, hjnt, hwf.jntBodyid_bodyJntadr b' hb'.1 hb'.2.1]

theorem MjModel.FreeQpos.stretch {m : MjModel K} {b p : ℕ} (hb : m.FreeJointed b)
    (hp : m.FreeQpos b p) : m.Stretch m.jntQposadr MjJnt.nq (m.bodyJntadr b) p := by
  obtain ⟨a, ha, rfl⟩ := hp
  exact ⟨a, by rwa [hb.2.2], rfl⟩

theorem MjModel.FreeQvel.stretch {m : MjModel K} {b p : ℕ} (hb : m.FreeJointed b)
    (hp : m.FreeQvel b p) : m.Stretch m.jntDofadr MjJnt.nv (m.bodyJntadr b) p := by
  obtain ⟨a, ha, rfl⟩ := hp
  exact ⟨a, by rwa [hb.2.2], rfl⟩

variable [Field K]

/-- **A body at rest**, turned by a yaw alone. -/
structure MjModel.AtRest (m : MjModel K) (bodyId : ℕ) (d : MjData K) : Prop where
  still : ∀ a < 6, d.qvel (m.jntDofadr (m.bodyJntadr bodyId) + a) = 0
  unit : (d.freeQuat (m.jntQposadr (m.bodyJntadr bodyId))).normSq = 1
  yawOnly : (d.freeQuat (m.jntQposadr (m.bodyJntadr bodyId))).x = 0
    ∧ (d.freeQuat (m.jntQposadr (m.bodyJntadr bodyId))).y = 0

/-- The world position of the centre of a geom on a free-jointed body. -/
def MjModel.geomCenter (m : MjModel K) (bodyId geomId : ℕ) (d : MjData K) : Vec3 K :=
  let adr := m.jntQposadr (m.bodyJntadr bodyId)
  let offset := mjuRotVecQuat
    ⟨m.geomPos (3 * geomId), m.geomPos (3 * geomId + 1), m.geomPos (3 * geomId + 2)⟩
    (d.freeQuat adr)
  ⟨(d.freePos adr).x + offset.x, (d.freePos adr).y + offset.y, (d.freePos adr).z + offset.z⟩

variable [Libc K] {m : MjModel K} {bodyId : ℕ} {d d' : MjData K} {x y z yaw : K}

theorem normSq_yawToQuat (hlaws : Libc.Circular K) (yaw : K) : (yawToQuat yaw).normSq = 1 := by
  rw [Quat.normSq, yawToQuat]
  linear_combination hlaws.normSq_eq_one (1 / 2 * yaw)

/-- **A body is at rest where it was placed.** -/
theorem placeFreeBody_atRest (hlaws : Libc.Circular K)
    (h : placeFreeBody m d bodyId x y z yaw = some d') : m.AtRest bodyId d' := by
  obtain ⟨-, hquat, hstill⟩ := placeFreeBody_pose h
  refine ⟨hstill, ?_, ?_⟩
  · rw [hquat, normSq_yawToQuat hlaws]
  · rw [hquat]
    exact ⟨rfl, rfl⟩

/-- **A ball is placed by the centre of its geom**, whatever the geom's offset. -/
theorem placeFreeBodyByGeomCenter_geomCenter (hlaws : Libc.Circular K) {geomId : ℕ}
    (h : placeFreeBodyByGeomCenter m d bodyId geomId x y z = some d') :
    m.geomCenter bodyId geomId d' = ⟨x, y, z⟩ := by
  rw [placeFreeBodyByGeomCenter] at h
  split_ifs at h
  obtain ⟨hpos, hquat, -⟩ := placeFreeBody_pose h
  have hupright : yawToQuat (0 : K) = ⟨1, 0, 0, 0⟩ := by
    rw [yawToQuat, mul_zero, hlaws.cos_zero, hlaws.sin_zero]
  rw [MjModel.geomCenter, hpos, hquat, hupright, mjuRotVecQuat, Vec3.mk.injEq]
  refine ⟨?_, ?_, ?_⟩ <;> simp [Vec3.cross]

/-- A free-jointed body has the joint's stretches to itself: no placement of another body writes
them. -/
theorem placeFreeBody_other (hwf : m.WellFormed) {other : ℕ} (hother : m.FreeJointed other)
    (hne : other ≠ bodyId) (h : placeFreeBody m d bodyId x y z yaw = some d') :
    (∀ p, m.FreeQpos other p → d'.qpos p = d.qpos p)
      ∧ ∀ p, m.FreeQvel other p → d'.qvel p = d.qvel p := by
  obtain ⟨hfree, -⟩ := placeFreeBody_eq_some h
  obtain ⟨hqpos, hqvel, -⟩ := placeFreeBody_frame h
  refine ⟨fun p hp => hqpos p fun hp' => hne ?_, fun p hp => hqvel p fun hp' => hne ?_⟩
  · exact hwf.eq_of_stretch hwf.qpos_apart hother hfree (hp.stretch hother) (hp'.stretch hfree)
  · exact hwf.eq_of_stretch hwf.qvel_apart hother hfree (hp.stretch hother) (hp'.stretch hfree)

omit [Field K] [Libc K] in
theorem freePos_congr (h : ∀ p, m.FreeQpos bodyId p → d'.qpos p = d.qpos p) :
    d'.freePos (m.jntQposadr (m.bodyJntadr bodyId))
      = d.freePos (m.jntQposadr (m.bodyJntadr bodyId)) := by
  rw [MjData.freePos, MjData.freePos, h _ ⟨0, by decide, (add_zero _).symm⟩,
    h _ ⟨1, by decide, rfl⟩, h _ ⟨2, by decide, rfl⟩]

omit [Field K] [Libc K] in
theorem freeQuat_congr (h : ∀ p, m.FreeQpos bodyId p → d'.qpos p = d.qpos p) :
    d'.freeQuat (m.jntQposadr (m.bodyJntadr bodyId))
      = d.freeQuat (m.jntQposadr (m.bodyJntadr bodyId)) := by
  rw [MjData.freeQuat, MjData.freeQuat, h _ ⟨3, by decide, rfl⟩, h _ ⟨4, by decide, rfl⟩,
    h _ ⟨5, by decide, rfl⟩, h _ ⟨6, by decide, rfl⟩]

/-- **A body at rest stays at rest** whatever body is placed. -/
theorem MjModel.AtRest.placeFreeBody (hwf : m.WellFormed) (hlaws : Libc.Circular K) {other : ℕ}
    (hother : m.FreeJointed other) (hrest : m.AtRest other d)
    (h : placeFreeBody m d bodyId x y z yaw = some d') : m.AtRest other d' := by
  by_cases hne : other = bodyId
  · rw [hne]
    exact placeFreeBody_atRest hlaws h
  · obtain ⟨hqpos, hqvel⟩ := placeFreeBody_other hwf hother hne h
    refine ⟨fun a ha => (hqvel _ ⟨a, ha, rfl⟩).trans (hrest.still a ha), ?_, ?_⟩
    · rw [freeQuat_congr hqpos]
      exact hrest.unit
    · rw [freeQuat_congr hqpos]
      exact hrest.yawOnly

/-- **A body stays where it stands** whatever other body is placed. -/
theorem MjModel.StandsAt.placeFreeBody {pose : Pose3 K} (hwf : m.WellFormed) {other : ℕ}
    (hother : m.FreeJointed other) (hne : other ≠ bodyId) (hstands : m.StandsAt other pose d)
    (h : placeFreeBody m d bodyId x y z yaw = some d') : m.StandsAt other pose d' := by
  obtain ⟨hqpos, hqvel⟩ := placeFreeBody_other hwf hother hne h
  refine ⟨(freePos_congr hqpos).trans hstands.position,
    (freeQuat_congr hqpos).trans hstands.orientation, fun a ha => ?_⟩
  exact (hqvel _ ⟨a, ha, rfl⟩).trans (hstands.still a ha)

/-- A placement of another body leaves the geoms of a body where they are. -/
theorem geomCenter_of_placeFreeBody (hwf : m.WellFormed) {other : ℕ}
    (hother : m.FreeJointed other) (hne : other ≠ bodyId) (geomId : ℕ)
    (h : placeFreeBody m d bodyId x y z yaw = some d') :
    m.geomCenter other geomId d' = m.geomCenter other geomId d := by
  obtain ⟨hqpos, -⟩ := placeFreeBody_other hwf hother hne h
  rw [MjModel.geomCenter, MjModel.geomCenter, freePos_congr hqpos, freeQuat_congr hqpos]

end Placement

namespace SupervisorLogic

open ProcState

variable {K : Type*} [Field K] [Libc K]

/-- The data after the robots' deeds. -/
def afterRobots (m : MjModel K) (prev : Option Gc.GameControllerPacket)
    (pkt : Gc.GameControllerPacket) (d : MjData K) (robots : List (RobotConfig K)) : MjData K :=
  (robotDeeds m prev pkt d robots).foldl (fun d deed => deed.written.getD d) d

/-- A placement of the body of a name. -/
def Places (m : MjModel K) (body : String) (d d' : MjData K) : Prop :=
  ∃ bodyId x y z yaw, m.name2id .body body = some bodyId
    ∧ placeFreeBody m d bodyId x y z yaw = some d'

variable {m : MjModel K} {prev : Option Gc.GameControllerPacket} {pkt : Gc.GameControllerPacket}
  {d d' : MjData K}

/-- **A robot's deed is a placement of its body**, when it is due. -/
theorem robotDeed_written {rc : RobotConfig K}
    (h : (robotDeed m prev pkt d rc).written = some d') :
    robotDue prev pkt rc = true ∧ Places m rc.body d d' := by
  rw [robotDeed] at h
  obtain ⟨-, hcall⟩ | ⟨-, -, hcall⟩ | ⟨hdue, bodyId, pose, message, hbody, hcall⟩ :=
    robotCall_cases m prev pkt rc
  · rw [hcall] at h
    exact absurd h.symm (Option.some_ne_none d')
  · rw [hcall] at h
    exact absurd h.symm (Option.some_ne_none d')
  · rw [hcall] at h
    exact ⟨hdue, bodyId, _, _, _, _, hbody, h⟩

/-- **What every placement of a robot preserves**, the deeds of the robots preserve. -/
theorem afterRobots_induction {P : MjData K → Prop} {robots : List (RobotConfig K)}
    (hstep : ∀ rc ∈ robots, ∀ d d', robotDue prev pkt rc = true → Places m rc.body d d' →
      P d → P d') (hd : P d) : P (afterRobots m prev pkt d robots) := by
  induction robots generalizing d with
  | nil => exact hd
  | cons rc robots ih =>
    obtain ⟨hrc, hrest⟩ := List.forall_mem_cons.mp hstep
    refine ih hrest ?_
    change P ((robotDeed m prev pkt d rc).written.getD d)
    rcases hwritten : (robotDeed m prev pkt d rc).written with - | d'
    · exact hd
    · obtain ⟨hdue, hplaces⟩ := robotDeed_written hwritten
      exact hrc d d' hdue hplaces hd

theorem Places.atRest (hlaws : Libc.Circular K) {body : String} (h : Places m body d d') :
    ∃ bodyId, m.name2id .body body = some bodyId ∧ m.FreeJointed bodyId ∧ m.AtRest bodyId d' := by
  obtain ⟨bodyId, x, y, z, yaw, hbody, hplace⟩ := h
  exact ⟨bodyId, hbody, (placeFreeBody_eq_some hplace).1, placeFreeBody_atRest hlaws hplace⟩

theorem atRest_afterRobots (hwf : m.WellFormed) (hlaws : Libc.Circular K) {bodyId : ℕ}
    (hfree : m.FreeJointed bodyId) (robots : List (RobotConfig K)) (hrest : m.AtRest bodyId d) :
    m.AtRest bodyId (afterRobots m prev pkt d robots) := by
  refine afterRobots_induction (P := m.AtRest bodyId) ?_ hrest
  rintro rc - d d' - ⟨other, x, y, z, yaw, -, hplace⟩ hd
  exact hd.placeFreeBody hwf hlaws hfree hplace

/-- A robot that one of the deeds placed is at rest after all of them. -/
theorem atRest_of_mem_robotDeeds (hwf : m.WellFormed) (hlaws : Libc.Circular K)
    {robots : List (RobotConfig K)} {deed : Deed K}
    (hin : deed ∈ robotDeeds m prev pkt d robots) (hwritten : deed.written.isSome = true) :
    ∃ bodyId, m.name2id .body deed.body = some bodyId
      ∧ m.AtRest bodyId (afterRobots m prev pkt d robots) := by
  induction robots generalizing d with
  | nil => exact absurd hin List.not_mem_nil
  | cons rc robots ih =>
    rcases List.mem_cons.mp hin with rfl | hrest
    · obtain ⟨d', hd'⟩ := Option.isSome_iff_exists.mp hwritten
      obtain ⟨bodyId, hbody, hfree, hatRest⟩ := (robotDeed_written hd').2.atRest hlaws
      refine ⟨bodyId, hbody, ?_⟩
      rw [afterRobots, robotDeeds, List.foldl_cons, hd']
      exact atRest_afterRobots hwf hlaws hfree robots hatRest
    · exact ih hrest

variable [LinearOrder K] {logic : SupervisorLogic K}

/-- Where the ball goes: a negative height rests it on the floor. -/
def ballTarget (m : MjModel K) (ball : BallConfig K) (geomId : ℕ) : Vec3 K :=
  ⟨ball.x, ball.y, if ball.z < 0 then m.geomSize (3 * geomId) else ball.z⟩

/-- **The ball's deed is a placement of its body** by its geom. -/
theorem ballDeed_written {ball : BallConfig K} (h : (ballDeed m ball d).written = some d') :
    ∃ bodyId geomId, m.name2id .body ball.body = some bodyId
      ∧ m.name2id .geom ball.geom = some geomId
      ∧ placeFreeBodyByGeomCenter m d bodyId geomId ball.x ball.y (ballTarget m ball geomId).z
        = some d' := by
  rw [ballDeed] at h
  rcases hbody : m.name2id .body ball.body with - | bodyId
  · rw [hbody] at h
    exact absurd h.symm (Option.some_ne_none d')
  rcases hgeom : m.name2id .geom ball.geom with - | geomId
  · rw [hbody, hgeom] at h
    exact absurd h.symm (Option.some_ne_none d')
  rw [hbody, hgeom] at h
  dsimp only at h
  refine ⟨bodyId, geomId, rfl, rfl, ?_⟩
  rw [ballTarget]
  rcases hplace : placeFreeBodyByGeomCenter m d bodyId geomId ball.x ball.y
    (if ball.z < 0 then m.geomSize (3 * geomId) else ball.z) with - | d''
  · rw [hplace] at h
    exact absurd h.symm (Option.some_ne_none d')
  · rw [hplace] at h
    exact h

omit [LinearOrder K] in
theorem places_of_placeFreeBodyByGeomCenter {body : String} {bodyId geomId : ℕ} {x y z : K}
    (hbody : m.name2id .body body = some bodyId)
    (h : placeFreeBodyByGeomCenter m d bodyId geomId x y z = some d') : Places m body d d' := by
  rw [placeFreeBodyByGeomCenter] at h
  split_ifs at h
  exact ⟨bodyId, _, _, _, _, hbody, h⟩

theorem Places.of_ballDeed {ball : BallConfig K} (h : (ballDeed m ball d).written = some d') :
    Places m ball.body d d' := by
  obtain ⟨bodyId, geomId, hbody, -, hplace⟩ := ballDeed_written h
  exact places_of_placeFreeBodyByGeomCenter hbody hplace

/-- The data after the ball's deed. -/
def afterBall (m : MjModel K) (logic : SupervisorLogic K) (d : MjData K)
    (pkt : Gc.GameControllerPacket) : MjData K :=
  (ballDeeds m logic d pkt).foldl (fun d deed => deed.written.getD d) d

theorem process_data_eq_afterRobots (m : MjModel K) (logic : SupervisorLogic K) (d : MjData K)
    (pkt : Gc.GameControllerPacket) :
    (logic.process m d pkt).2.data
      = afterRobots m logic.prev pkt (afterBall m logic d pkt) logic.cfg.robots := by
  rw [process_data, deeds, List.foldl_append]
  rfl

theorem afterBall_induction {P : MjData K → Prop}
    (hstep : ∀ d', Places m logic.cfg.ball.body d d' → P d → P d') (hd : P d) :
    P (afterBall m logic d pkt) := by
  rw [afterBall, ballDeeds]
  split_ifs
  · rw [List.foldl_cons, List.foldl_nil]
    rcases hwritten : (ballDeed m logic.cfg.ball d).written with - | d'
    · exact hd
    · exact hstep d' (.of_ballDeed hwritten) hd
  · exact hd

/-- A ball that is due and can be placed is placed. -/
theorem afterBall_of_placeable {bodyId geomId : ℕ} (hcenter : logic.centerBall pkt = true)
    (henabled : logic.cfg.ball.enabled = true) (hplaceable : ballPlaceable m logic.cfg.ball = true)
    (hbody : m.name2id .body logic.cfg.ball.body = some bodyId)
    (hgeom : m.name2id .geom logic.cfg.ball.geom = some geomId) :
    placeFreeBodyByGeomCenter m d bodyId geomId logic.cfg.ball.x logic.cfg.ball.y
      (ballTarget m logic.cfg.ball geomId).z = some (afterBall m logic d pkt) := by
  have hfits : geomId < m.ngeom ∧ m.geomBodyid geomId = bodyId ∧ m.FreeJointed bodyId := by
    rw [ballPlaceable, hbody, hgeom] at hplaceable
    exact of_decide_eq_true hplaceable
  obtain ⟨d', hd'⟩ := Option.isSome_iff_exists.mp
    ((placeFreeBodyByGeomCenter_isSome_iff m d bodyId geomId logic.cfg.ball.x logic.cfg.ball.y
      (ballTarget m logic.cfg.ball geomId).z).mpr hfits)
  have hafter : afterBall m logic d pkt = d' := by
    rw [ballTarget] at hd'
    rw [afterBall, ballDeeds, hcenter, henabled, ballDeed, hbody, hgeom]
    dsimp only
    rw [hd']
    rfl
  rw [hd', hafter]

/-! ## What a call manages -/

/-- The body is the ball's or a configured robot's. -/
def Managed (m : MjModel K) (cfg : SupervisorConfig K) (bodyId : ℕ) : Prop :=
  m.name2id .body cfg.ball.body = some bodyId
    ∨ ∃ rc ∈ cfg.robots, m.name2id .body rc.body = some bodyId

/-- **A call touches only what it manages**: it writes the free joints of managed bodies alone; a
body it places is left at rest; the ball is left with its geom at the configured point, unless the
same call goes on to place a robot configured by the ball's body; and a packet identical to the one
before does nothing. -/
structure ManagesOnly (m : MjModel K) (logic : SupervisorLogic K) (call : Call K) : Prop where
  qpos : ∀ p, (∀ b, Managed m logic.cfg b → m.FreeJointed b → ¬ m.FreeQpos b p) →
    (logic.process m call.data call.pkt).2.data.qpos p = call.data.qpos p
  qvel : ∀ p, (∀ b, Managed m logic.cfg b → m.FreeJointed b → ¬ m.FreeQvel b p) →
    (logic.process m call.data call.pkt).2.data.qvel p = call.data.qvel p
  rest : (logic.process m call.data call.pkt).2.data.time = call.data.time
    ∧ (logic.process m call.data call.pkt).2.data.ctrl = call.data.ctrl
    ∧ (logic.process m call.data call.pkt).2.data.sensordata = call.data.sensordata
  atRest : ∀ deed ∈ deeds m logic call.data call.pkt, deed.written.isSome = true →
    ∃ b, m.name2id .body deed.body = some b
      ∧ m.AtRest b (logic.process m call.data call.pkt).2.data
  ball : logic.centerBall call.pkt = true → logic.cfg.ball.enabled = true →
    ballPlaceable m logic.cfg.ball = true →
    (∀ rc ∈ logic.cfg.robots, rc.body = logic.cfg.ball.body →
      robotDue logic.prev call.pkt rc = false) →
    ∀ b g, m.name2id .body logic.cfg.ball.body = some b →
      m.name2id .geom logic.cfg.ball.geom = some g →
      m.geomCenter b g (logic.process m call.data call.pkt).2.data = ballTarget m logic.cfg.ball g
  repeated : logic.prev = some call.pkt →
    (logic.process m call.data call.pkt).1 = logic
      ∧ (logic.process m call.data call.pkt).2.data = call.data
      ∧ (logic.process m call.data call.pkt).2.actions = []

/-- **What every placement of a managed body preserves**, a call preserves. -/
theorem process_data_induction {P : MjData K → Prop}
    (hstep : ∀ b x y z yaw d d', Managed m logic.cfg b →
      placeFreeBody m d b x y z yaw = some d' → P d → P d') (hd : P d) :
    P (logic.process m d pkt).2.data := by
  rw [process_data_eq_afterRobots]
  refine afterRobots_induction ?_ (afterBall_induction ?_ hd)
  · rintro rc hrc d d' - ⟨b, x, y, z, yaw, hbody, hplace⟩
    exact hstep b x y z yaw d d' (.inr ⟨rc, hrc, hbody⟩) hplace
  · rintro d' ⟨b, x, y, z, yaw, hbody, hplace⟩
    exact hstep b x y z yaw d d' (.inl hbody) hplace

theorem process_qpos {p : ℕ}
    (hp : ∀ b, Managed m logic.cfg b → m.FreeJointed b → ¬ m.FreeQpos b p) :
    (logic.process m d pkt).2.data.qpos p = d.qpos p := by
  refine process_data_induction (P := fun d' => d'.qpos p = d.qpos p) ?_ rfl
  intro b x y z yaw d₁ d₂ hmanaged hplace hd
  have hother := hp b hmanaged (placeFreeBody_eq_some hplace).1
  exact ((placeFreeBody_frame hplace).1 p hother).trans hd

theorem process_qvel {p : ℕ}
    (hp : ∀ b, Managed m logic.cfg b → m.FreeJointed b → ¬ m.FreeQvel b p) :
    (logic.process m d pkt).2.data.qvel p = d.qvel p := by
  refine process_data_induction (P := fun d' => d'.qvel p = d.qvel p) ?_ rfl
  intro b x y z yaw d₁ d₂ hmanaged hplace hd
  have hother := hp b hmanaged (placeFreeBody_eq_some hplace).1
  exact ((placeFreeBody_frame hplace).2.1 p hother).trans hd

theorem process_rest (m : MjModel K) (logic : SupervisorLogic K) (d : MjData K)
    (pkt : Gc.GameControllerPacket) :
    (logic.process m d pkt).2.data.time = d.time ∧ (logic.process m d pkt).2.data.ctrl = d.ctrl
      ∧ (logic.process m d pkt).2.data.sensordata = d.sensordata := by
  refine process_data_induction (P := fun d' => d'.time = d.time ∧ d'.ctrl = d.ctrl
    ∧ d'.sensordata = d.sensordata) ?_ ⟨rfl, rfl, rfl⟩
  rintro b x y z yaw d₁ d₂ - hplace ⟨htime, hctrl, hsensors⟩
  obtain ⟨-, -, htime', hctrl', hsensors'⟩ := placeFreeBody_frame hplace
  exact ⟨htime'.trans htime, hctrl'.trans hctrl, hsensors'.trans hsensors⟩

theorem process_atRest (hwf : m.WellFormed) (hlaws : Libc.Circular K) {deed : Deed K}
    (hin : deed ∈ deeds m logic d pkt) (hwritten : deed.written.isSome = true) :
    ∃ b, m.name2id .body deed.body = some b ∧ m.AtRest b (logic.process m d pkt).2.data := by
  rw [process_data_eq_afterRobots]
  rcases List.mem_append.mp hin with hball | hrobot
  · rw [ballDeeds] at hball
    split_ifs at hball with hdue
    · obtain rfl := List.mem_singleton.mp hball
      obtain ⟨d', hd'⟩ := Option.isSome_iff_exists.mp hwritten
      obtain ⟨b, hbody, hfree, hrest⟩ := (Places.of_ballDeed hd').atRest hlaws
      have hbodyOf : (ballDeed m logic.cfg.ball d).body = logic.cfg.ball.body := by
        rw [ballDeed]
        split
        · dsimp only
          split <;> rfl
        · rfl
      refine ⟨b, by rw [hbodyOf, hbody], atRest_afterRobots hwf hlaws hfree _ ?_⟩
      rw [afterBall, ballDeeds, if_pos hdue, List.foldl_cons, hd']
      exact hrest
    · exact absurd hball List.not_mem_nil
  · exact atRest_of_mem_robotDeeds hwf hlaws hrobot hwritten

theorem process_geomCenter (hwf : m.WellFormed) (hlaws : Libc.Circular K)
    (hcenter : logic.centerBall pkt = true) (henabled : logic.cfg.ball.enabled = true)
    (hplaceable : ballPlaceable m logic.cfg.ball = true)
    (halone : ∀ rc ∈ logic.cfg.robots, rc.body = logic.cfg.ball.body →
      robotDue logic.prev pkt rc = false) {b g : ℕ}
    (hbody : m.name2id .body logic.cfg.ball.body = some b)
    (hgeom : m.name2id .geom logic.cfg.ball.geom = some g) :
    m.geomCenter b g (logic.process m d pkt).2.data = ballTarget m logic.cfg.ball g := by
  have hball := afterBall_of_placeable (d := d) hcenter henabled hplaceable hbody hgeom
  have hfree : m.FreeJointed b :=
    ((placeFreeBodyByGeomCenter_isSome_iff m d b g _ _ _).mp (Option.isSome_of_eq_some hball)).2.2
  rw [process_data_eq_afterRobots]
  refine afterRobots_induction (P := fun d' => m.geomCenter b g d' = ballTarget m logic.cfg.ball g)
    ?_ (placeFreeBodyByGeomCenter_geomCenter hlaws hball)
  rintro rc hrc d₁ d₂ hdue ⟨other, x, y, z, yaw, hother, hplace⟩ hd
  have hne : b ≠ other := by
    rintro rfl
    exact absurd (hdue.symm.trans (halone rc hrc (m.name2id_inj hother hbody)))
      (Bool.false_ne_true ∘ Eq.symm)
  exact (geomCenter_of_placeFreeBody hwf hfree hne g hplace).trans hd

/-! ## Where a robot is left -/

omit [LinearOrder K] in
theorem afterRobots_append (m : MjModel K) (prev : Option Gc.GameControllerPacket)
    (pkt : Gc.GameControllerPacket) (d : MjData K) (robots more : List (RobotConfig K)) :
    afterRobots m prev pkt d (robots ++ more)
      = afterRobots m prev pkt (afterRobots m prev pkt d robots) more := by
  induction robots generalizing d with
  | nil => rfl
  | cons rc robots ih => exact ih ((robotDeed m prev pkt d rc).written.getD d)

omit [LinearOrder K] in
/-- The placement that a call makes of a robot is written. -/
theorem wrote_of_placement? {rc : RobotConfig K} {pose : Pose3 K} {b : ℕ}
    (h : placement? m prev pkt rc = some pose) (hbody : m.name2id .body rc.body = some b)
    (d : MjData K) : ∃ d', (robotDeed m prev pkt d rc).written = some d' ∧ m.Wrote b pose d d' := by
  rw [placement?] at h
  obtain ⟨-, hcall⟩ | ⟨-, -, hcall⟩ | ⟨-, bodyId, target, message, hname, hcall⟩ :=
    robotCall_cases m prev pkt rc
  · rw [hcall] at h
    exact absurd h.symm (Option.some_ne_none pose)
  · rw [hcall] at h
    exact absurd h.symm (Option.some_ne_none pose)
  rw [hcall] at h
  dsimp only at h
  split_ifs at h with hfree
  obtain rfl := Option.some.inj h
  obtain rfl := Option.some.inj (hname.symm.trans hbody)
  obtain ⟨d', hd'⟩ := Option.isSome_iff_exists.mp
    ((placeFreeBody_isSome_iff m d bodyId target.x target.y target.z target.yaw).mpr hfree)
  exact ⟨d', by rw [robotDeed, hcall]; exact hd', placeFreeBody_wrote hd'⟩

/-- **A robot that a call records as placed stands there after the call**, unless a robot later in
the configuration has the same body and is due. -/
theorem process_standsAt (hwf : m.WellFormed) {i : ℕ} {rc : RobotConfig K} {b : ℕ}
    {pose : Pose3 K} (hrc : logic.cfg.robots[i]? = some rc)
    (hbody : m.name2id .body rc.body = some b)
    (halone : ∀ other ∈ logic.cfg.robots.drop (i + 1), other.body = rc.body →
      robotDue logic.prev pkt other = false)
    (hplaced : (logic.process m d pkt).2.placed.lookup i = some pose) :
    m.StandsAt b pose (logic.process m d pkt).2.data := by
  obtain ⟨hlt, rfl⟩ := List.getElem?_eq_some_iff.mp hrc
  rw [lookup_placed m d pkt hrc] at hplaced
  rw [process_data_eq_afterRobots, ← List.take_append_drop i logic.cfg.robots,
    List.drop_eq_getElem_cons hlt, afterRobots_append]
  obtain ⟨d', hwritten, hwrote⟩ := wrote_of_placement? hplaced hbody
    (afterRobots m logic.prev pkt (afterBall m logic d pkt) (logic.cfg.robots.take i))
  rw [afterRobots, robotDeeds, List.foldl_cons, hwritten]
  refine afterRobots_induction (P := m.StandsAt b pose) ?_ hwrote.stands
  rintro other hin d₁ d₂ hdue ⟨b', x, y, z, yaw, hother, hplace⟩ hstands
  have hne : b ≠ b' := by
    rintro rfl
    exact absurd (hdue.symm.trans (halone other hin (m.name2id_inj hother hbody)))
      (Bool.false_ne_true ∘ Eq.symm)
  exact hstands.placeFreeBody hwf hwrote.freeJointed hne hplace

/-! ## A packet seen before -/

omit [LinearOrder K] in
/-- A robot that is not due is left alone. -/
theorem perform_robotDeed_of_not_due {rc : RobotConfig K} (h : robotDue prev pkt rc = false)
    (s : ProcState K) : s.perform (robotDeed m prev pkt d rc) = s := by
  obtain ⟨-, hcall⟩ | ⟨hdue, -⟩ | ⟨hdue, -⟩ := robotCall_cases m prev pkt rc
  · rw [ProcState.perform, robotDeed, hcall]
    rfl
  · exact absurd (h.symm.trans hdue) Bool.false_ne_true
  · exact absurd (h.symm.trans hdue) Bool.false_ne_true

omit [LinearOrder K] in
theorem foldl_robotDeeds_of_not_due {robots : List (RobotConfig K)}
    (h : ∀ rc ∈ robots, robotDue prev pkt rc = false) (s : ProcState K) :
    (robotDeeds m prev pkt d robots).foldl ProcState.perform s = s := by
  induction robots generalizing d with
  | nil => rfl
  | cons rc robots ih =>
    obtain ⟨hrc, hrest⟩ := List.forall_mem_cons.mp h
    rw [robotDeeds, List.foldl_cons, perform_robotDeed_of_not_due hrc]
    exact ih hrest

omit [LinearOrder K] [Libc K] in
theorem robotDue_repeated (pkt : Gc.GameControllerPacket) (rc : RobotConfig K) :
    robotDue (some pkt) pkt rc = false := by
  rw [robotDue, Option.bind_some]
  rcases reported rc pkt with - | ps
  · rfl
  · simp

omit [LinearOrder K] [Libc K] in
theorem goalDetected_repeated (h : logic.prev = some pkt) : logic.goalDetected pkt = false := by
  have hscore : scoreIncreased pkt pkt = false := by simp [scoreIncreased]
  rw [goalDetected, h]
  dsimp only
  rw [hscore, Bool.and_false]

omit [LinearOrder K] [Libc K] in
theorem halfChanged_repeated (h : logic.prev = some pkt) : logic.halfChanged pkt = false := by
  rw [halfChanged, h]
  dsimp only
  rw [bne_self_eq_false, Bool.and_false]

omit [LinearOrder K] [Libc K] in
theorem centerBall_repeated (h : logic.prev = some pkt) : logic.centerBall pkt = false := by
  rw [centerBall, goalDetected_repeated h, halfChanged_repeated h, h]
  simp

omit [LinearOrder K] [Libc K] in
theorem gameMessages_repeated (h : logic.prev = some pkt) : logic.gameMessages pkt = [] := by
  rw [gameMessages, goalDetected_repeated h, halfChanged_repeated h, h]
  simp

/-- **A packet identical to the one before does nothing.** -/
theorem process_repeated (m : MjModel K) (d : MjData K) (h : logic.prev = some pkt) :
    (logic.process m d pkt).1 = logic ∧ (logic.process m d pkt).2.data = d
      ∧ (logic.process m d pkt).2.actions = [] := by
  have hidle : (logic.process m d pkt).2.forget = { data := d, warned := logic.warned } := by
    rw [process_eq_perform, gameMessages_repeated h, deeds, ballDeeds, centerBall_repeated h,
      List.foldl_append, foldl_robotDeeds_of_not_due]
    · rfl
    · intro rc _
      rw [h]
      exact robotDue_repeated pkt rc
  refine ⟨?_, congrArg ProcState.data hidle, congrArg ProcState.actions hidle⟩
  have hwarned : (logic.process m d pkt).2.warned = logic.warned :=
    congrArg ProcState.warned hidle
  have hnext : (logic.process m d pkt).1
      = { logic with prev := some pkt, warned := (logic.process m d pkt).2.warned } := rfl
  rw [hnext, hwarned, ← h]

/-! ## Runs -/

/-- The supervisor and the data, fed datagrams with nothing in between. -/
def datagrams (m : MjModel K) :
    Machine (SupervisorLogic K × MjData K) Gc.GameControllerPacket (List Action) where
  next s pkt := ((s.1.process m s.2 pkt).1, (s.1.process m s.2 pkt).2.data)
  out s pkt := some (s.1.process m s.2 pkt).2.actions

theorem managesOnly (hwf : m.WellFormed) (hlaws : Libc.Circular K) (logic : SupervisorLogic K)
    (call : Call K) : ManagesOnly m logic call where
  qpos _ hp := process_qpos hp
  qvel _ hp := process_qvel hp
  rest := process_rest m logic call.data call.pkt
  atRest _ hin hwritten := process_atRest hwf hlaws hin hwritten
  ball hcenter henabled hplaceable halone _ _ hbody hgeom :=
    process_geomCenter hwf hlaws hcenter henabled hplaceable halone hbody hgeom
  repeated h := process_repeated m call.data h

/-- A datagram just read does nothing when it comes again. -/
theorem datagrams_next_next (m : MjModel K) (s : SupervisorLogic K × MjData K)
    (pkt : Gc.GameControllerPacket) :
    (datagrams m).next ((datagrams m).next s pkt) pkt = (datagrams m).next s pkt := by
  have hprev : ((datagrams m).next s pkt).1.prev = some pkt := rfl
  obtain ⟨hlogic, hdata, -⟩ := process_repeated m ((datagrams m).next s pkt).2 hprev
  exact Prod.ext hlogic hdata

/-- **Every call of a run touches only what it manages, and duplicates of a datagram are as good as
one.** -/
theorem process_managesOnly (hwf : m.WellFormed) (hlaws : Libc.Circular K)
    (cfg : SupervisorConfig K) :
    (∀ calls, (machine m).Always (fun logic call => logic.cfg = cfg ∧ ManagesOnly m logic call)
        { cfg := cfg } calls)
      ∧ ∀ d before pkt n after,
        (datagrams m).run ({ cfg := cfg }, d) (before ++ List.replicate (n + 1) pkt ++ after)
          = (datagrams m).run ({ cfg := cfg }, d) (before ++ pkt :: after) := by
  refine ⟨fun calls => ?_, fun d before pkt n after => ?_⟩
  · have hgrants : ∀ (logic : SupervisorLogic K) (call : Call K), logic.cfg = cfg →
        logic.cfg = cfg ∧ ManagesOnly m logic call :=
      fun logic call hcfg => ⟨hcfg, managesOnly hwf hlaws logic call⟩
    have hkept : ∀ (logic : SupervisorLogic K) (call : Call K), logic.cfg = cfg →
        ((machine m).next logic call).cfg = cfg := fun _ _ hcfg => hcfg
    exact (machine m).always_of_invariant hgrants hkept calls _ rfl
  · rw [Machine.run_append, Machine.run_append, Machine.run_append, List.replicate_succ,
      Machine.run_cons, Machine.run_cons,
      (datagrams m).run_replicate (datagrams_next_next m _ pkt)]

/-! ## A ball configured as a robot -/

/-- A ball alone, its geom off its body. -/
def ballScene : MjModel ℚ where
  optTimestep := 1
  nbody := 2
  njnt := 1
  ngeom := 1
  bodyJntnum b := if b = 1 then 1 else 0
  bodyJntadr _ := 0
  bodySubtreemass _ := 1
  jntType _ := .free
  jntBodyid _ := 1
  jntQposadr _ := 0
  jntDofadr _ := 0
  geomBodyid _ := 1
  geomPos i := if i = 0 then 1 / 2 else 0
  geomSize _ := 1 / 10
  actuatorForcelimited _ := false
  actuatorForcerange _ := 0
  sensorAdr _ := 0
  name2id
    | .body, name => ["world", "ball"].idxOf? name
    | .geom, name => ["ball"].idxOf? name
    | _, _ => none
  name2id_inj := by
    intro t s s' i h h'
    cases t with
    | body | geom => exact idxOf?_inj h h'
    | _ => exact absurd h (by simp)

theorem ballScene_wellFormed : ballScene.WellFormed where
  qpos_apart _ _ _ hj hj' _ _ := (Nat.lt_one_iff.mp hj).trans (Nat.lt_one_iff.mp hj').symm
  qvel_apart _ _ _ hj hj' _ _ := (Nat.lt_one_iff.mp hj).trans (Nat.lt_one_iff.mp hj').symm
  bodyJntadr_lt _ _ _ := Nat.one_pos
  jntBodyid_bodyJntadr b _ hnum := by
    by_contra hne
    have hzero : ballScene.bodyJntnum b = 0 := if_neg (Ne.symm hne)
    exact absurd (hzero.symm.trans hnum) (by decide)

/-- The ball and a robot of another body: READY centres the ball. -/
theorem ballScene_managed :
    (machine ballScene).Always
      (fun logic call =>
        logic.cfg = { robots := [robotOfTeam7] } ∧ ManagesOnly ballScene logic call)
      { cfg := { robots := [robotOfTeam7] } }
      [⟨k1Upright, { packetOf 7 .pickUp with state := .ready }⟩] :=
  (process_managesOnly ballScene_wellFormed circular_rat { robots := [robotOfTeam7] }).1 _

/-- A robot configured by the ball's body, penalised in the packet that centres the ball: the ball
is placed by its geom and then moved to the side line. -/
theorem ball_not_centred :
    let logic : SupervisorLogic ℚ := { cfg := { robots := [{ robotOfTeam7 with body := "ball" }] } }
    let pkt : Gc.GameControllerPacket := { packetOf 7 .pickUp with state := .ready }
    ballScene.WellFormed ∧ logic.centerBall pkt = true ∧ logic.cfg.ball.enabled = true
      ∧ (ballDeed ballScene logic.cfg.ball k1Upright).written.isSome = true
      ∧ ballScene.geomCenter 1 0 (logic.process ballScene k1Upright pkt).2.data
        ≠ ballTarget ballScene logic.cfg.ball 0 :=
  ⟨ballScene_wellFormed, by decide, rfl, by decide +kernel, by decide +kernel⟩

end SupervisorLogic

end K1Sim
