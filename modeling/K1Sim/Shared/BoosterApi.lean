import Mathlib.Data.Rat.Defs
import Mathlib.Data.UInt

/-!
# Shared/BoosterApi — the Booster wire constants and the messages made of them

The enumerations of `shared/k1/BoosterApi.hpp` and the in-process messages of
`shared/message/Commands.hpp` that `SdkBridge` emits and `Locomotion` consumes.
-/

namespace K1Sim

/-- `booster::ApiId`: the `api_id` of a request header. -/
inductive ApiId where
  | changeMode | move | rotateHead | waveHand | rotateHeadWithDirection | lieDown | getUp | getMode
  | getUpWithMode | visualKick
  deriving DecidableEq, Repr

/-- The wire value. -/
def ApiId.toInt : ApiId → ℤ
  | .changeMode => 2000
  | .move => 2001
  | .rotateHead => 2004
  | .waveHand => 2005
  | .rotateHeadWithDirection => 2006
  | .lieDown => 2007
  | .getUp => 2008
  | .getMode => 2017
  | .getUpWithMode => 2025
  | .visualKick => 2038

/-- `booster::RobotMode`. -/
inductive RobotMode where
  | unknown | damping | prepare | walking | custom | soccer
  deriving DecidableEq, Repr

/-- The wire value. -/
def RobotMode.toInt : RobotMode → ℤ
  | .unknown => -1
  | .damping => 0
  | .prepare => 1
  | .walking => 2
  | .custom => 3
  | .soccer => 4

/-- The mode a wire value names. -/
def RobotMode.ofInt? : ℤ → Option RobotMode
  | -1 => some .unknown
  | 0 => some .damping
  | 1 => some .prepare
  | 2 => some .walking
  | 3 => some .custom
  | 4 => some .soccer
  | _ => none

@[simp] theorem RobotMode.ofInt?_toInt (mode : RobotMode) : ofInt? mode.toInt = some mode := by
  cases mode <;> rfl

theorem RobotMode.toInt_of_ofInt? {n : ℤ} {mode : RobotMode} (h : ofInt? n = some mode) :
    mode.toInt = n := by
  unfold ofInt? at h
  split at h
  any_goals
    obtain rfl := Option.some.inj h
    rfl
  exact nomatch h

/-- `booster::FallState`. -/
inductive FallState where
  | isReady | isFalling | hasFallen | isGettingUp
  deriving DecidableEq, Repr

/-! ## Messages -/

/-- `ApiId::MOVE`: body-frame velocities. -/
structure WalkCommand (K : Type*) where
  vx : K
  vy : K
  vyaw : K

/-- `ApiId::ROTATE_HEAD`: pitch is positive downwards. -/
structure HeadCommand (K : Type*) where
  pitch : K
  yaw : K

/-- `ApiId::CHANGE_MODE`: a mode as it came off the wire, recognised or not. -/
structure ModeChangeRequest where
  mode : ℤ := 0

/-- `ApiId::GET_UP` and `GET_UP_WITH_MODE`: the mode to enter afterwards. -/
structure GetUpRequest where
  targetMode : ℤ := 4

/-- `ApiId::LIE_DOWN`. -/
structure LieDownRequest where

/-- `ApiId::VISUAL_KICK`. -/
structure VisualKickRequest where
  start : Bool := true
  version : ℤ := 1

/-- One motor of a LowCmd, in serial order. -/
structure MotorCmdData (K : Type*) where
  mode : UInt8
  q : K
  dq : K
  tau : K
  kp : K
  kd : K
  weight : K

/-- `rt/joint_ctrl`: `cmdType` is 0 for PARALLEL and 1 for SERIAL. -/
structure LowCmdMessage (K : Type*) where
  cmdType : ℤ := 1
  motors : List (MotorCmdData K)

/-- What `SdkBridge` emits for `Locomotion`. -/
inductive CommandMessage (K : Type*) where
  | walk (cmd : WalkCommand K)
  | head (cmd : HeadCommand K)
  | modeChange (req : ModeChangeRequest)
  | getUp (req : GetUpRequest)
  | lieDown (req : LieDownRequest)
  | visualKick (req : VisualKickRequest)
  | lowCmd (cmd : LowCmdMessage K)

end K1Sim
