import Mathlib.Data.Fin.Basic
import Mathlib.Data.UInt

/-!
# Supervisor/GameControllerPacket — what the GameController broadcasts

The receive side of the wire format, field by field.  An enumeration of the protocol is a byte: any
value may arrive, and those that mean something have names.
-/

namespace K1Sim

namespace Gc

/-- `MAX_NUM_PLAYERS`. -/
abbrev maxNumPlayers : ℕ := 20

/-- `State`. -/
structure State where
  val : UInt8
  deriving DecidableEq

namespace State

def initial : State := ⟨0⟩
def ready : State := ⟨1⟩
def set : State := ⟨2⟩
def playing : State := ⟨3⟩
def finished : State := ⟨4⟩

/-- `UNKNOWN_STATE`: the state before the first packet. -/
def unknown : State := ⟨0xFF⟩

/-- `state_name`. -/
def name (s : State) : String :=
  if s = initial then "INITIAL"
  else if s = ready then "READY"
  else if s = set then "SET"
  else if s = playing then "PLAYING"
  else if s = finished then "FINISHED"
  else "UNKNOWN"

end State

/-- `PenaltyState`: every value but one keeps the player out of play. -/
structure PenaltyState where
  val : UInt8
  deriving DecidableEq

namespace PenaltyState

def unpenalised : PenaltyState := ⟨0⟩
def pickUp : PenaltyState := ⟨6⟩

/-- The names of the values from `0` on. -/
def names : List String :=
  ["UNPENALISED", "ILLEGAL_POSITIONING", "MOTION_IN_SET", "MOTION_IN_STOP", "LOCAL_GAME_STUCK",
    "INCAPABLE_ROBOT", "PICK_UP", "BALL_HOLDING", "LEAVING_THE_FIELD", "PLAYING_WITH_ARMS_HANDS",
    "PLAYER_PUSHING", "CAUTIONED", "SENT_OFF", "SUBSTITUTE"]

/-- `penalty_state_name`. -/
def name (p : PenaltyState) : String := names.getD p.val.toNat "UNKNOWN"

end PenaltyState

/-- `Robot`. -/
structure Robot where
  penaltyState : PenaltyState
  penalisedTimeLeft : UInt8
  cautions : UInt8

/-- `Team`. -/
structure Team where
  teamId : UInt8
  fieldPlayerColour : UInt8
  goalkeeperColour : UInt8
  goalkeeper : UInt8
  score : UInt8
  penaltyShot : UInt8
  singleShots : UInt16
  messageBudget : UInt16
  players : Fin maxNumPlayers → Robot

/-- `GameControllerPacket`. -/
structure GameControllerPacket where
  header : Fin 4 → UInt8
  version : UInt8
  packetNumber : UInt8
  playersPerTeam : UInt8
  competitionType : UInt8
  stopped : UInt8
  gamePhase : UInt8
  state : State
  setPlay : UInt8
  firstHalf : Bool
  kickingTeam : UInt8
  secsRemaining : Int16
  secondaryTime : Int16
  teams : Fin 2 → Team

end Gc

end K1Sim
