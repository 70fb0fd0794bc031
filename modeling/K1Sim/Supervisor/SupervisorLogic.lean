import K1Sim.Foundations.Indexed
import K1Sim.Foundations.Machine
import K1Sim.Supervisor.GameControllerPacket
import K1Sim.Supervisor.SupervisorPlacement
import Mathlib.Order.Defs.LinearOrder

/-!
# Supervisor/SupervisorLogic — what a packet moves

`process` compares a packet with the one before it and places the ball and the robots accordingly.
Beside the data and the actions it reports, the model keeps which robots a call placed, and where:
`lookup_placed` reads that off the two packets.
-/

namespace K1Sim

open Foundations

/-! ## The configuration -/

/-- `BallConfig`: a negative `z` rests the ball on the floor. -/
structure BallConfig (K : Type*) [Field K] where
  enabled : Bool := true
  body : String := "ball"
  geom : String := "ball"
  x : K := 0
  y : K := 0
  z : K := -1

/-- `RobotConfig`: the team is found by `teamId`, or by `teamIndex` when that is negative. -/
structure RobotConfig (K : Type*) [Field K] where
  body : String
  teamId : ℤ := -1
  teamIndex : ℤ := 0
  playerId : ℤ := 1
  homePose : Pose3 K := {}
  penaltyPose : Pose3 K := {}

/-- `SupervisorConfig`, as far as the logic reads it. -/
structure SupervisorConfig (K : Type*) [Field K] where
  resetBallOnFinished : Bool := true
  resetBallOnGoal : Bool := true
  resetBallOnHalfChange : Bool := true
  ball : BallConfig K := {}
  robots : List (RobotConfig K) := []

/-- The robot has a place in the packets. -/
def RobotConfig.listed {K : Type*} [Field K] (rc : RobotConfig K) : Bool :=
  (0 ≤ rc.teamId || rc.teamIndex = 0 || rc.teamIndex = 1)
    && 1 ≤ rc.playerId && rc.playerId ≤ Gc.maxNumPlayers

/-- There is something to place: the ball, or a robot. -/
def SupervisorConfig.manages {K : Type*} [Field K] (cfg : SupervisorConfig K) : Bool :=
  cfg.ball.enabled || cfg.robots.any RobotConfig.listed

/-! ## The logic -/

/-- `Action::Level`. -/
inductive ActionLevel where
  | info | warn
  deriving DecidableEq, Repr

/-- `Action`. -/
structure Action where
  level : ActionLevel := .info
  message : String

/-- `SupervisorLogic`. -/
structure SupervisorLogic (K : Type*) [Field K] where
  cfg : SupervisorConfig K
  prev : Option Gc.GameControllerPacket := none
  warned : List String := []

/-- What `process` works on: the data, the warnings already given, the actions so far, and the
robots placed so far by their place in the configuration. -/
structure ProcState (K : Type*) [Field K] where
  data : MjData K
  warned : List String
  actions : List Action := []
  placed : List (ℕ × Pose3 K) := []

namespace ProcState

variable {K : Type*} [Field K]

/-- `actions.push_back`. -/
def push (s : ProcState K) (level : ActionLevel) (message : String) : ProcState K :=
  { s with actions := s.actions ++ [{ level := level, message := message }] }

/-- `warn_once`. -/
def warnOnce (s : ProcState K) (message : String) : ProcState K :=
  if message ∈ s.warned then s
  else { s with warned := message :: s.warned }.push .warn message

@[simp] theorem push_placed (s : ProcState K) (level : ActionLevel) (message : String) :
    (s.push level message).placed = s.placed := rfl

@[simp] theorem warnOnce_placed (s : ProcState K) (message : String) :
    (s.warnOnce message).placed = s.placed := by
  rw [warnOnce]
  split_ifs <;> rfl

theorem foldl_push_info (messages : List String) (s : ProcState K) :
    messages.foldl (fun s message => s.push .info message) s
      = { s with actions := s.actions ++ messages.map fun message => ⟨.info, message⟩ } := by
  induction messages generalizing s with
  | nil => rw [List.foldl_nil, List.map_nil, List.append_nil]
  | cons message messages ih =>
    rw [List.foldl_cons, ih, List.map_cons, List.append_cons]
    rfl

end ProcState

namespace SupervisorLogic

variable {K : Type*} [Field K]

/-- `score_increased`. -/
def scoreIncreased (oldPkt newPkt : Gc.GameControllerPacket) : Bool :=
  (List.finRange 2).any fun i => (oldPkt.teams i).score < (newPkt.teams i).score

/-- `resolve_team`: the first entry of the identifier, or the entry of the index. -/
def resolveTeam (pkt : Gc.GameControllerPacket) (rc : RobotConfig K) : Option Gc.Team :=
  if 0 ≤ rc.teamId then
    ((List.finRange 2).map pkt.teams).find? fun t => t.teamId == UInt8.ofNat rc.teamId.toNat
  else if rc.teamIndex = 0 then some (pkt.teams 0)
  else if rc.teamIndex = 1 then some (pkt.teams 1)
  else none

/-- The penalty state a packet reports for a robot: none when its team does not resolve or its
player is out of range. -/
def reported (rc : RobotConfig K) (pkt : Gc.GameControllerPacket) : Option Gc.PenaltyState :=
  match resolveTeam pkt rc with
  | none => none
  | some team =>
    if h : 1 ≤ rc.playerId ∧ rc.playerId ≤ Gc.maxNumPlayers then
      some (team.players ⟨(rc.playerId - 1).toNat, by omega⟩).penaltyState
    else none

theorem reported_of_not_listed {rc : RobotConfig K} (hrc : rc.listed = false)
    (pkt : Gc.GameControllerPacket) : reported rc pkt = none := by
  simp only [RobotConfig.listed, Bool.and_eq_false_iff, Bool.or_eq_false_iff,
    decide_eq_false_iff_not] at hrc
  rw [reported, resolveTeam]
  rcases hrc with (⟨⟨hid, hzero⟩, hone⟩ | hlow) | hhigh
  · simp only [hid, hzero, hone, if_false]
  · split
    · rfl
    · exact dif_neg fun h => hlow h.1
  · split
    · rfl
    · exact dif_neg fun h => hhigh h.2

/-- What `apply_robot` comes to: nothing, a warning about a missing body, or a placement with the
message that reports it. -/
inductive RobotCall (K : Type*) [Field K] where
  | nothing
  | missing
  | place (bodyId : ℕ) (pose : Pose3 K) (message : String)

/-- The decision of `apply_robot`, on the edge between the two packets. -/
def robotCall (m : MjModel K) (prev : Option Gc.GameControllerPacket) (rc : RobotConfig K)
    (pkt : Gc.GameControllerPacket) : RobotCall K :=
  match reported rc pkt with
  | none => .nothing
  | some newPs =>
    -- a team missing from the previous packet counts as unpenalised
    let oldPs := (prev.bind (reported rc)).getD .unpenalised
    if newPs = oldPs then .nothing
    else
      match m.name2id .body rc.body with
      | none => .missing
      | some bodyId =>
        if newPs ≠ .unpenalised then
          .place bodyId rc.penaltyPose (rc.body ++ " penalised (" ++ newPs.name ++ ") -> side line")
        else .place bodyId rc.homePose (rc.body ++ " unpenalised -> own half")

variable [Libc K]

/-- `apply_robot`, for the entry at a place of the configuration.  The message is pushed whether or
not the body could be placed. -/
def applyRobot (m : MjModel K) (prev : Option Gc.GameControllerPacket)
    (pkt : Gc.GameControllerPacket) (s : ProcState K) (entry : RobotConfig K × ℕ) : ProcState K :=
  match robotCall m prev entry.1 pkt with
  | .nothing => s
  | .missing => s.warnOnce ("robot body '" ++ entry.1.body ++ "' not in model")
  | .place bodyId pose message =>
    let s := s.push .info message
    match placeFreeBody m s.data bodyId pose.x pose.y pose.z pose.yaw with
    | none => s
    | some data => { s with data := data, placed := s.placed ++ [(entry.2, pose)] }

variable [LinearOrder K]

omit [LinearOrder K] in
/-- The report of a ball placement, in a buffer of 127 characters. -/
def ballMessage (ball : BallConfig K) (z : K) : String :=
  let text := "ball -> centre (" ++ Libc.fixed3 ball.x ++ ", " ++ Libc.fixed3 ball.y ++ ", "
    ++ Libc.fixed3 z ++ ")"
  String.ofList (text.toList.take 127)

/-- `place_ball`. -/
def placeBall (m : MjModel K) (ball : BallConfig K) (s : ProcState K) : ProcState K :=
  match m.name2id .body ball.body, m.name2id .geom ball.geom with
  | some bodyId, some geomId =>
    let z := if ball.z < 0 then m.geomSize (3 * geomId) else ball.z
    match placeFreeBodyByGeomCenter m s.data bodyId geomId ball.x ball.y z with
    | some data => { s with data := data }.push .info (ballMessage ball z)
    | none =>
      s.warnOnce ("ball placement failed (body '" ++ ball.body ++ "' not free-jointed?)")
  | _, _ =>
    s.warnOnce ("ball body '" ++ ball.body ++ "' or geom '" ++ ball.geom ++ "' not in model")

/-- A goal that the configuration resets the ball on. -/
def goalDetected (logic : SupervisorLogic K) (pkt : Gc.GameControllerPacket) : Bool :=
  match logic.prev with
  | none => false
  | some prev => logic.cfg.resetBallOnGoal && scoreIncreased prev pkt

/-- A change of half that the configuration resets the ball on. -/
def halfChanged (logic : SupervisorLogic K) (pkt : Gc.GameControllerPacket) : Bool :=
  match logic.prev with
  | none => false
  | some prev => logic.cfg.resetBallOnHalfChange && prev.firstHalf != pkt.firstHalf

/-- Whether the packet sends the ball to the centre. -/
def centerBall (logic : SupervisorLogic K) (pkt : Gc.GameControllerPacket) : Bool :=
  let oldState := (logic.prev.map Gc.GameControllerPacket.state).getD .unknown
  let stateChanged := pkt.state != oldState
  (stateChanged && (pkt.state == .ready || pkt.state == .playing))
    || (logic.cfg.resetBallOnFinished && stateChanged && pkt.state == .finished)
    || logic.goalDetected pkt || logic.halfChanged pkt

/-- The messages about the game, before anything is placed. -/
def gameMessages (logic : SupervisorLogic K) (pkt : Gc.GameControllerPacket) : List String :=
  let oldState := (logic.prev.map Gc.GameControllerPacket.state).getD .unknown
  (if pkt.state ≠ oldState then ["state -> " ++ pkt.state.name] else [])
    ++ (if logic.prev.map Gc.GameControllerPacket.kickingTeam ≠ some pkt.kickingTeam then
        ["kickoff team id -> " ++ toString pkt.kickingTeam.toNat] else [])
    ++ (if logic.goalDetected pkt then ["goal detected"] else [])
    ++ (if logic.halfChanged pkt then ["half changed"] else [])

/-- `process`: the logic afterwards, and what the call did. -/
def process (m : MjModel K) (logic : SupervisorLogic K) (d : MjData K)
    (pkt : Gc.GameControllerPacket) : SupervisorLogic K × ProcState K :=
  let s : ProcState K := { data := d, warned := logic.warned }
  let s := (logic.gameMessages pkt).foldl (fun s message => s.push .info message) s
  let s :=
    if logic.centerBall pkt && logic.cfg.ball.enabled then placeBall m logic.cfg.ball s else s
  let s := logic.cfg.robots.zipIdx.foldl (applyRobot m logic.prev pkt) s
  ({ logic with prev := some pkt, warned := s.warned }, s)

/-- **With nothing to place, a packet touches neither the model nor the data.** -/
theorem process_unmanaged {logic : SupervisorLogic K} (hidle : logic.cfg.manages = false)
    (m m' : MjModel K) (d : MjData K) (pkt : Gc.GameControllerPacket) :
    logic.process m d pkt = logic.process m' d pkt ∧ (logic.process m d pkt).2.data = d := by
  simp only [SupervisorConfig.manages, Bool.or_eq_false_iff, List.any_eq_false,
    Bool.not_eq_true] at hidle
  obtain ⟨hball, hrobots⟩ := hidle
  have hfold (m : MjModel K) (s : ProcState K) :
      logic.cfg.robots.zipIdx.foldl (applyRobot m logic.prev pkt) s = s := by
    rw [List.foldl_ext _ (fun s _ => s) s fun s entry hentry => ?_, List.foldl_fixed]
    have hrc := hrobots entry.1 (List.fst_mem_of_mem_zipIdx hentry)
    rw [applyRobot, robotCall, reported_of_not_listed hrc]
  simp only [process, hball, Bool.and_false, Bool.false_eq_true, if_false, hfold,
    ProcState.foldl_push_info, and_self]

/-! ## The placements of a call -/

omit [LinearOrder K] [Libc K] in
/-- The placement that a call makes of a robot: the one it decides on, of a body that can be
placed. -/
def placement? (m : MjModel K) (prev : Option Gc.GameControllerPacket)
    (pkt : Gc.GameControllerPacket) (rc : RobotConfig K) : Option (Pose3 K) :=
  match robotCall m prev rc pkt with
  | .place bodyId pose _ => if m.FreeJointed bodyId then some pose else none
  | _ => none

omit [LinearOrder K] in
theorem applyRobot_placed (m : MjModel K) (prev : Option Gc.GameControllerPacket)
    (pkt : Gc.GameControllerPacket) (s : ProcState K) (entry : RobotConfig K × ℕ) :
    (applyRobot m prev pkt s entry).placed
      = s.placed ++ ((placement? m prev pkt entry.1).map (entry.2, ·)).toList := by
  rw [applyRobot, placement?]
  rcases robotCall m prev entry.1 pkt with - | - | ⟨bodyId, pose, message⟩
  · simp
  · simp
  have hplaced := placeFreeBody_isSome_iff m (s.push .info message).data bodyId pose.x pose.y pose.z
    pose.yaw
  rcases hresult : placeFreeBody m (s.push .info message).data bodyId pose.x pose.y pose.z pose.yaw
    with - | data
  · have hrefused : ¬ m.FreeJointed bodyId := by simpa [hresult] using hplaced
    simp [hresult, hrefused]
  · have hfree : m.FreeJointed bodyId := by simpa [hresult] using hplaced
    simp [hresult, hfree]

omit [LinearOrder K] in
theorem foldl_applyRobot_placed (m : MjModel K) (prev : Option Gc.GameControllerPacket)
    (pkt : Gc.GameControllerPacket) (entries : List (RobotConfig K × ℕ)) (s : ProcState K) :
    (entries.foldl (applyRobot m prev pkt) s).placed
      = s.placed ++ entries.filterMap fun e => (placement? m prev pkt e.1).map (e.2, ·) := by
  induction entries generalizing s with
  | nil => simp
  | cons e es ih =>
    rw [List.foldl_cons, ih, applyRobot_placed]
    rcases hplaced : placement? m prev pkt e.1 with - | pose <;> simp [hplaced]

theorem placeBall_placed (m : MjModel K) (ball : BallConfig K) (s : ProcState K) :
    (placeBall m ball s).placed = s.placed := by
  rw [placeBall]
  split
  · dsimp only
    split
    · rfl
    · exact s.warnOnce_placed _
  · exact s.warnOnce_placed _

/-- **The placements of a call**: each entry of the configuration at most once, in order. -/
theorem process_placed (m : MjModel K) (logic : SupervisorLogic K) (d : MjData K)
    (pkt : Gc.GameControllerPacket) :
    (logic.process m d pkt).2.placed
      = taggedFrom (placement? m logic.prev pkt) logic.cfg.robots 0 := by
  have hball (s : ProcState K) :
      (if logic.centerBall pkt && logic.cfg.ball.enabled then placeBall m logic.cfg.ball s
        else s).placed = s.placed := by
    split_ifs
    · exact placeBall_placed m logic.cfg.ball s
    · rfl
  rw [process]
  dsimp only
  rw [foldl_applyRobot_placed, hball, ProcState.foldl_push_info]
  rfl

/-- **What a call does to one robot** is decided by the two packets. -/
theorem lookup_placed (m : MjModel K) {logic : SupervisorLogic K} (d : MjData K)
    (pkt : Gc.GameControllerPacket) {i : ℕ} {rc : RobotConfig K}
    (hrc : logic.cfg.robots[i]? = some rc) :
    (logic.process m d pkt).2.placed.lookup i = placement? m logic.prev pkt rc := by
  have h := lookup_taggedFrom (placement? m logic.prev pkt) logic.cfg.robots 0 i
  rw [zero_add, hrc] at h
  rw [process_placed]
  exact h

/-- A call of `process`: the data as the simulation has left it, and the packet. -/
structure Call (K : Type*) where
  data : MjData K
  pkt : Gc.GameControllerPacket

/-- The logic, fed packets. -/
def machine (m : MjModel K) : Machine (SupervisorLogic K) (Call K) (ProcState K) where
  next logic call := (logic.process m call.data call.pkt).1
  out logic call := some (logic.process m call.data call.pkt).2

end SupervisorLogic

end K1Sim
