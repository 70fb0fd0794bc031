import K1Sim.Shared.ModelMap
import K1Sim.Supervisor.SupervisorLogic

/-!
# Supervisor/PenaltyTracking — whether a robot stands where its penalty state says

A robot is placed on the edges of its penalty state, and the edge is taken against the previous
packet alone: a packet without the robot's team makes the state before it count as unpenalised.
`placement_agrees_iff` says along which runs of packets the last placement of a robot nevertheless
agrees with what each packet reports.
-/

namespace K1Sim

open Foundations

namespace SupervisorLogic

variable {K : Type*} [Field K] [Libc K] [LinearOrder K]

/-- One robot along a run: its last placement, what the last packet that reported its penalty state
said, and what the last packet said.  The call that makes a placement leaves the robot standing
there (`process_standsAt`). -/
structure Track (K : Type*) [Field K] where
  placed : Option (Pose3 K) := none
  listed : Option Gc.PenaltyState := none
  current : Option Gc.PenaltyState := none

/-- The history variable of the robot `rc`, at the place `i` of the configuration. -/
def Track.note (m : MjModel K) (i : ℕ) (rc : RobotConfig K) (h : Track K)
    (logic : SupervisorLogic K) (call : Call K) : Track K where
  placed := ((logic.process m call.data call.pkt).2.placed.lookup i).or h.placed
  listed := (reported rc call.pkt).or h.listed
  current := reported rc call.pkt

/-- The pose that goes with a penalty state. -/
def poseFor (rc : RobotConfig K) (ps : Gc.PenaltyState) : Pose3 K :=
  if ps = .unpenalised then rc.homePose else rc.penaltyPose

/-- The last placement was to the pose of the penalty state; an unpenalised robot may never have
been placed. -/
def PoseAgrees (rc : RobotConfig K) (ps : Gc.PenaltyState) (placed : Option (Pose3 K)) : Prop :=
  placed = some (poseFor rc ps) ∨ ps = .unpenalised ∧ placed = none

/-- After the packet the last placement of the robot agrees with the penalty state that the packet
reports, if it reports one. -/
def PlacementAgrees (m : MjModel K) (i : ℕ) (rc : RobotConfig K)
    (p : SupervisorLogic K × Track K) (call : Call K) : Prop :=
  ∀ ps, reported rc call.pkt = some ps →
    PoseAgrees rc ps (p.2.note m i rc p.1 call).placed

/-- If the packet reports the robot unpenalised and the packet before it did not report the robot,
then the last that did reported it unpenalised too (or none did), or the two poses are one. -/
def ReturnsUnpenalised (rc : RobotConfig K) (p : SupervisorLogic K × Track K) (call : Call K) :
    Prop :=
  reported rc call.pkt = some .unpenalised → p.2.current = none →
    p.2.listed = none ∨ p.2.listed = some .unpenalised ∨ rc.penaltyPose = rc.homePose

/-- The history is true of the previous packet, and the last placement agrees with the last report:
no report, no placement. -/
structure TrackInv (cfg : SupervisorConfig K) (rc : RobotConfig K)
    (p : SupervisorLogic K × Track K) : Prop where
  cfg : p.1.cfg = cfg
  current : p.2.current = p.1.prev.bind (reported rc)
  listed : ∀ ps, p.2.current = some ps → p.2.listed = some ps
  unplaced : p.2.listed = none → p.2.placed = none
  agrees : ∀ ps, p.2.listed = some ps → PoseAgrees rc ps p.2.placed

variable {m : MjModel K} {rc : RobotConfig K} {bodyId : ℕ}

omit [Libc K] [LinearOrder K] in
/-- A robot that can be placed is, on each edge of its penalty state, to the pose of the new
state. -/
theorem placement?_eq (hbody : m.name2id .body rc.body = some bodyId) (hfree : m.FreeJointed bodyId)
    (prev : Option Gc.GameControllerPacket) (pkt : Gc.GameControllerPacket) :
    placement? m prev pkt rc = (reported rc pkt).bind fun ps =>
      if ps = (prev.bind (reported rc)).getD .unpenalised then none else some (poseFor rc ps) := by
  unfold placement? robotCall poseFor
  rcases reported rc pkt with - | ps
  · rfl
  · rw [hbody]
    by_cases hedge : ps = (prev.bind (reported rc)).getD .unpenalised
    · simp [hedge]
    · rcases eq_or_ne ps .unpenalised with rfl | hps
      · simp [hedge, hfree]
      · simp [hedge, hps, hfree]

namespace TrackInv

variable {cfg : SupervisorConfig K} {i : ℕ} {p : SupervisorLogic K × Track K}

theorem note_placed (hinv : TrackInv cfg rc p) (hrc : cfg.robots[i]? = some rc)
    (hbody : m.name2id .body rc.body = some bodyId) (hfree : m.FreeJointed bodyId)
    (call : Call K) :
    (p.2.note m i rc p.1 call).placed = ((reported rc call.pkt).bind fun ps =>
      if ps = p.2.current.getD .unpenalised then none else some (poseFor rc ps)).or p.2.placed := by
  have hrobot : p.1.cfg.robots[i]? = some rc := by rw [hinv.cfg, hrc]
  rw [Track.note, lookup_placed m call.data call.pkt hrobot, placement?_eq hbody hfree,
    hinv.current]

omit [Libc K] [LinearOrder K] in
/-- The last placement suits an unpenalised robot exactly if the last report was no penalty, or both
poses are one. -/
theorem poseAgrees_unpenalised_iff (hinv : TrackInv cfg rc p) :
    PoseAgrees rc .unpenalised p.2.placed
      ↔ p.2.listed = none ∨ p.2.listed = some .unpenalised ∨ rc.penaltyPose = rc.homePose := by
  rcases hlisted : p.2.listed with - | ps
  · exact iff_of_true (.inr ⟨rfl, hinv.unplaced hlisted⟩) (.inl rfl)
  have hagrees := hinv.agrees ps hlisted
  rcases eq_or_ne ps .unpenalised with rfl | hps
  · exact iff_of_true hagrees (.inr (.inl rfl))
  · have hplaced : p.2.placed = some rc.penaltyPose := by
      simpa [PoseAgrees, poseFor, hps] using hagrees
    simp [PoseAgrees, poseFor, hplaced, hps]

theorem placementAgrees_iff (hinv : TrackInv cfg rc p) (hrc : cfg.robots[i]? = some rc)
    (hbody : m.name2id .body rc.body = some bodyId) (hfree : m.FreeJointed bodyId)
    (call : Call K) : PlacementAgrees m i rc p call ↔ ReturnsUnpenalised rc p call := by
  rw [PlacementAgrees, ReturnsUnpenalised, hinv.note_placed hrc hbody hfree call]
  rcases reported rc call.pkt with - | ps
  · simp
  simp only [Option.bind_some, Option.some.injEq, forall_eq']
  by_cases hedge : ps = p.2.current.getD .unpenalised
  · rw [if_pos hedge, Option.none_or]
    rcases hcurrent : p.2.current with - | old
    · -- not reported in the packet before: taken for unpenalised
      rw [hcurrent, Option.getD_none] at hedge
      subst hedge
      rw [hinv.poseAgrees_unpenalised_iff]
      simp
    · rw [hcurrent, Option.getD_some] at hedge
      subst hedge
      exact iff_of_true (hinv.agrees ps (hinv.listed ps hcurrent)) nofun
  · rw [if_neg hedge, Option.some_or]
    refine iff_of_true (.inl rfl) fun hps hcurrent => absurd ?_ hedge
    rw [hcurrent, hps, Option.getD_none]

theorem next (hinv : TrackInv cfg rc p) (hrc : cfg.robots[i]? = some rc)
    (hbody : m.name2id .body rc.body = some bodyId) (hfree : m.FreeJointed bodyId)
    {call : Call K} (hagrees : PlacementAgrees m i rc p call) :
    TrackInv cfg rc (((machine m).withHistory (Track.note m i rc)).next p call) := by
  obtain ⟨logic, h⟩ := p
  have hplaced := hinv.note_placed hrc hbody hfree call
  refine ⟨hinv.cfg, rfl, fun ps hps => ?_, fun hlisted => ?_, fun ps hlisted => ?_⟩
  · exact congrArg (Option.or · h.listed) hps
  · obtain ⟨hreported, hbefore⟩ := Option.or_eq_none_iff.mp hlisted
    rw [hreported, Option.bind_none, Option.none_or] at hplaced
    exact hplaced.trans (hinv.unplaced hbefore)
  · change PoseAgrees rc ps (h.note m i rc logic call).placed
    rcases hreported : reported rc call.pkt with - | now
    · rw [hreported, Option.bind_none, Option.none_or] at hplaced
      have hbefore : h.listed = some ps := by
        simpa [Machine.withHistory, Track.note, hreported] using hlisted
      rw [hplaced]
      exact hinv.agrees ps hbefore
    · have hnow : now = ps := by
        simpa [Machine.withHistory, Track.note, hreported] using hlisted
      exact hagrees ps (hreported.trans (congrArg some hnow))

end TrackInv

/-- **A robot stands where its penalty state says exactly along the runs without a stale return**: a
packet that reports it unpenalised again, after packets without its team that follow one that
reported a penalty. -/
theorem placement_agrees_iff (m : MjModel K) (cfg : SupervisorConfig K) {i : ℕ}
    {rc : RobotConfig K} (hrc : cfg.robots[i]? = some rc) {bodyId : ℕ}
    (hbody : m.name2id .body rc.body = some bodyId) (hfree : m.FreeJointed bodyId)
    (calls : List (Call K)) :
    ((machine m).withHistory (Track.note m i rc)).Always (PlacementAgrees m i rc)
        ({ cfg := cfg }, {}) calls
      ↔ ((machine m).withHistory (Track.note m i rc)).Always (ReturnsUnpenalised rc)
        ({ cfg := cfg }, {}) calls := by
  have hstart : TrackInv cfg rc (({ cfg := cfg }, {}) : SupervisorLogic K × Track K) :=
    ⟨rfl, rfl, nofun, fun _ => rfl, nofun⟩
  exact Machine.always_iff_always _
    (fun _ call (hinv : TrackInv cfg rc _) => hinv.placementAgrees_iff hrc hbody hfree call)
    (fun _ _ hinv hagrees => hinv.next hrc hbody hfree hagrees) calls _ hstart

/-! ## A robot sent off and back -/

/-- A packet in which the first player of the first team is in this penalty state. -/
def packetOf (teamId : UInt8) (ps : Gc.PenaltyState) : Gc.GameControllerPacket :=
  let player (ps : Gc.PenaltyState) : Gc.Robot := ⟨ps, 0, 0⟩
  let team (teamId : UInt8) (ps : Gc.PenaltyState) : Gc.Team :=
    { teamId := teamId
      fieldPlayerColour := 0
      goalkeeperColour := 1
      goalkeeper := 0
      score := 0
      penaltyShot := 0
      singleShots := 0
      messageBudget := 1200
      players := fun n => player (if n = 0 then ps else .unpenalised) }
  { header := ![0x52, 0x47, 0x6D, 0x65]
    version := 20
    packetNumber := 0
    playersPerTeam := 4
    competitionType := 0
    stopped := 0
    gamePhase := 0
    state := .set
    setPlay := 0
    firstHalf := true
    kickingTeam := teamId
    secsRemaining := 600
    secondaryTime := 0
    teams := ![team teamId ps, team 2 .unpenalised] }

/-- The K1 in team 7, from its own half to the side line. -/
def robotOfTeam7 : RobotConfig ℚ where
  body := "Trunk"
  teamId := 7
  homePose := { x := -2, z := 1 / 2 }
  penaltyPose := { x := 2, y := 7 / 2, z := 1 / 2 }

/-- Penalised and back, in two packets on end: the last placement agrees throughout. -/
theorem placement_agrees_onEnd :
    ((machine (k1Scene 1)).withHistory (Track.note (k1Scene 1) 0 robotOfTeam7)).Always
      (PlacementAgrees (k1Scene 1) 0 robotOfTeam7)
      ({ cfg := { robots := [robotOfTeam7] } }, {})
      [⟨k1Upright, packetOf 7 .pickUp⟩, ⟨k1Upright, packetOf 7 .unpenalised⟩] := by
  refine (placement_agrees_iff (k1Scene 1) _ rfl rfl (by decide) _).mpr ⟨?_, ?_, trivial⟩
  · exact fun hps => absurd hps (by decide)
  · exact fun _ hcurrent => absurd hcurrent (by decide)

/-- Penalised, then a packet of another match, then back in play: the robot is left at the side
line. -/
theorem placement_not_agrees :
    ¬ ((machine (k1Scene 1)).withHistory (Track.note (k1Scene 1) 0 robotOfTeam7)).Always
      (PlacementAgrees (k1Scene 1) 0 robotOfTeam7)
      ({ cfg := { robots := [robotOfTeam7] } }, {})
      [⟨k1Upright, packetOf 7 .pickUp⟩, ⟨k1Upright, packetOf 1 .unpenalised⟩,
        ⟨k1Upright, packetOf 7 .unpenalised⟩] := by
  rintro ⟨-, -, hback, -⟩
  rcases hback .unpenalised rfl with hhome | ⟨-, hnever⟩
  · exact absurd hhome (by decide +kernel)
  · exact absurd hnever (by decide +kernel)

end SupervisorLogic

end K1Sim
