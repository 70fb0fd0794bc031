import K1Sim.Shared.ModelMap
import K1Sim.Supervisor.PenaltyTracking

/-!
# Supervisor/Reports — whether a call says what it did

Each call of `process` comes to a list of deeds, one for the ball and one for each configured robot:
what was written to the data and what was reported (`process_eq_perform`).  `reportsTruly_iff` says
along which runs of packets every deed is reported as it was done: as a placement exactly if the
free joint of the body was written.
-/

namespace K1Sim

open Foundations

/-- What a call reports about one body. -/
inductive Report where
  | silent
  | info (message : String)
  | warn (message : String)

/-- The report is of a placement. -/
def Report.IsInfo (report : Report) : Prop := ∃ message, report = .info message

/-- What a call does about one body of the configuration: where the body is to go, whether the
placement is due, whether the body can be placed, the data before, the data after the placement
(none if nothing was written), and the report. -/
structure Deed (K : Type*) [Field K] where
  body : String
  pose : Pose3 K := {}
  due : Bool
  placeable : Bool
  before : MjData K
  written : Option (MjData K)
  report : Report

/-- Each deed finds the data as the one before left them. -/
def Chained {K : Type*} [Field K] : MjData K → List (Deed K) → Prop
  | _, [] => True
  | d, deed :: deeds => deed.before = d ∧ Chained (deed.written.getD d) deeds

/-- The message of a warning. -/
def Action.warning? (action : Action) : Option String :=
  match action.level with
  | .info => none
  | .warn => some action.message

/-- The message names the body. -/
def Names (message body : String) : Prop :=
  ∃ before after, message = before ++ body ++ after

section Deeds

variable {K : Type*} [Field K] [Libc K]

/-- **A deed is reported as it was done**: as a placement exactly if data were written, which are
the pose and the rest of the body's free joint and nothing else; and if it was due but could not be
done, by one warning so far that names the body. -/
structure Deed.Truthful (m : MjModel K) (deed : Deed K) (warnings : List String) : Prop where
  info_iff : deed.report.IsInfo ↔ deed.written.isSome = true
  wrote : ∀ d', deed.written = some d' → ∃ bodyId, m.name2id .body deed.body = some bodyId
    ∧ m.Wrote bodyId deed.pose deed.before d'
  refused : deed.due = true → deed.placeable = false →
    deed.written = none ∧ ¬ deed.report.IsInfo
      ∧ ∃ message, Names message deed.body ∧ warnings.count message = 1

/-- What a deed has to say, whatever was said before: it reports the placement when there was one,
and warns of a body that should have been placed and cannot be. -/
inductive Deed.Sound (m : MjModel K) (deed : Deed K) : Prop
  | idle (hdue : deed.due = false) (hwritten : deed.written = none)
    (hsilent : deed.report = .silent)
  | done (message : String) (bodyId : ℕ) (d' : MjData K) (hplaceable : deed.placeable = true)
    (hbody : m.name2id .body deed.body = some bodyId) (hwritten : deed.written = some d')
    (hwrote : m.Wrote bodyId deed.pose deed.before d') (hinfo : deed.report = .info message)
  | refused (message : String) (hplaceable : deed.placeable = false)
      (hwritten : deed.written = none) (hnames : Names message deed.body)
      (hwarn : deed.report = .warn message)

/-- A sound deed is reported as it was done, its warning being on record once. -/
theorem Deed.Sound.truthful {m : MjModel K} {deed : Deed K} {warnings : List String}
    (h : deed.Sound m) (honce : ∀ message, deed.report = .warn message →
      warnings.count message = 1) : deed.Truthful m warnings := by
  cases h with
  | idle hdue hwritten hsilent =>
    refine ⟨iff_of_false ?_ (by simp [hwritten]), fun d' hd' => ?_, fun hdue' => ?_⟩
    · rintro ⟨message, hinfo⟩
      exact absurd (hsilent.symm.trans hinfo) nofun
    · exact absurd (hwritten.symm.trans hd').symm (Option.some_ne_none d')
    · exact absurd (hdue.symm.trans hdue') Bool.false_ne_true
  | done message bodyId data hplaceable hbody hwritten hwrote hinfo =>
    refine ⟨iff_of_true ⟨message, hinfo⟩ (Option.isSome_of_eq_some hwritten), fun d' hd' => ?_,
      fun _ hplaceable' => ?_⟩
    · obtain rfl := Option.some.inj (hwritten.symm.trans hd')
      exact ⟨bodyId, hbody, hwrote⟩
    · exact absurd (hplaceable'.symm.trans hplaceable) Bool.false_ne_true
  | refused message hplaceable hwritten hnames hwarn =>
    have hnoInfo : ¬ deed.report.IsInfo := by
      rintro ⟨other, hinfo⟩
      exact absurd (hwarn.symm.trans hinfo) nofun
    refine ⟨iff_of_false hnoInfo (by simp [hwritten]), fun d' hd' => ?_, fun _ _ => ?_⟩
    · exact absurd (hwritten.symm.trans hd').symm (Option.some_ne_none d')
    · exact ⟨hwritten, hnoInfo, message, hnames, honce message hwarn⟩

end Deeds

namespace ProcState

variable {K : Type*} [Field K]

/-- The actions of a report. -/
def report (s : ProcState K) : Report → ProcState K
  | .silent => s
  | .info message => s.push .info message
  | .warn message => s.warnOnce message

/-- What a deed leaves of the data, the actions and the warnings. -/
def perform (s : ProcState K) (deed : Deed K) : ProcState K :=
  { s with data := deed.written.getD s.data }.report deed.report

@[simp] theorem warnOnce_data (s : ProcState K) (message : String) :
    (s.warnOnce message).data = s.data := by
  rw [warnOnce]
  split_ifs <;> rfl

theorem perform_data (s : ProcState K) (deed : Deed K) :
    (s.perform deed).data = deed.written.getD s.data := by
  rcases deed with ⟨body, pose, due, placeable, before, written, - | message | message⟩
  · rfl
  · rfl
  · exact warnOnce_data _ message

/-- Without the placements that the model keeps beside the actions. -/
def forget (s : ProcState K) : ProcState K := { s with placed := [] }

theorem forget_warnOnce (s : ProcState K) (message : String) :
    (s.warnOnce message).forget = s.forget.warnOnce message := by
  rw [warnOnce, warnOnce]
  split_ifs with h h' h'
  · rfl
  · exact absurd h h'
  · exact absurd h' h
  · rfl

theorem forget_perform (s : ProcState K) (deed : Deed K) :
    (s.perform deed).forget = s.forget.perform deed := by
  rcases deed with ⟨body, pose, due, placeable, before, written, - | message | message⟩
  · rfl
  · rfl
  · exact forget_warnOnce _ message

theorem forget_foldl_perform (s : ProcState K) (deeds : List (Deed K)) :
    (deeds.foldl perform s).forget = deeds.foldl perform s.forget := by
  induction deeds generalizing s with
  | nil => rfl
  | cons deed deeds ih =>
    exact (ih (s.perform deed)).trans (by rw [forget_perform, List.foldl_cons])

theorem foldl_perform_data (s : ProcState K) (deeds : List (Deed K)) :
    (deeds.foldl perform s).data = deeds.foldl (fun d deed => deed.written.getD d) s.data := by
  induction deeds generalizing s with
  | nil => rfl
  | cons deed deeds ih => rw [List.foldl_cons, ih, perform_data, List.foldl_cons]

/-! ## The ledger of warnings -/

/-- The warnings so far, in earlier calls and in this one, are those on record, each once. -/
structure Ledger (before : List String) (s : ProcState K) : Prop where
  nodup : (before ++ s.actions.filterMap Action.warning?).Nodup
  mem_iff : ∀ message,
    message ∈ before ++ s.actions.filterMap Action.warning? ↔ message ∈ s.warned

variable {before : List String} {s : ProcState K}

theorem Ledger.push_info (h : Ledger before s) (message : String) :
    Ledger before (s.push .info message) := by
  have hsame : (s.push .info message).actions.filterMap Action.warning?
      = s.actions.filterMap Action.warning? := by
    rw [push, List.filterMap_append]
    exact List.append_nil _
  exact ⟨by rw [hsame]; exact h.nodup, by rw [hsame]; exact h.mem_iff⟩

theorem Ledger.warnOnce (h : Ledger before s) (message : String) :
    Ledger before (s.warnOnce message) := by
  rw [ProcState.warnOnce]
  split_ifs with hold
  · exact h
  have hmore : ({ s with warned := message :: s.warned }.push .warn message).actions.filterMap
      Action.warning? = s.actions.filterMap Action.warning? ++ [message] := by
    rw [push, List.filterMap_append]
    rfl
  refine ⟨?_, fun other => ?_⟩
  · rw [hmore, ← List.append_assoc]
    exact h.nodup.append (List.nodup_singleton message)
      (List.disjoint_singleton.mpr fun hin => hold ((h.mem_iff message).mp hin))
  · rw [hmore, ← List.append_assoc, List.mem_append, h.mem_iff other, List.mem_singleton, or_comm]
    exact List.mem_cons.symm

theorem Ledger.perform (h : Ledger before s) (deed : Deed K) : Ledger before (s.perform deed) := by
  have hdata : Ledger before { s with data := deed.written.getD s.data } := ⟨h.nodup, h.mem_iff⟩
  rw [ProcState.perform]
  rcases deed.report with - | message | message
  case silent => exact hdata
  case info => exact hdata.push_info message
  case warn => exact hdata.warnOnce message

theorem Ledger.foldl_perform (deeds : List (Deed K)) {s : ProcState K} (h : Ledger before s) :
    Ledger before (deeds.foldl ProcState.perform s) := by
  induction deeds generalizing s with
  | nil => exact h
  | cons deed deeds ih => exact ih (h.perform deed)

theorem mem_warned_warnOnce {message : String} (s : ProcState K) (other : String)
    (h : message ∈ s.warned ∨ message = other) : message ∈ (s.warnOnce other).warned := by
  rw [ProcState.warnOnce]
  split_ifs with hold
  · exact h.elim id fun heq => heq ▸ hold
  · exact List.mem_cons.mpr h.symm

theorem mem_warned_perform {message : String} (s : ProcState K) (deed : Deed K)
    (h : message ∈ s.warned ∨ deed.report = .warn message) :
    message ∈ (s.perform deed).warned := by
  rcases deed with ⟨body, pose, due, placeable, before, written, - | text | text⟩
  · exact h.elim id nofun
  · exact h.elim id nofun
  · exact mem_warned_warnOnce _ text (h.imp_right fun heq => (Report.warn.inj heq).symm)

/-- A warning that a deed reports is on record after the deeds. -/
theorem mem_warned_foldl {message : String} (deeds : List (Deed K)) (s : ProcState K)
    (h : message ∈ s.warned ∨ ∃ deed ∈ deeds, deed.report = .warn message) :
    message ∈ (deeds.foldl ProcState.perform s).warned := by
  induction deeds generalizing s with
  | nil => exact h.elim id fun ⟨_, hin, _⟩ => absurd hin List.not_mem_nil
  | cons deed deeds ih =>
    refine ih (s.perform deed) ?_
    rcases h with hold | ⟨other, hin, hwarn⟩
    · exact .inl (mem_warned_perform s deed (.inl hold))
    · rcases List.mem_cons.mp hin with rfl | hlater
      · exact .inl (mem_warned_perform s other (.inr hwarn))
      · exact .inr ⟨other, hlater, hwarn⟩

end ProcState

namespace SupervisorLogic

open ProcState

variable {K : Type*} [Field K]

/-- A placement of the robot falls due: the packet reports another penalty state than the one
before. -/
def robotDue (prev : Option Gc.GameControllerPacket) (pkt : Gc.GameControllerPacket)
    (rc : RobotConfig K) : Bool :=
  (reported rc pkt).any fun ps => ps ≠ (prev.bind (reported rc)).getD .unpenalised

/-- The ball's body and geom are in the model, the geom is the body's, and the body is
free-jointed. -/
def ballPlaceable (m : MjModel K) (ball : BallConfig K) : Bool :=
  (m.name2id .body ball.body).any fun bodyId =>
    (m.name2id .geom ball.geom).any fun geomId =>
      geomId < m.ngeom ∧ m.geomBodyid geomId = bodyId ∧ m.FreeJointed bodyId

/-- The robot's body is in the model and free-jointed. -/
def robotPlaceable (m : MjModel K) (rc : RobotConfig K) : Bool :=
  (m.name2id .body rc.body).any fun bodyId => m.FreeJointed bodyId

variable [Libc K]

/-- What `apply_robot` does for a robot. -/
def robotDeed (m : MjModel K) (prev : Option Gc.GameControllerPacket)
    (pkt : Gc.GameControllerPacket) (d : MjData K) (rc : RobotConfig K) : Deed K where
  body := rc.body
  pose := match robotCall m prev rc pkt with
    | .place _ pose _ => pose
    | _ => {}
  due := robotDue prev pkt rc
  placeable := robotPlaceable m rc
  before := d
  written := match robotCall m prev rc pkt with
    | .place bodyId pose _ => placeFreeBody m d bodyId pose.x pose.y pose.z pose.yaw
    | _ => none
  report := match robotCall m prev rc pkt with
    | .nothing => .silent
    | .missing => .warn ("robot body '" ++ rc.body ++ "' not in model")
    | .place _ _ message => .info message

/-- What `apply_robot` does for each of the robots, from one to the next. -/
def robotDeeds (m : MjModel K) (prev : Option Gc.GameControllerPacket)
    (pkt : Gc.GameControllerPacket) : MjData K → List (RobotConfig K) → List (Deed K)
  | _, [] => []
  | d, rc :: rcs =>
    let deed := robotDeed m prev pkt d rc
    deed :: robotDeeds m prev pkt (deed.written.getD d) rcs

variable [LinearOrder K]

/-- The pose of the ball's body that centres its geom at the configured point: a negative height
rests the ball on the floor. -/
def ballPose (m : MjModel K) (ball : BallConfig K) (geomId : ℕ) : Pose3 K :=
  let z := if ball.z < 0 then m.geomSize (3 * geomId) else ball.z
  { x := ball.x - m.geomPos (3 * geomId)
    y := ball.y - m.geomPos (3 * geomId + 1)
    z := z - m.geomPos (3 * geomId + 2) }

/-- What `place_ball` does. -/
def ballDeed (m : MjModel K) (ball : BallConfig K) (d : MjData K) : Deed K :=
  let deed : Deed K :=
    { body := ball.body
      due := true
      placeable := ballPlaceable m ball
      before := d
      written := none
      report := .silent }
  match m.name2id .body ball.body, m.name2id .geom ball.geom with
  | some bodyId, some geomId =>
    let z := if ball.z < 0 then m.geomSize (3 * geomId) else ball.z
    match placeFreeBodyByGeomCenter m d bodyId geomId ball.x ball.y z with
    | some data =>
      { deed with
        pose := ballPose m ball geomId
        written := some data
        report := .info (ballMessage ball z) }
    | none =>
      { deed with
        report := .warn ("ball placement failed (body '" ++ ball.body ++ "' not free-jointed?)") }
  | _, _ =>
    { deed with
      report :=
        .warn ("ball body '" ++ ball.body ++ "' or geom '" ++ ball.geom ++ "' not in model") }

/-- What a call does about the ball, if it is due at the centre. -/
def ballDeeds (m : MjModel K) (logic : SupervisorLogic K) (d : MjData K)
    (pkt : Gc.GameControllerPacket) : List (Deed K) :=
  if logic.centerBall pkt && logic.cfg.ball.enabled then [ballDeed m logic.cfg.ball d] else []

/-- What a call does: the ball, then the robots. -/
def deeds (m : MjModel K) (logic : SupervisorLogic K) (d : MjData K)
    (pkt : Gc.GameControllerPacket) : List (Deed K) :=
  let ball := ballDeeds m logic d pkt
  ball ++ robotDeeds m logic.prev pkt (ball.foldl (fun d deed => deed.written.getD d) d)
    logic.cfg.robots

/-! ## The calls perform their deeds -/

omit [LinearOrder K] in
theorem applyRobot_eq_perform (m : MjModel K) (prev : Option Gc.GameControllerPacket)
    (pkt : Gc.GameControllerPacket) (s : ProcState K) (entry : RobotConfig K × ℕ) :
    (applyRobot m prev pkt s entry).forget
      = s.forget.perform (robotDeed m prev pkt s.data entry.1) := by
  rw [applyRobot, ProcState.perform, robotDeed]
  rcases robotCall m prev entry.1 pkt with - | - | ⟨bodyId, pose, message⟩
  case nothing => rfl
  case missing => exact s.forget_warnOnce _
  case place =>
    dsimp only
    have hdata : (s.push .info message).data = s.data := rfl
    rw [hdata]
    rcases placeFreeBody m s.data bodyId pose.x pose.y pose.z pose.yaw with - | data <;> rfl

omit [LinearOrder K] in
theorem foldl_applyRobot_eq_perform (m : MjModel K) (prev : Option Gc.GameControllerPacket)
    (pkt : Gc.GameControllerPacket) (entries : List (RobotConfig K × ℕ)) (s t : ProcState K)
    (h : s.forget = t) :
    (entries.foldl (applyRobot m prev pkt) s).forget
      = (robotDeeds m prev pkt s.data (entries.map Prod.fst)).foldl ProcState.perform t := by
  induction entries generalizing s t with
  | nil => exact h
  | cons entry entries ih =>
    have hentry := applyRobot_eq_perform m prev pkt s entry
    have hdata : (applyRobot m prev pkt s entry).data
        = (robotDeed m prev pkt s.data entry.1).written.getD s.data :=
      (congrArg ProcState.data hentry).trans (s.forget.perform_data _)
    rw [List.foldl_cons, List.map_cons, robotDeeds, List.foldl_cons, ← hdata]
    exact ih _ _ (h ▸ hentry)

theorem placeBall_eq_perform (m : MjModel K) (ball : BallConfig K) (s : ProcState K) :
    placeBall m ball s = s.perform (ballDeed m ball s.data) := by
  rw [placeBall, ballDeed]
  rcases m.name2id .body ball.body with - | bodyId
  · rfl
  rcases m.name2id .geom ball.geom with - | geomId
  · rfl
  dsimp only
  rcases placeFreeBodyByGeomCenter m s.data bodyId geomId ball.x ball.y
    (if ball.z < 0 then m.geomSize (3 * geomId) else ball.z) with - | data <;> rfl

/-- **A call performs its deeds**, after the messages about the game. -/
theorem process_eq_perform (m : MjModel K) (logic : SupervisorLogic K) (d : MjData K)
    (pkt : Gc.GameControllerPacket) :
    (logic.process m d pkt).2.forget
      = (deeds m logic d pkt).foldl ProcState.perform
        { data := d
          warned := logic.warned
          actions := (logic.gameMessages pkt).map fun message => ⟨.info, message⟩ } := by
  let start : ProcState K :=
    { data := d
      warned := logic.warned
      actions := (logic.gameMessages pkt).map fun message => ⟨.info, message⟩ }
  have hball : (if logic.centerBall pkt && logic.cfg.ball.enabled then
      placeBall m logic.cfg.ball start else start)
        = (ballDeeds m logic d pkt).foldl ProcState.perform start := by
    rw [ballDeeds]
    split_ifs
    · exact placeBall_eq_perform m logic.cfg.ball start
    · rfl
  rw [process, deeds, List.foldl_append]
  dsimp only
  rw [foldl_push_info, foldl_applyRobot_eq_perform m logic.prev pkt _ _ _ rfl, List.zipIdx_map_fst,
    List.nil_append, hball, forget_foldl_perform, foldl_perform_data]
  rfl

/-- The data after a call, from one deed to the next. -/
theorem process_data (m : MjModel K) (logic : SupervisorLogic K) (d : MjData K)
    (pkt : Gc.GameControllerPacket) :
    (logic.process m d pkt).2.data
      = (deeds m logic d pkt).foldl (fun d deed => deed.written.getD d) d :=
  (congrArg ProcState.data (process_eq_perform m logic d pkt)).trans (foldl_perform_data _ _)

/-! ## Warnings along a run -/

/-- The history variable: the warnings so far. -/
def warnings (m : MjModel K) (before : List String) (logic : SupervisorLogic K) (call : Call K) :
    List String :=
  before ++ (logic.process m call.data call.pkt).2.actions.filterMap Action.warning?

/-- **The call reports what it did**: its data, actions and warnings are those that its deeds make,
one after the other, and every deed is reported as it was done. -/
structure ReportsTruly (m : MjModel K) (p : SupervisorLogic K × List String) (call : Call K) :
    Prop where
  performed : (p.1.process m call.data call.pkt).2.forget
    = (deeds m p.1 call.data call.pkt).foldl ProcState.perform
      { data := call.data
        warned := p.1.warned
        actions := (p.1.gameMessages call.pkt).map fun message => ⟨.info, message⟩ }
  chained : Chained call.data (deeds m p.1 call.data call.pkt)
  truthful : ∀ deed ∈ deeds m p.1 call.data call.pkt, deed.Truthful m (warnings m p.2 p.1 call)

/-- Every robot whose placement falls due, and whose body is in the model, has a free-jointed
body. -/
def DueFreeJointed (m : MjModel K) (logic : SupervisorLogic K) (call : Call K) : Prop :=
  ∀ rc ∈ logic.cfg.robots, robotDue logic.prev call.pkt rc = true →
    ∀ bodyId, m.name2id .body rc.body = some bodyId → m.FreeJointed bodyId

/-! ## The deeds -/

omit [LinearOrder K] in
theorem mem_robotDeeds {m : MjModel K} {prev : Option Gc.GameControllerPacket}
    {pkt : Gc.GameControllerPacket} {d : MjData K} {robots : List (RobotConfig K)} {deed : Deed K}
    (h : deed ∈ robotDeeds m prev pkt d robots) :
    ∃ rc ∈ robots, ∃ d, deed = robotDeed m prev pkt d rc := by
  induction robots generalizing d with
  | nil => exact absurd h List.not_mem_nil
  | cons rc robots ih =>
    rcases List.mem_cons.mp h with rfl | hrest
    · exact ⟨rc, List.mem_cons_self, d, rfl⟩
    · obtain ⟨other, hin, d', rfl⟩ := ih hrest
      exact ⟨other, List.mem_cons_of_mem rc hin, d', rfl⟩

omit [LinearOrder K] in
theorem exists_mem_robotDeeds (m : MjModel K) (prev : Option Gc.GameControllerPacket)
    (pkt : Gc.GameControllerPacket) (d : MjData K) {robots : List (RobotConfig K)}
    {rc : RobotConfig K} (h : rc ∈ robots) :
    ∃ d', robotDeed m prev pkt d' rc ∈ robotDeeds m prev pkt d robots := by
  induction robots generalizing d with
  | nil => exact absurd h List.not_mem_nil
  | cons first robots ih =>
    rcases List.mem_cons.mp h with rfl | hrest
    · exact ⟨d, List.mem_cons_self⟩
    · obtain ⟨d', hin⟩ := ih ((robotDeed m prev pkt d first).written.getD d) hrest
      exact ⟨d', List.mem_cons_of_mem _ hin⟩

omit [LinearOrder K] [Libc K] in
/-- `apply_robot` does nothing unless a placement is due; then it warns of a body that is not in the
model and goes on to place the body otherwise. -/
theorem robotCall_cases (m : MjModel K) (prev : Option Gc.GameControllerPacket)
    (pkt : Gc.GameControllerPacket) (rc : RobotConfig K) :
    robotDue prev pkt rc = false ∧ robotCall m prev rc pkt = .nothing
    ∨ robotDue prev pkt rc = true ∧ m.name2id .body rc.body = none
        ∧ robotCall m prev rc pkt = .missing
    ∨ robotDue prev pkt rc = true ∧ ∃ bodyId pose message,
        m.name2id .body rc.body = some bodyId
          ∧ robotCall m prev rc pkt = .place bodyId pose message := by
  rw [robotDue, robotCall]
  rcases reported rc pkt with - | ps
  · exact .inl ⟨rfl, rfl⟩
  dsimp only
  by_cases hedge : ps = (prev.bind (reported rc)).getD .unpenalised
  · exact .inl ⟨by simp [hedge], if_pos hedge⟩
  have hdue :
      (some ps).any (fun ps => ps ≠ (prev.bind (reported rc)).getD .unpenalised) = true := by
    simpa using hedge
  rw [if_neg hedge]
  rcases m.name2id .body rc.body with - | bodyId
  · exact .inr (.inl ⟨hdue, rfl, rfl⟩)
  · refine .inr (.inr ⟨hdue, bodyId, ?_⟩)
    by_cases hps : ps ≠ .unpenalised
    · exact ⟨_, _, rfl, if_pos hps⟩
    · exact ⟨_, _, rfl, if_neg hps⟩

theorem ballDeed_before (m : MjModel K) (ball : BallConfig K) (d : MjData K) :
    (ballDeed m ball d).before = d := by
  rw [ballDeed]
  rcases m.name2id .body ball.body with - | bodyId
  · rfl
  rcases m.name2id .geom ball.geom with - | geomId
  · rfl
  dsimp only
  rcases placeFreeBodyByGeomCenter m d bodyId geomId ball.x ball.y
    (if ball.z < 0 then m.geomSize (3 * geomId) else ball.z) with - | data <;> rfl

omit [LinearOrder K] in
theorem chained_robotDeeds (m : MjModel K) (prev : Option Gc.GameControllerPacket)
    (pkt : Gc.GameControllerPacket) (d : MjData K) (robots : List (RobotConfig K)) :
    Chained d (robotDeeds m prev pkt d robots) := by
  induction robots generalizing d with
  | nil => trivial
  | cons rc robots ih => exact ⟨rfl, ih _⟩

theorem chained_deeds (m : MjModel K) (logic : SupervisorLogic K) (d : MjData K)
    (pkt : Gc.GameControllerPacket) : Chained d (deeds m logic d pkt) := by
  rw [deeds, ballDeeds]
  split_ifs
  · exact ⟨ballDeed_before m logic.cfg.ball d, chained_robotDeeds m logic.prev pkt _ _⟩
  · exact chained_robotDeeds m logic.prev pkt d _

/-- **The ball's deed is sound.** -/
theorem ballDeed_sound (m : MjModel K) (ball : BallConfig K) (d : MjData K) :
    (ballDeed m ball d).Sound m := by
  have hmissing (hunfit : ballPlaceable m ball = false) :
      ({ body := ball.body, due := true, placeable := ballPlaceable m ball, before := d
         written := none
         report := .warn ("ball body '" ++ ball.body ++ "' or geom '" ++ ball.geom
          ++ "' not in model") } : Deed K).Sound m := by
    refine .refused _ hunfit rfl ⟨"ball body '", "' or geom '" ++ ball.geom ++ "' not in model", ?_⟩
      rfl
    rw [String.append_assoc, String.append_assoc]
    rfl
  rw [ballDeed]
  rcases hbody : m.name2id .body ball.body with - | bodyId
  · exact hmissing (by rw [ballPlaceable, hbody]; rfl)
  rcases hgeom : m.name2id .geom ball.geom with - | geomId
  · exact hmissing (by rw [ballPlaceable, hbody, hgeom]; rfl)
  dsimp only
  have hplaced := placeFreeBodyByGeomCenter_isSome_iff m d bodyId geomId ball.x ball.y
    (if ball.z < 0 then m.geomSize (3 * geomId) else ball.z)
  have hplaceable : ballPlaceable m ball = true
      ↔ geomId < m.ngeom ∧ m.geomBodyid geomId = bodyId ∧ m.FreeJointed bodyId := by
    rw [ballPlaceable, hbody, hgeom]
    exact decide_eq_true_iff
  rcases hresult : placeFreeBodyByGeomCenter m d bodyId geomId ball.x ball.y
    (if ball.z < 0 then m.geomSize (3 * geomId) else ball.z) with - | data
  all_goals rw [hresult] at hplaced
  · have hunfit : ballPlaceable m ball = false :=
      Bool.eq_false_iff.mpr fun h => absurd (hplaced.mpr (hplaceable.mp h)) Bool.false_ne_true
    exact .refused _ hunfit rfl ⟨"ball placement failed (body '", "' not free-jointed?)", rfl⟩ rfl
  · have hwrote := placeFreeBodyByGeomCenter_wrote hresult
    exact .done _ bodyId data (hplaceable.mpr (hplaced.mp rfl)) hbody rfl hwrote rfl

omit [LinearOrder K] in
/-- A robot's deed is sound unless it is due for a body that is in the model but not
free-jointed. -/
theorem robotDeed_sound {m : MjModel K} {prev : Option Gc.GameControllerPacket}
    {pkt : Gc.GameControllerPacket} (d : MjData K) {rc : RobotConfig K}
    (hfree : robotDue prev pkt rc = true →
      ∀ bodyId, m.name2id .body rc.body = some bodyId → m.FreeJointed bodyId) :
    (robotDeed m prev pkt d rc).Sound m := by
  rw [robotDeed]
  obtain ⟨hdue, hcall⟩ | ⟨-, hbody, hcall⟩ | ⟨hdue, bodyId, pose, message, hbody, hcall⟩ :=
    robotCall_cases m prev pkt rc
  · rw [hcall]
    exact .idle hdue rfl rfl
  · rw [hcall]
    exact .refused _ (by rw [robotPlaceable, hbody]; rfl) rfl
      ⟨"robot body '", "' not in model", rfl⟩ rfl
  · have hjointed := hfree hdue bodyId hbody
    rw [hcall]
    obtain ⟨d', hd'⟩ := Option.isSome_iff_exists.mp
      ((placeFreeBody_isSome_iff m d bodyId pose.x pose.y pose.z pose.yaw).mpr hjointed)
    refine .done message bodyId d' ?_ hbody hd' (placeFreeBody_wrote hd') rfl
    rw [robotPlaceable, hbody]
    exact decide_eq_true hjointed

omit [LinearOrder K] in
/-- A robot whose placement is due, with a body that is in the model but not free-jointed, is
reported as placed. -/
theorem robotDeed_not_truthful {m : MjModel K} {prev : Option Gc.GameControllerPacket}
    {pkt : Gc.GameControllerPacket} (d : MjData K) {rc : RobotConfig K} {bodyId : ℕ}
    (hdue : robotDue prev pkt rc = true) (hbody : m.name2id .body rc.body = some bodyId)
    (hfixed : ¬ m.FreeJointed bodyId) (warnings : List String) :
    ¬ (robotDeed m prev pkt d rc).Truthful m warnings := by
  intro htrue
  obtain ⟨hidle, -⟩ | ⟨-, hnone, -⟩ | ⟨-, _, pose, message, hsome, hcall⟩ :=
    robotCall_cases m prev pkt rc
  · exact absurd (hidle.symm.trans hdue) Bool.false_ne_true
  · exact absurd (hnone.symm.trans hbody) (Option.some_ne_none bodyId).symm
  · obtain rfl := Option.some.inj (hsome.symm.trans hbody)
    have hinfo : (robotDeed m prev pkt d rc).report.IsInfo := ⟨message, by rw [robotDeed, hcall]⟩
    have hwritten := htrue.info_iff.mp hinfo
    rw [robotDeed, hcall] at hwritten
    exact hfixed ((placeFreeBody_isSome_iff m d _ _ _ _ _).mp hwritten)

/-! ## The run -/

/-- The warnings on record are those given so far, each once. -/
structure WarnInv (p : SupervisorLogic K × List String) : Prop where
  nodup : p.2.Nodup
  mem_iff : ∀ message, message ∈ p.2 ↔ message ∈ p.1.warned

namespace WarnInv

variable {m : MjModel K} {p : SupervisorLogic K × List String}

/-- The ledger of a call, once its deeds are performed. -/
theorem ledger (h : WarnInv p) (call : Call K) :
    Ledger p.2 (p.1.process m call.data call.pkt).2.forget := by
  rw [process_eq_perform]
  refine Ledger.foldl_perform _ ?_
  have hnone : ((p.1.gameMessages call.pkt).map fun message =>
      (⟨.info, message⟩ : Action)).filterMap Action.warning? = [] := by
    rw [List.filterMap_map]
    exact List.filterMap_eq_nil_iff.mpr fun _ _ => rfl
  refine ⟨?_, fun message => ?_⟩
  · rw [hnone, List.append_nil]
    exact h.nodup
  · rw [hnone, List.append_nil]
    exact h.mem_iff message

theorem next (h : WarnInv p) (call : Call K) :
    WarnInv (((machine m).withHistory (warnings m)).next p call) :=
  ⟨(h.ledger call).nodup, (h.ledger call).mem_iff⟩

theorem count_eq_one (h : WarnInv p) {call : Call K} {deed : Deed K}
    (hin : deed ∈ deeds m p.1 call.data call.pkt) {message : String}
    (hwarn : deed.report = .warn message) : (warnings m p.2 p.1 call).count message = 1 := by
  refine List.count_eq_one_of_mem (h.ledger (m := m) call).nodup ?_
  refine ((h.ledger (m := m) call).mem_iff message).mpr ?_
  rw [process_eq_perform]
  exact mem_warned_foldl _ _ (.inr ⟨deed, hin, hwarn⟩)

theorem truthful_iff (h : WarnInv p) (call : Call K) :
    ReportsTruly m p call ↔ DueFreeJointed m p.1 call := by
  refine ⟨fun htrue rc hrc hdue bodyId hbody => ?_, fun hfree =>
    ⟨process_eq_perform m p.1 call.data call.pkt, chained_deeds m p.1 call.data call.pkt,
      fun deed hin => ?_⟩⟩
  · by_contra hfixed
    obtain ⟨d, hin⟩ := exists_mem_robotDeeds m p.1.prev call.pkt _ hrc
    exact robotDeed_not_truthful d hdue hbody hfixed _
      (htrue.truthful _ (List.mem_append_right _ hin))
  · refine Deed.Sound.truthful ?_ fun message hwarn => h.count_eq_one hin hwarn
    rcases List.mem_append.mp hin with hball | hrobot
    · rw [ballDeeds] at hball
      split_ifs at hball
      · rw [List.mem_singleton.mp hball]
        exact ballDeed_sound m p.1.cfg.ball call.data
      · exact absurd hball List.not_mem_nil
    · obtain ⟨rc, hrc, d, rfl⟩ := mem_robotDeeds hrobot
      exact robotDeed_sound d (hfree rc hrc)

end WarnInv

/-- **The reports are true exactly along the runs in which no placement falls due for a robot whose
body is in the model but not free-jointed**: `apply_robot` does not look at what came of it. -/
theorem reportsTruly_iff (m : MjModel K) (cfg : SupervisorConfig K) (calls : List (Call K)) :
    ((machine m).withHistory (warnings m)).Always (ReportsTruly m) ({ cfg := cfg }, []) calls
      ↔ (machine m).Always (DueFreeJointed m) { cfg := cfg } calls := by
  have hstart : WarnInv (({ cfg := cfg }, []) : SupervisorLogic K × List String) :=
    ⟨List.nodup_nil, fun _ => Iff.rfl⟩
  rw [← (machine m).always_withHistory (warnings m) []]
  exact Machine.always_iff_always _ (fun _ call (hinv : WarnInv _) => hinv.truthful_iff call)
    (fun _ call hinv _ => hinv.next call) calls _ hstart

/-! ## A robot configured by its head -/

/-- The K1 with its head as a body of its own, on the yaw hinge. -/
def k1WithHead : MjModel ℚ where
  __ := k1Scene 1
  nbody := 3
  bodyJntnum b := if b = 0 then 0 else 1
  bodyJntadr b := b - 1
  jntBodyid j := if j = 1 then 2 else 1
  name2id
    | .body, name => if name = "Trunk" then some 1 else if name = "Head_1" then some 2 else none
    | kind, name => (k1Scene 1).name2id kind name
  name2id_inj := by
    intro kind s s' i h h'
    cases kind with
    | body =>
      dsimp only at h h'
      split_ifs at h h' <;> simp_all <;> omega
    | joint => exact (k1Scene 1).name2id_inj (t := .joint) h h'
    | _ => exact (k1Scene 1).name2id_inj h h'

/-- A robot of team 7 configured by its head body is reported at the side line, and nothing was
written. -/
theorem reports_not_true :
    ¬ ((machine k1WithHead).withHistory (warnings k1WithHead)).Always (ReportsTruly k1WithHead)
      ({ cfg := { robots := [{ robotOfTeam7 with body := "Head_1" }] } }, [])
      [⟨k1Upright, packetOf 7 .pickUp⟩] := by
  rintro ⟨htrue, -⟩
  have hdeed := htrue.truthful (robotDeed k1WithHead none (packetOf 7 .pickUp) k1Upright
    { robotOfTeam7 with body := "Head_1" }) List.mem_cons_self
  exact robotDeed_not_truthful k1Upright rfl rfl (by decide) _ hdeed

end SupervisorLogic

end K1Sim
