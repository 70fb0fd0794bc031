import K1Sim.Locomotion.Unwinding

/-!
# Locomotion/LowCmdDelivery — when a LowCmd reaches the joints

A full SERIAL LowCmd drives all the joints from the second step on exactly when the machine is in
CUSTOM and no request for a mode is still to be taken up (`lowCmd_delivered_iff`).  Sent while the
request for the session is still on its way, it is cleared with what an earlier session left over,
and the session holds its entry pose instead (`lowCmd_lost`).
-/

namespace K1Sim

open Foundations

namespace LocomotionController

variable {K : Type*} [Field K] [LinearOrder K]

/-- No mode is still to be entered: not on the request of the snapshot that the step under way has
yet to take up, nor on the one in the mailbox, if it came after that snapshot.  A request for an
unknown mode enters none. -/
def NothingToEnter (w : World K) : Prop :=
  match w.phase with
  | .idle => enteredState w.ctl w.ctl.mailbox = none
  | .snapped snap => enteredState w.ctl snap = none
    ∧ enteredState { w.ctl with fsm.lastModeSeq := snap.modeSeq } w.ctl.mailbox = none
  | .consumed _ => enteredState w.ctl w.ctl.mailbox = none

/-- **A CUSTOM session is open**: the machine is in CUSTOM, and no mode is still to be entered. -/
structure SessionOpen (w : World K) : Prop where
  state : w.ctl.fsm.state = .custom
  stays : NothingToEnter w

/-- Neither a LowCmd nor a mode request. -/
def Undisturbed : Event K → Prop
  | .call (.setHeadCommand _ _) => True
  | .call _ => False
  | _ => True

variable [Libc K] (lm : LoadedModel K)

/-- The history variable that counts the steps done. -/
def countSteps (n : ℕ) (w : World K) (e : Event K) : ℕ :=
  if ((world lm).out w e).isSome then n + 1 else n

/-- Each `step` from the second on writes, for every joint, the clamped torque of its motor
command. -/
def Tracks (motors : Vector (MotorCmdData K) jointCount) (p : World K × ℕ) (e : Event K) : Prop :=
  ∀ s, (world lm).out p.1 e = some s → 1 ≤ p.2 →
    ∀ i, s.ctrl i = lowCmdTorque lm p.1.data (motors.get i) i

/-- The LowCmd is in the mailbox and, one step on, in every snapshot. -/
structure DeliveredInv (motors : List (MotorCmdData K)) (w : World K) (n : ℕ) : Prop where
  opened : SessionOpen w
  cmdType : w.ctl.mailbox.lowCmdType = 1
  motors_eq : w.ctl.mailbox.lowCmdMotors = motors
  entered : 1 ≤ n → w.ctl.fsm.customEntryStep = false
  snap : 1 ≤ n → match w.phase with
    | .idle => True
    | .snapped snap => snap.lowCmdType = 1 ∧ snap.lowCmdMotors = motors
    | .consumed snap => snap.lowCmdType = 1 ∧ snap.lowCmdMotors = motors

variable {lm}

omit [LinearOrder K] [Libc K] in
/-- What an open session has in its snapshot enters no mode. -/
theorem SessionOpen.enteredState_eq_none {c : LocomotionController K} {d : MjData K}
    {snap : CommandSnapshot K} (hopen : SessionOpen ⟨c, d, .snapped snap⟩) :
    enteredState c snap = none := hopen.stays.1

/-- **An open session stays open** as long as no mode request comes. -/
theorem SessionOpen.next {w : World K} (hopen : SessionOpen w) (e : Event K)
    (he : Undisturbed e) : SessionOpen ((world lm).next w e) := by
  obtain ⟨hstate, hstays⟩ := hopen
  obtain ⟨c, d, ph⟩ := w
  rcases e with (_ | _ | _) | _ | _ | _
  case call.setHeadCommand => exact ⟨hstate, hstays⟩
  case call.requestModeChange => exact he.elim
  case call.setLowCmd => exact he.elim
  case mjStep => rcases ph <;> exact ⟨hstate, hstays⟩
  case reset => rcases ph <;> exact ⟨hstate, hstays⟩
  case tick =>
    rcases ph with - | snap | snap
    case idle => exact ⟨hstate, hstays, if_pos rfl⟩
    case snapped =>
      simp only [world, World.tick, consumeModeRequest_of_none lm c snap d hstays.1]
      exact ⟨hstate, hstays.2⟩
    case consumed =>
      obtain ⟨_, _, _, _, hact⟩ := actuate_frame lm c snap d
      simp only [world, World.tick, hact]
      exact ⟨hstate, hstays⟩

omit [Libc K] in
theorem DeliveredInv.law_eq {motors : List (MotorCmdData K)} (hne : motors ≠ []) {w : World K}
    {snap : CommandSnapshot K} (hphase : w.phase = .consumed snap) {n : ℕ}
    (hinv : DeliveredInv motors w n) (hn : 1 ≤ n) :
    law w.ctl snap w.data.time = .servo motors := by
  have hsnap := hinv.snap hn
  rw [hphase] at hsnap
  obtain ⟨htype, hmotors⟩ := hsnap
  have hpast : ¬ (w.ctl.fsm.customEntryStep = true ∨ AwaitsLowCmd w.ctl snap) := by
    rintro (htrue | hawaits)
    · exact absurd (htrue.symm.trans (hinv.entered hn)) (by simp)
    · exact hne (hmotors.symm.trans hawaits.2)
  rw [law, hinv.opened.state]
  change customLaw w.ctl snap = _
  rw [customLaw, if_neg hpast, htype, hmotors]
  rfl

theorem DeliveredInv.tracks (motors : Vector (MotorCmdData K) jointCount) {w : World K} {n : ℕ}
    (hinv : DeliveredInv motors.toList w n) (e : Event K) : Tracks lm motors (w, n) e := by
  intro s hout hn i
  have hne : motors.toList ≠ [] := by
    intro hnil
    exact absurd (congrArg List.length hnil) (by simp)
  obtain ⟨snap, hphase, hctrl⟩ := ctrl_of_out lm hout
  have hget : motors.toList[i.val]? = some (motors.get i) := by simp [Vector.get]
  rw [hctrl, hinv.law_eq hne hphase hn]
  simp only [Law.ctrl, hget]

theorem DeliveredInv.next {motors : List (MotorCmdData K)} {w : World K} {n : ℕ}
    (hinv : DeliveredInv motors w n) (e : Event K) (he : Undisturbed e) :
    DeliveredInv motors ((world lm).next w e) (countSteps lm n w e) := by
  have hopened : SessionOpen ((world lm).next w e) := hinv.opened.next e he
  obtain ⟨hopen, htype, hmotors, hentered, hsnap⟩ := hinv
  obtain ⟨c, d, ph⟩ := w
  rcases e with (_ | _ | _) | _ | _ | _
  case call.setHeadCommand => exact ⟨hopened, htype, hmotors, hentered, hsnap⟩
  case call.requestModeChange => exact he.elim
  case call.setLowCmd => exact he.elim
  case mjStep => rcases ph <;> exact ⟨hopened, htype, hmotors, hentered, hsnap⟩
  case reset => rcases ph <;> exact ⟨hopened, htype, hmotors, hentered, hsnap⟩
  case tick =>
    rcases ph with - | snap | snap
    case idle => exact ⟨hopened, htype, hmotors, hentered, fun _ => ⟨htype, hmotors⟩⟩
    case snapped =>
      have hnone := hopen.enteredState_eq_none
      simp only [world, World.tick, consumeModeRequest_of_none lm c snap d hnone] at hopened ⊢
      exact ⟨hopened, htype, hmotors, hentered, hsnap⟩
    case consumed =>
      have hentry := (actuate_flags lm c snap d).2
      rw [if_pos (show c.fsm.state = .custom from hopen.state)] at hentry
      have hmail := (actuate_keeps lm c snap d).2
      exact ⟨hopened, hmail ▸ htype, hmail ▸ hmotors, fun _ => hentry, fun _ => trivial⟩

variable (lm)

/-- A full SERIAL LowCmd sent now is delivered, whatever its motors: along every run without another
LowCmd or mode request, from the second step on, at the latest, every step writes its torques. -/
def Delivers (w : World K) : Prop :=
  ∀ (motors : Vector (MotorCmdData K) jointCount) (es : List (Event K)),
    (∀ e ∈ es, Undisturbed e) →
      ((world lm).withHistory (countSteps lm)).Always (Tracks lm motors)
        ((world lm).next w (.call (.setLowCmd 1 motors.toList)), 0) es

/-- **A full SERIAL LowCmd sent into an open session is delivered.** -/
theorem SessionOpen.delivers {w : World K} (hopen : SessionOpen w) : Delivers lm w := by
  intro motors es hquiet
  have hsent : DeliveredInv motors.toList
      ((world lm).next w (.call (.setLowCmd 1 motors.toList))) 0 :=
    ⟨⟨hopen.state, hopen.stays⟩, rfl, rfl, nofun, nofun⟩
  let Inv (p : World K × ℕ) : Prop := DeliveredInv motors.toList p.1 p.2
  exact Machine.always_of_invariant_of _
    (fun p e (hinv : Inv p) => DeliveredInv.tracks motors hinv e)
    (fun p e he hinv => DeliveredInv.next hinv e he) es (_, 0) hquiet hsent

/-! ## A LowCmd that cannot be delivered -/

/-- The ticks that end the step under way, or a whole step when there is none. -/
def settle : Phase K → List (Event K)
  | .idle => [.tick, .tick, .tick]
  | .snapped _ => [.tick, .tick]
  | .consumed _ => [.tick]

/-- The motors of one torque on every joint. -/
def pushing (tau : K) : Vector (MotorCmdData K) jointCount :=
  Vector.replicate jointCount ⟨0, 0, 0, tau, 0, 0, 0⟩

/-- Some joint can be given more than one torque. -/
def Torquable : Prop :=
  ∃ i x y, lm.model.limitForce (lm.map.actId i) x ≠ lm.model.limitForce (lm.map.actId i) y

variable {lm}

omit [Libc K] in
theorem lowCmdTorque_pushing (d : MjData K) (tau : K) (i : Fin jointCount) :
    lowCmdTorque lm d ((pushing tau).get i) i = lm.model.limitForce (lm.map.actId i) tau := by
  have hget : (pushing tau).get i = ⟨0, 0, 0, tau, 0, 0, 0⟩ := by simp [pushing, Vector.get]
  rw [lowCmdTorque, hget]
  simp

omit [Libc K] in
/-- Runs that part with the LowCmd. -/
theorem sameButLowCmd_sent (c : LocomotionController K) (d : MjData K) (ph : Phase K) (cmdType : ℤ)
    (motors motors' : List (MotorCmdData K)) :
    SameButLowCmd lm ⟨c.setLowCmd cmdType motors, d, ph⟩ ⟨c.setLowCmd cmdType motors', d, ph⟩ := by
  have horders (s : CommandSnapshot K) : SameOrders s s := ⟨rfl, rfl, rfl, rfl⟩
  refine ⟨rfl, ⟨rfl, rfl, rfl, rfl, rfl, rfl, rfl⟩, ⟨rfl, rfl, rfl, rfl⟩, ?_,
    ⟨rfl, fun _ => rfl, fun _ => rfl⟩⟩
  rcases ph with - | s | s
  · exact .idle
  · exact .snapped (horders s)
  · exact .consumed (horders s)

/-- Outside CUSTOM, a step writes the same controls in runs alike but for the LowCmd. -/
theorem SameButLowCmd.ctrl_eq_of_ne_custom {c c' : LocomotionController K} {d d' : MjData K}
    {s s' : CommandSnapshot K}
    (h : SameButLowCmd lm ⟨c, d, .consumed s⟩ ⟨c', d', .consumed s'⟩)
    (hstate : c.fsm.state ≠ .custom) :
    jointCtrl lm (actuate lm c s d).2 = jointCtrl lm (actuate lm c' s' d').2 := by
  obtain ⟨hcfg, hfsm, -, hphase, hdata⟩ := h
  have hcfg : c.cfg = c'.cfg := hcfg
  have hstate' : c.fsm.state = c'.fsm.state := hfsm.state
  have htime : d.time = d'.time := hdata.time
  rw [actuate_ctrl, actuate_ctrl, ← hcfg, Law.ctrl_congr hdata, law, law, ← hstate', ← htime]
  rcases hfound : c.fsm.state with - | - | -
  case damping => rfl
  case prepare =>
    dsimp only
    rw [prepareReference_congr hcfg hfsm hphase.of_consumed]
    rfl
  case custom => exact absurd hfound hstate

/-- Between steps, runs that part with the LowCmd and whose next step cannot tell them apart: it
does not end in CUSTOM, or enters CUSTOM anew, or both have been cleared. -/
structure Deaf (lm : LoadedModel K) (w w' : World K) : Prop where
  base : SameButLowCmd lm w w'
  idle : w.phase = .idle
  deaf : (consumeModeRequest lm w.ctl w.ctl.mailbox w.data).fsm.state ≠ .custom
    ∨ enteredState w.ctl w.ctl.mailbox = some .custom ∨ SameSinceClear lm w w'

/-- **A deaf step writes the same controls in both runs.** -/
theorem Deaf.ctrl_eq {w w' : World K} (h : Deaf lm w w') :
    jointCtrl lm (step lm w.ctl w.data).2 = jointCtrl lm (step lm w'.ctl w'.data).2 := by
  obtain ⟨hbase, hidle, hdeaf⟩ := h
  obtain ⟨c, d, ph⟩ := w
  obtain ⟨c', d', ph'⟩ := w'
  obtain rfl : ph = .idle := hidle
  rcases hbase.phase with - | - | -
  rcases hdeaf with hstate | henters | hcleared
  · exact hbase.tick.tick.ctrl_eq_of_ne_custom hstate
  · exact (hbase.tick.clear henters).ctrl_eq
  · exact hcleared.tick.tick.ctrl_eq

omit [Libc K] in
/-- A step ends in CUSTOM if it enters it, or was there and enters nothing. -/
theorem consumeModeRequest_state_eq_custom_iff (c : LocomotionController K)
    (snap : CommandSnapshot K) (d : MjData K) :
    (consumeModeRequest lm c snap d).fsm.state = .custom
      ↔ enteredState c snap = some .custom
        ∨ enteredState c snap = none ∧ c.fsm.state = .custom := by
  rw [consumeModeRequest_state, enteredState]
  split_ifs
  · simp
  · rcases effectiveState snap.requestedMode with - | state <;> simp

omit [Libc K] in
/-- A step in CUSTOM that neither enters it nor has been cleared enters nothing. -/
theorem deaf_or_stays (w w' : World K) :
    ((consumeModeRequest lm w.ctl w.ctl.mailbox w.data).fsm.state ≠ .custom
      ∨ enteredState w.ctl w.ctl.mailbox = some .custom ∨ SameSinceClear lm w w')
    ∨ enteredState w.ctl w.ctl.mailbox = none ∧ w.ctl.fsm.state = .custom := by
  by_cases hstate : (consumeModeRequest lm w.ctl w.ctl.mailbox w.data).fsm.state = .custom
  · rcases (consumeModeRequest_state_eq_custom_iff _ _ _).mp hstate with henters | hstays
    · exact .inl (.inr (.inl henters))
    · exact .inr hstays
  · exact .inl (.inl hstate)

/-- The step under way is the last before a deaf one, unless the session is open. -/
theorem deaf_of_consumed {w w' : World K} {snap : CommandSnapshot K}
    (hphase : w.phase = .consumed snap) (hbase : SameButLowCmd lm w w')
    (hclosed : ¬ SessionOpen w) : Deaf lm (w.tick lm) (w'.tick lm) := by
  obtain ⟨c, d, ph⟩ := w
  obtain rfl : ph = .consumed snap := hphase
  refine ⟨hbase.tick, rfl, (deaf_or_stays _ _).resolve_right fun ⟨hnone, hstate⟩ => hclosed ?_⟩
  obtain ⟨_, _, _, _, hact⟩ := actuate_frame lm c snap d
  simp only [World.tick, hact] at hnone hstate
  exact ⟨hstate, hnone⟩

theorem deaf_of_snapped {w w' : World K} {snap : CommandSnapshot K}
    (hphase : w.phase = .snapped snap) (hbase : SameButLowCmd lm w w')
    (hclosed : ¬ SessionOpen w) : Deaf lm ((w.tick lm).tick lm) ((w'.tick lm).tick lm) := by
  obtain ⟨c, d, ph⟩ := w
  obtain ⟨c', d', ph'⟩ := w'
  obtain rfl : ph = .snapped snap := hphase
  obtain ⟨snap', rfl⟩ := hbase.phase.exists_snapped
  by_cases hent : enteredState c snap = some .custom
  · -- the mailbox is cleared here, in both runs
    exact ⟨hbase.tick.tick, rfl, .inr (.inr (hbase.clear hent).tick)⟩
  refine deaf_of_consumed rfl hbase.tick fun ⟨hstate, hnone⟩ => hclosed ?_
  obtain ⟨-, -, -, hmail⟩ := consumeModeRequest_of_ne_custom lm c snap d hent
  obtain ⟨-, hseq, -⟩ := consumeModeRequest_frame lm c snap d
  obtain ⟨hstays, hcustom⟩ :=
    ((consumeModeRequest_state_eq_custom_iff c snap d).mp hstate).resolve_left hent
  refine ⟨hcustom, hstays, ?_⟩
  simp only [NothingToEnter, World.tick, enteredState, hmail, hseq] at hnone ⊢
  exact hnone

theorem deaf_of_idle {w w' : World K} (hphase : w.phase = .idle) (hbase : SameButLowCmd lm w w')
    (hclosed : ¬ SessionOpen w) :
    Deaf lm (((w.tick lm).tick lm).tick lm) (((w'.tick lm).tick lm).tick lm) := by
  obtain ⟨c, d, ph⟩ := w
  obtain rfl : ph = .idle := hphase
  exact deaf_of_snapped rfl hbase.tick fun ⟨hstate, hstays⟩ => hclosed ⟨hstate, hstays.1⟩

/-- **Where no session is open, the second step is deaf.** -/
theorem deaf_settle {w w' : World K} (hbase : SameButLowCmd lm w w') (hclosed : ¬ SessionOpen w) :
    Deaf lm ((world lm).run w (settle w.phase)) ((world lm).run w' (settle w.phase)) := by
  rcases hphase : w.phase with - | snap | snap
  · exact deaf_of_idle hphase hbase hclosed
  · exact deaf_of_snapped hphase hbase hclosed
  · exact deaf_of_consumed hphase hbase hclosed

/-- The step under way, or the next, is the first. -/
theorem countSteps_settle (w : World K) :
    ((world lm).withHistory (countSteps lm)).run (w, 0) (settle w.phase)
      = ((world lm).run w (settle w.phase), 1) := by
  obtain ⟨c, d, - | snap | snap⟩ := w <;> rfl

/-- What tracks a LowCmd between steps tracks it in the next. -/
theorem step_ctrl_of_tracks {motors : Vector (MotorCmdData K) jointCount} {u : World K}
    (hidle : u.phase = .idle)
    (h : ((world lm).withHistory (countSteps lm)).Always (Tracks lm motors) (u, 1)
      [.tick, .tick, .tick]) (i : Fin jointCount) :
    jointCtrl lm (step lm u.ctl u.data).2 i = lowCmdTorque lm u.data (motors.get i) i := by
  obtain ⟨c, d, ph⟩ := u
  obtain rfl : ph = .idle := hidle
  obtain ⟨-, -, hlast, -⟩ := h
  exact hlast _ rfl (le_refl 1) i

/-- **What the second step writes**, when the LowCmd is delivered. -/
theorem Delivers.second {w u : World K} (h : Delivers lm w) (tau : K)
    (hu : (world lm).run ((world lm).next w (.call (.setLowCmd 1 (pushing tau).toList)))
      (settle w.phase) = u) (hidle : u.phase = .idle) (i : Fin jointCount) :
    jointCtrl lm (step lm u.ctl u.data).2 i = lm.model.limitForce (lm.map.actId i) tau := by
  have hquiet : ∀ e ∈ settle w.phase ++ [.tick, .tick, .tick], Undisturbed e := by
    rcases w.phase with - | snap | snap <;> simp [settle, Undisturbed]
  have hruns := ((Machine.always_append _ _ _ _ _).mp (h (pushing tau) _ hquiet)).2
  have hcount : ((world lm).withHistory (countSteps lm)).run
      ((world lm).next w (.call (.setLowCmd 1 (pushing tau).toList)), 0) (settle w.phase)
        = (u, 1) := hu ▸ countSteps_settle _
  rw [hcount] at hruns
  rw [step_ctrl_of_tracks hidle hruns, lowCmdTorque_pushing]

/-- **Only an open session has its LowCmds delivered**, on a robot with some joint to push. -/
theorem Delivers.sessionOpen {w : World K} (h : Delivers lm w) (hpush : Torquable lm) :
    SessionOpen w := by
  by_contra hclosed
  obtain ⟨i, x, y, hne⟩ := hpush
  have hsame : SameButLowCmd lm ((world lm).next w (.call (.setLowCmd 1 (pushing x).toList)))
      ((world lm).next w (.call (.setLowCmd 1 (pushing y).toList))) :=
    sameButLowCmd_sent w.ctl w.data w.phase 1 _ _
  have hdeaf := deaf_settle hsame fun ⟨hstate, hstays⟩ => hclosed ⟨hstate, hstays⟩
  have hidle := hdeaf.base.phase
  rw [hdeaf.idle] at hidle
  have hx := h.second x rfl hdeaf.idle i
  have hy := h.second y rfl hidle.of_idle i
  exact hne (hx.symm.trans ((congrFun hdeaf.ctrl_eq i).trans hy))

variable (lm)

/-- **A full SERIAL LowCmd is delivered exactly when the machine is in CUSTOM and no mode is still
to be entered**, on a robot with some joint that can be given more than one torque; that such a
LowCmd is delivered needs no joint to be so. -/
theorem lowCmd_delivered_iff (w : World K) :
    (SessionOpen w → Delivers lm w) ∧ (Torquable lm → (Delivers lm w ↔ SessionOpen w)) :=
  ⟨SessionOpen.delivers lm, fun hpush =>
    ⟨fun h => h.sessionOpen hpush, SessionOpen.delivers lm⟩⟩

/-- One newton metre on every joint. -/
def pushAll : Vector (MotorCmdData ℚ) jointCount := pushing 1

/-- The controller as configured by default. -/
def defaultController : LocomotionController ℚ := { cfg := Config.ofYaml {} {} }

/-- Sent in the entry step itself, while a request for a mode that there is none of waits:
delivered, as every LowCmd would be; sent while the request for CUSTOM waits, some would not be. -/
theorem lowCmd_delivered_in_entryStep :
    ((world (k1Plant 1)).withHistory (countSteps (k1Plant 1))).Always (Tracks (k1Plant 1) pushAll)
        ((world (k1Plant 1)).run { ctl := defaultController, data := k1Upright }
          [.call (.requestModeChange 3), .tick, .tick, .call (.requestModeChange 99),
            .call (.setLowCmd 1 pushAll.toList)], 0)
        [.tick, .mjStep uprightObs, .tick, .tick, .tick]
      ∧ ¬ Delivers (k1Plant 1) ((world (k1Plant 1)).run
        { ctl := defaultController, data := k1Upright } [.call (.requestModeChange 3)]) := by
  have hopen : SessionOpen ((world (k1Plant 1)).run
      { ctl := defaultController, data := k1Upright }
      [.call (.requestModeChange 3), .tick, .tick, .call (.requestModeChange 99)]) := ⟨rfl, rfl⟩
  refine ⟨(lowCmd_delivered_iff (k1Plant 1) _).1 hopen pushAll _ ?_, fun hdelivers => ?_⟩
  · simp [Undisturbed]
  · have hpush : Torquable (k1Plant 1) := ⟨0, 0, 1, by decide +kernel⟩
    have hclosed := ((lowCmd_delivered_iff (k1Plant 1) _).2 hpush).mp hdelivers
    exact absurd hclosed.state (by decide)

/-- Sent right after the request: the second step holds the entry pose. -/
theorem lowCmd_lost_after_request :
    ¬ ((world (k1Plant 1)).withHistory (countSteps (k1Plant 1))).Always (Tracks (k1Plant 1) pushAll)
      ((world (k1Plant 1)).run { ctl := defaultController, data := k1Upright }
        [.call (.requestModeChange 3), .call (.setLowCmd 1 pushAll.toList)], 0)
      [.tick, .tick, .tick, .tick, .tick, .tick] := by
  rintro ⟨-, -, -, -, -, hsecond, -⟩
  have htorque := hsecond _ rfl (by decide) 0
  exact absurd htorque (by decide +kernel)

/-! ## A session still on its way -/

/-- The last mode request is for CUSTOM and has yet to be consumed, from the snapshot of the step
under way or from a later one. -/
structure SessionOnItsWay (w : World K) : Prop where
  mode : effectiveState w.ctl.mailbox.requestedMode = some .custom
  mailbox : w.ctl.mailbox.modeSeq ≠ w.ctl.fsm.lastModeSeq
  snapshot : ∀ snap, w.phase = .snapped snap → snap.modeSeq = w.ctl.mailbox.modeSeq →
    snap.requestedMode = w.ctl.mailbox.requestedMode

/-- Each `step` from the second on holds the entry pose. -/
def HoldsEntry (p : World K × ℕ) (e : Event K) : Prop :=
  ∀ s, (world lm).out p.1 e = some s → 1 ≤ p.2 →
    s.ctrl = p.1.ctl.cfg.pd.torque lm.model p.1.data lm.map p.1.ctl.fsm.customEntryPose
      (fun _ => 0) (fun _ => 0)

/-- An open session that has seen no LowCmd and has none to see. -/
structure SessionBare (w : World K) : Prop where
  opened : SessionOpen w
  unseen : w.ctl.fsm.customLowCmdSeen = false
  mailbox : w.ctl.mailbox.lowCmdMotors = []
  snap : match w.phase with
    | .idle => True
    | .snapped snap => snap.lowCmdMotors = []
    | .consumed snap => w.ctl.fsm.customEntryStep = true ∨ snap.lowCmdMotors = []

/-- The session is on its way, in at most one more step, or it is bare. -/
def LostInv (w : World K) (n : ℕ) : Prop :=
  SessionBare w ∨ (SessionOnItsWay w ∧ (1 ≤ n → match w.phase with
    | .idle => True
    | .snapped snap => snap.modeSeq = w.ctl.mailbox.modeSeq
    | .consumed _ => False))

variable {lm}

theorem LostInv.holdsEntry {w : World K} {n : ℕ} (hinv : LostInv w n) (e : Event K) :
    HoldsEntry lm (w, n) e := by
  intro s hout hn
  obtain ⟨snap, hphase, hctrl⟩ := ctrl_of_out lm hout
  rcases hinv with hbare | ⟨-, hlate⟩
  · have hsnap := hbare.snap
    rw [hphase] at hsnap
    rw [hctrl, law_of_unseen w.ctl snap hbare.opened.state hbare.unseen hsnap]
    rfl
  · have hnever := hlate hn
    rw [hphase] at hnever
    exact hnever.elim

theorem SessionBare.next {w : World K} (hbare : SessionBare w) (e : Event K) (he : Undisturbed e) :
    SessionBare ((world lm).next w e) := by
  have hopened : SessionOpen ((world lm).next w e) := hbare.opened.next e he
  obtain ⟨hopen, hunseen, hmotors, hsnap⟩ := hbare
  obtain ⟨c, d, ph⟩ := w
  rcases e with (_ | _ | _) | _ | _ | _
  case call.setHeadCommand => exact ⟨hopened, hunseen, hmotors, hsnap⟩
  case call.requestModeChange => exact he.elim
  case call.setLowCmd => exact he.elim
  case mjStep => rcases ph <;> exact ⟨hopened, hunseen, hmotors, hsnap⟩
  case reset => rcases ph <;> exact ⟨hopened, hunseen, hmotors, hsnap⟩
  case tick =>
    rcases ph with - | snap | snap
    case idle => exact ⟨hopened, hunseen, hmotors, hmotors⟩
    case snapped =>
      have hnone := hopen.enteredState_eq_none
      simp only [world, World.tick, consumeModeRequest_of_none lm c snap d hnone] at hopened ⊢
      exact ⟨hopened, hunseen, hmotors, .inr hsnap⟩
    case consumed =>
      have hmail := (actuate_keeps lm c snap d).2
      exact ⟨hopened, actuate_unseen lm c snap d hunseen hsnap, hmail ▸ hmotors, trivial⟩

/-- The snapshot that has the request opens a bare session; an earlier one leaves it on its way. -/
theorem SessionOnItsWay.consume {c : LocomotionController K} {d : MjData K}
    {snap : CommandSnapshot K} (hway : SessionOnItsWay ⟨c, d, .snapped snap⟩) {n : ℕ}
    (hlate : 1 ≤ n → snap.modeSeq = c.mailbox.modeSeq) :
    LostInv ((world lm).next ⟨c, d, .snapped snap⟩ .tick) n := by
  obtain ⟨hmode, hseq, hsnap⟩ := hway
  by_cases hlatest : snap.modeSeq = c.mailbox.modeSeq
  · -- the request is consumed here: the mailbox is cleared
    have hent : enteredState c snap = some .custom := by
      rw [enteredState, if_neg (hlatest ▸ hseq), hsnap snap rfl hlatest]
      exact hmode
    left
    simp only [world, World.tick, consumeModeRequest_of_custom lm c snap d hent]
    exact ⟨⟨rfl, if_pos hlatest.symm⟩, rfl, rfl, .inl rfl⟩
  · obtain ⟨-, hlast, _, hmail⟩ := consumeModeRequest_frame lm c snap d
    right
    simp only [world, World.tick]
    refine ⟨⟨?_, ?_, fun _ h => by cases h⟩, fun hn => hlatest (hlate hn)⟩
    · rw [hmail]
      exact hmode
    · rw [hmail, hlast]
      exact Ne.symm hlatest

theorem LostInv.next {w : World K} {n : ℕ} (hinv : LostInv w n) (e : Event K)
    (he : Undisturbed e) : LostInv ((world lm).next w e) (countSteps lm n w e) := by
  rcases hinv with hbare | ⟨hway, hlate⟩
  · exact .inl (hbare.next e he)
  obtain ⟨hmode, hseq, hsnap⟩ := hway
  obtain ⟨c, d, ph⟩ := w
  rcases e with (_ | _ | _) | _ | _ | _
  case call.setHeadCommand => exact .inr ⟨⟨hmode, hseq, hsnap⟩, hlate⟩
  case call.requestModeChange => exact he.elim
  case call.setLowCmd => exact he.elim
  case mjStep => rcases ph <;> exact .inr ⟨⟨hmode, hseq, hsnap⟩, hlate⟩
  case reset => rcases ph <;> exact .inr ⟨⟨hmode, hseq, hsnap⟩, hlate⟩
  case tick =>
    rcases ph with - | snap | snap
    case idle =>
      refine .inr ⟨⟨hmode, hseq, fun snap h _ => ?_⟩, fun _ => rfl⟩
      obtain rfl := Phase.snapped.inj h
      rfl
    case snapped => exact SessionOnItsWay.consume ⟨hmode, hseq, hsnap⟩ hlate
    case consumed =>
      obtain ⟨_, _, _, _, hact⟩ := actuate_frame lm c snap d
      right
      simp only [world, World.tick, hact]
      exact ⟨⟨hmode, hseq, fun _ h => by cases h⟩, fun _ => trivial⟩

variable (lm)

/-- **A LowCmd sent while the session is on its way is lost**: whatever it is, every step from the
second after it on holds the entry pose. -/
theorem lowCmd_lost {w : World K} (hway : SessionOnItsWay w) (cmdType : ℤ)
    (motors : List (MotorCmdData K)) {es : List (Event K)} (hquiet : ∀ e ∈ es, Undisturbed e) :
    ((world lm).withHistory (countSteps lm)).Always (HoldsEntry lm)
      ((world lm).next w (.call (.setLowCmd cmdType motors)), 0) es := by
  have hsent : LostInv ((world lm).next w (.call (.setLowCmd cmdType motors))) 0 :=
    .inr ⟨⟨hway.mode, hway.mailbox, hway.snapshot⟩, nofun⟩
  let Inv (p : World K × ℕ) : Prop := LostInv p.1 p.2
  exact Machine.always_of_invariant_of _ (fun p e (hinv : Inv p) => LostInv.holdsEntry hinv e)
    (fun p e he hinv => LostInv.next hinv e he) es (_, 0) hquiet hsent

end LocomotionController

end K1Sim
