import K1Sim.Locomotion.Unwinding

/-!
# Locomotion/CustomSession — what drives the joints in CUSTOM

Old commands do not: two runs that differ in what was commanded before the mailbox is cleared on
entry to CUSTOM write the same joint controls from the entry step on, and until a LowCmd of the
session is in a step's snapshot those controls hold the pose of entry
(`customSession_noninterference`).
-/

namespace K1Sim

open Foundations

namespace LocomotionController

variable {K : Type*} [Field K] [LinearOrder K]

/-- The next part of the `step` under way enters CUSTOM and clears the mailbox. -/
def EntersCustom (w : World K) : Prop :=
  ∃ snap, w.phase = .snapped snap ∧ enteredState w.ctl snap = some .custom

/-- What has become of a CUSTOM session: whether a snapshot taken since the clear had a LowCmd, and
whether another state, or CUSTOM again, has been entered. -/
structure SessionRun where
  commanded : Bool := false
  ended : Bool := false

/-- The history variable of a session. -/
def SessionRun.note (h : SessionRun) (w : World K) : Event K → SessionRun
  | .tick =>
    match w.phase with
    | .idle => { h with commanded := h.commanded || !w.ctl.mailbox.lowCmdMotors.isEmpty }
    | .snapped snap => { h with ended := h.ended || (enteredState w.ctl snap).isSome }
    | .consumed _ => h
  | _ => h

variable [Libc K] (lm : LoadedModel K)

/-- Each `step` of the session writes the clamped PD hold of a pose, until a LowCmd of the session
is in its snapshot. -/
def HoldsPose (pd : PdController K) (pose : JointArray K) (p : World K × SessionRun)
    (e : Event K) : Prop :=
  ∀ s, (world lm).out p.1 e = some s → p.2.ended = false → p.2.commanded = false →
    s.ctrl = pd.torque lm.model p.1.data lm.map pose (fun _ => 0) (fun _ => 0)

/-- A session without a LowCmd is in its entry step or has seen nothing. -/
structure HoldInv (pd : PdController K) (pose : JointArray K) (w : World K) (h : SessionRun) :
    Prop where
  gains : w.ctl.cfg.pd = pd
  session : h.ended = false → h.commanded = false →
    w.ctl.fsm.state = .custom ∧ w.ctl.fsm.customEntryPose = pose
      ∧ w.ctl.fsm.customLowCmdSeen = false
      ∧ match w.phase with
        | .idle => True
        | .snapped snap => snap.lowCmdMotors = []
        | .consumed snap => w.ctl.fsm.customEntryStep = true ∨ snap.lowCmdMotors = []

variable {lm}

theorem HoldInv.holdsPose {pd : PdController K} {pose : JointArray K} {w : World K}
    {h : SessionRun} (hinv : HoldInv pd pose w h) (e : Event K) :
    HoldsPose lm pd pose (w, h) e := by
  intro s hout hended hcommanded
  obtain ⟨snap, hphase, hctrl⟩ := ctrl_of_out lm hout
  obtain ⟨hstate, hpose, hunseen, hsnap⟩ := hinv.session hended hcommanded
  rw [hphase] at hsnap
  rw [hctrl, law_of_unseen w.ctl snap hstate hunseen hsnap, hpose, hinv.gains]
  rfl

/-- A snapshot without a LowCmd. -/
theorem HoldInv.snapshot {pd : PdController K} {pose : JointArray K} {c : LocomotionController K}
    {d : MjData K} {h : SessionRun} (hinv : HoldInv pd pose ⟨c, d, .idle⟩ h) :
    HoldInv pd pose ((world lm).next ⟨c, d, .idle⟩ .tick) (h.note ⟨c, d, .idle⟩ .tick) := by
  refine ⟨hinv.gains, fun hended hcommanded => ?_⟩
  obtain ⟨hbefore, hempty⟩ := Bool.or_eq_false_iff.mp hcommanded
  obtain ⟨hstate, hpose, hunseen, -⟩ := hinv.session hended hbefore
  have hnil : c.mailbox.lowCmdMotors = [] := by simpa using hempty
  exact ⟨hstate, hpose, hunseen, hnil⟩

/-- Any state entered ends the session. -/
theorem HoldInv.consume {pd : PdController K} {pose : JointArray K} {c : LocomotionController K}
    {d : MjData K} {snap : CommandSnapshot K} {h : SessionRun}
    (hinv : HoldInv pd pose ⟨c, d, .snapped snap⟩ h) :
    HoldInv pd pose ((world lm).next ⟨c, d, .snapped snap⟩ .tick)
      (h.note ⟨c, d, .snapped snap⟩ .tick) := by
  have hcfg := (consumeModeRequest_frame lm c snap d).1
  refine ⟨(congrArg Config.pd hcfg).trans hinv.gains, fun hended hcommanded => ?_⟩
  obtain ⟨hbefore, hstays⟩ := Bool.or_eq_false_iff.mp hended
  have hnone : enteredState c snap = none := by simpa using hstays
  obtain ⟨hstate, hpose, hunseen, hempty⟩ := hinv.session hbefore hcommanded
  simp only [world, World.tick, consumeModeRequest_of_none lm c snap d hnone]
  exact ⟨hstate, hpose, hunseen, .inr hempty⟩

/-- A step that sees no LowCmd. -/
theorem HoldInv.actuate {pd : PdController K} {pose : JointArray K} {c : LocomotionController K}
    {d : MjData K} {snap : CommandSnapshot K} {h : SessionRun}
    (hinv : HoldInv pd pose ⟨c, d, .consumed snap⟩ h) :
    HoldInv pd pose ((world lm).next ⟨c, d, .consumed snap⟩ .tick)
      (h.note ⟨c, d, .consumed snap⟩ .tick) := by
  have hcfg := (actuate_keeps lm c snap d).1
  refine ⟨(congrArg Config.pd hcfg).trans hinv.gains, fun hended hcommanded => ?_⟩
  obtain ⟨hstate, hpose, hunseen, hsnap⟩ := hinv.session hended hcommanded
  have hunseen' := actuate_unseen lm c snap d hunseen hsnap
  obtain ⟨_, _, _, _, hact⟩ := actuate_frame lm c snap d
  refine ⟨?_, ?_, hunseen', trivial⟩
  · simp only [world, World.tick, hact]
    exact hstate
  · simp only [world, World.tick, hact]
    exact hpose

theorem HoldInv.next {pd : PdController K} {pose : JointArray K} {w : World K}
    {h : SessionRun} (hinv : HoldInv pd pose w h) (e : Event K) :
    HoldInv pd pose ((world lm).next w e) (h.note w e) := by
  obtain ⟨c, d, ph⟩ := w
  rcases e with call | - | obs | ⟨obs, ctrl⟩
  case call =>
    rw [next_call]
    exact ⟨hinv.gains, hinv.session⟩
  case mjStep => rcases ph <;> exact ⟨hinv.gains, hinv.session⟩
  case reset => rcases ph <;> exact ⟨hinv.gains, hinv.session⟩
  case tick =>
    rcases ph with - | snap | snap
    case idle => exact hinv.snapshot
    case snapped => exact hinv.consume
    case consumed => exact hinv.actuate

/-- The clear opens a session that holds the pose it is made in. -/
theorem HoldInv.atClear {w : World K} (h : EntersCustom w) :
    HoldInv w.ctl.cfg.pd (currentQ lm w.data) ((world lm).next w .tick) {} := by
  obtain ⟨c, d, ph⟩ := w
  obtain ⟨snap, rfl, hent⟩ := h
  simp only [world, World.tick, consumeModeRequest_of_custom lm c snap d hent]
  exact ⟨rfl, fun _ _ => ⟨rfl, rfl, rfl, .inl rfl⟩⟩

variable (lm)

/-- **Stale LowCmds never drive a CUSTOM session.**  Take two runs that differ, up to the moment
the mailbox is cleared on entry to CUSTOM, in the LowCmds sent and the controls written, and from
then on see the same joints and the same calls.  The second run enters CUSTOM where the first does,
the controls they write from then on are the same, and until a step's snapshot has a LowCmd of the
session they hold the pose of entry. -/
theorem customSession_noninterference (c : LocomotionController K) {d d' : MjData K}
    (hd : SameJoints lm d d') {es es' : List (Event K)}
    (halike : es.filterMap (beforeClear lm) = es'.filterMap (beforeClear lm))
    (henter : EntersCustom ((world lm).run { ctl := c, data := d } es)) {gs gs' : List (Event K)}
    (hsince : List.Forall₂ (fun e f => sinceClear lm e = sinceClear lm f) gs gs') :
    let w := (world lm).run { ctl := c, data := d } es
    let w' := (world lm).run { ctl := c, data := d' } es'
    EntersCustom w'
      ∧ ((world lm).trace ((world lm).next w .tick) gs).map Sample.ctrl
        = ((world lm).trace ((world lm).next w' .tick) gs').map Sample.ctrl
      ∧ ((world lm).withHistory SessionRun.note).Always
        (HoldsPose lm c.cfg.pd (currentQ lm w.data)) ((world lm).next w .tick, {}) gs := by
  intro w w'
  have hstart : SameButLowCmd lm { ctl := c, data := d } { ctl := c, data := d' } :=
    ⟨rfl, ⟨rfl, rfl, rfl, rfl, rfl, rfl, rfl⟩, ⟨rfl, rfl, rfl, rfl⟩, .idle, hd⟩
  have hclear : SameButLowCmd lm w w' := hstart.run halike
  have hgains : w.ctl.cfg.pd = c.cfg.pd := congrArg Config.pd (run_cfg lm es _)
  have henter : EntersCustom w := henter
  have hhold : HoldInv w.ctl.cfg.pd (currentQ lm w.data) ((world lm).next w .tick) {} :=
    HoldInv.atClear henter
  rw [hgains] at hhold
  clear_value w w'
  refine ⟨?enters, ?same, ?holds⟩
  case holds =>
    let Inv (p : World K × SessionRun) : Prop := HoldInv c.cfg.pd (currentQ lm w.data) p.1 p.2
    exact Machine.always_of_invariant _ (fun p e (hinv : Inv p) => HoldInv.holdsPose hinv e)
      (fun p e hinv => HoldInv.next hinv e) gs (_, {}) hhold
  all_goals
    obtain ⟨c₁, d₁, ph⟩ := w
    obtain ⟨c₂, d₂, ph'⟩ := w'
    obtain ⟨snap, rfl, hent⟩ := henter
    obtain ⟨snap', rfl⟩ := hclear.phase.exists_snapped
  case enters =>
    have hs : SameOrders snap snap' := hclear.phase.of_snapped
    exact ⟨snap', rfl, (hs.enteredState hclear.fsm).symm.trans hent⟩
  case same =>
    exact (world lm).trace_map_eq_of_rel Sample.ctrl (fun _ _ _ _ hef h => h.out hef)
      (fun _ _ _ _ hef h => h.next hef) hsince (hclear.clear hent)

/-- A LowCmd left over from before the request, and one sent between the snapshot and the clear by
a client that never sent the first: the sessions are the same. -/
theorem customSession_noninterference_leftover :
    let c : LocomotionController ℚ := { cfg := Config.ofYaml {} {} }
    let swing : MotorCmdData ℚ := ⟨0, 1, 0, 5, 40, 1, 0⟩
    let es := [.call (.setLowCmd 1 [swing]), .call (.requestModeChange 3), .tick]
    let es' := [.call (.requestModeChange 3), .tick, .call (.setLowCmd 0 [])]
    let session := [.tick, .tick, .call (.setLowCmd 1 [swing]), .tick, .tick, .tick, .tick, .tick]
    let w := (world (k1Plant 1)).run { ctl := c, data := k1Upright } es
    let w' := (world (k1Plant 1)).run
      { ctl := c, data := { k1Upright with ctrl := fun _ => 7 } } es'
    ((world (k1Plant 1)).trace ((world (k1Plant 1)).next w .tick) session).map Sample.ctrl
      = ((world (k1Plant 1)).trace ((world (k1Plant 1)).next w' .tick) session).map
        Sample.ctrl := by
  intro c swing es es' session w w'
  have hjoints : SameJoints (k1Plant 1) k1Upright { k1Upright with ctrl := fun _ => 7 } :=
    ⟨rfl, fun _ => rfl, fun _ => rfl⟩
  have hlike : List.Forall₂ (fun e f => sinceClear (k1Plant 1) e = sinceClear (k1Plant 1) f)
      session session := List.forall₂_same.mpr fun _ _ => rfl
  have henter : EntersCustom ((world (k1Plant 1)).run { ctl := c, data := k1Upright } es) :=
    ⟨_, rfl, rfl⟩
  have halike :
      es.filterMap (beforeClear (k1Plant 1)) = es'.filterMap (beforeClear (k1Plant 1)) := rfl
  obtain ⟨-, hsame, -⟩ :=
    customSession_noninterference (k1Plant 1) c hjoints halike henter hlike
  exact hsame

end LocomotionController

end K1Sim
