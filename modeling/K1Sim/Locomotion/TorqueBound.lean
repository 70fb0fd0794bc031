import K1Sim.Locomotion.ControlLaw

/-!
# Locomotion/TorqueBound — the controls stay in the force ranges

Every law writes limited torques or leaves a control as it was, so the bound is an invariant.  It is
lost only to a torque that is not a number, which no clamp holds: the blend into PREPARE divides by
its duration.  `torquesBounded_iff` says along which runs the bound is kept.
-/

namespace K1Sim

open Foundations

namespace LocomotionController

variable {K : Type*} [Field K] [LinearOrder K]

/-- The law writes this joint's control. -/
def Law.Writes : Law K → Fin jointCount → Prop
  | .limp, _ | .hold _, _ => True
  | .servo motors, i => i.val < motors.length

instance (l : Law K) (i : Fin jointCount) : Decidable (l.Writes i) :=
  match l with
  | .limp | .hold _ => .isTrue trivial
  | .servo motors => inferInstanceAs (Decidable (i.val < motors.length))

/-- The torque that a step computes for this joint is not a number: the blend is at its start and
takes no time, and the joint follows it.  No comparison of a clamp turns it into one. -/
def TorqueUndefined (c : LocomotionController K) (time : K) (i : Fin jointCount) : Prop :=
  c.fsm.state = .prepare ∧ frac? (time - c.fsm.prepareStartTime) c.cfg.prepareBlendTime = none
    ∧ ¬ IsHeadJoint i

instance (c : LocomotionController K) (time : K) (i : Fin jointCount) :
    Decidable (TorqueUndefined c time i) :=
  inferInstanceAs (Decidable (_ ∧ _ ∧ _))

/-- The history variable: the joints whose last control is not a number. -/
def noteUndefined (undefined : Fin jointCount → Bool) (w : World K) :
    Event K → Fin jointCount → Bool
  | .call _ => undefined
  | .tick =>
    match w.phase with
    | .consumed snap => fun i =>
      if (law w.ctl snap w.data.time).Writes i then decide (TorqueUndefined w.ctl w.data.time i)
      else undefined i
    | _ => undefined
  | .mjStep _ => undefined
  | .reset _ _ =>
    match w.phase with
    | .idle => fun _ => false
    | _ => undefined

variable (lm : LoadedModel K)

/-- The controls of the force-limited joints are numbers in their force ranges. -/
def ControlsInRange (ctrl : JointArray K) (undefined : Fin jointCount → Bool) : Prop :=
  ∀ i, lm.model.actuatorForcelimited (lm.map.actId i) = true →
    undefined i = false ∧ lm.model.InForceRange (lm.map.actId i) (ctrl i)

/-- What a `step` leaves behind is in range. -/
def TorquesBounded [Libc K] (p : World K × (Fin jointCount → Bool)) (e : Event K) : Prop :=
  ∀ s, (world lm).out p.1 e = some s → ControlsInRange lm s.ctrl (noteUndefined p.2 p.1 e)

/-- No `step` in PREPARE with a blend of no time falls on the time of PREPARE entry, unless no joint
of the body is force-limited. -/
def BlendDefined (p : World K × (Fin jointCount → Bool)) (e : Event K) : Prop :=
  ∀ snap, e = .tick → p.1.phase = .consumed snap → p.1.ctl.fsm.state = .prepare →
    p.1.ctl.cfg.prepareBlendTime = 0 → p.1.data.time = p.1.ctl.fsm.prepareStartTime →
      ∀ i, ¬ IsHeadJoint i → lm.model.actuatorForcelimited (lm.map.actId i) = false

variable {lm}

/-- **A law keeps the controls in range.** -/
theorem Law.inForceRange_ctrl (hzero : ∀ i, lm.model.InForceRange (lm.map.actId i) 0)
    (pd : PdController K) (d : MjData K) (l : Law K) {last : JointArray K} {i : Fin jointCount}
    (hlast : lm.model.InForceRange (lm.map.actId i) (last i)) :
    lm.model.InForceRange (lm.map.actId i) (l.ctrl lm pd d last i) := by
  rcases l with - | qRef | motors
  case limp => exact hzero i
  case hold => exact MjModel.inForceRange_limitForce (hzero i) _
  case servo =>
    simp only [Law.ctrl]
    split
    · exact MjModel.inForceRange_limitForce (hzero i) _
    · exact hlast

theorem torqueUndefined_iff {c : LocomotionController K} {time : K} {i : Fin jointCount} :
    TorqueUndefined c time i
      ↔ c.fsm.state = .prepare ∧ (c.cfg.prepareBlendTime = 0 ∧ time = c.fsm.prepareStartTime)
        ∧ ¬ IsHeadJoint i := by
  rw [TorqueUndefined, frac?_eq_none_iff, sub_eq_zero]

/-- A joint of the body in PREPARE is written whatever the snapshot. -/
theorem writes_of_prepare {c : LocomotionController K} (hstate : c.fsm.state = .prepare)
    (snap : CommandSnapshot K) (time : K) (i : Fin jointCount) :
    (law c snap time).Writes i := by
  rw [law, hstate]
  exact trivial

/-- A control is undefined after a step if the step wrote it so, or left it so. -/
theorem noteUndefined_eq_true_iff {undefined : Fin jointCount → Bool} {w : World K}
    {snap : CommandSnapshot K} (hphase : w.phase = .consumed snap) (i : Fin jointCount) :
    noteUndefined undefined w .tick i = true
      ↔ TorqueUndefined w.ctl w.data.time i
        ∨ ¬ (law w.ctl snap w.data.time).Writes i ∧ undefined i = true := by
  simp only [noteUndefined, hphase]
  split_ifs with hwrites
  · simp [hwrites]
  · have hnot : ¬ TorqueUndefined w.ctl w.data.time i :=
      fun h => hwrites (writes_of_prepare h.1 snap _ i)
    simp [hwrites, hnot]

variable [Libc K]

/-- **A step leaves the controls in range exactly when its blend is defined.** -/
theorem torquesBounded_step_iff (hzero : ∀ i, lm.model.InForceRange (lm.map.actId i) 0)
    {p : World K × (Fin jointCount → Bool)} (hinv : ControlsInRange lm (jointCtrl lm p.1.data) p.2)
    (e : Event K) : TorquesBounded lm p e ↔ BlendDefined lm p e := by
  constructor
  · rintro hbounded snap rfl hphase hstate hblend htime i hbody
    by_contra hlimited
    have hout := (out_eq_some_iff lm).mpr ⟨rfl, ⟨snap, hphase⟩, rfl⟩
    obtain ⟨hnumber, -⟩ := hbounded _ hout i (Bool.eq_true_of_not_eq_false hlimited)
    have hundefined : TorqueUndefined p.1.ctl p.1.data.time i :=
      torqueUndefined_iff.mpr ⟨hstate, ⟨hblend, htime⟩, hbody⟩
    have hnoted : noteUndefined p.2 p.1 .tick i = true :=
      (noteUndefined_eq_true_iff hphase i).mpr (.inl hundefined)
    exact absurd (hnoted.symm.trans hnumber) (by simp)
  · rintro hdefined s hout i hlimited
    obtain ⟨rfl, -, -⟩ := (out_eq_some_iff lm).mp hout
    obtain ⟨snap, hphase, hctrl⟩ := ctrl_of_out lm hout
    obtain ⟨hnumber, hrange⟩ := hinv i hlimited
    constructor
    · refine Bool.eq_false_iff.mpr fun hnoted => ?_
      rcases (noteUndefined_eq_true_iff hphase i).mp hnoted with hundefined | ⟨-, hbefore⟩
      · obtain ⟨hstate, ⟨hblend, htime⟩, hbody⟩ := torqueUndefined_iff.mp hundefined
        have hfree := hdefined snap rfl hphase hstate hblend htime i hbody
        exact absurd (hlimited.symm.trans hfree) (by simp)
      · exact absurd (hbefore.symm.trans hnumber) (by simp)
    · rw [hctrl]
      exact Law.inForceRange_ctrl hzero _ _ _ hrange

/-- A reset to a keyframe has zero controls. -/
def ResetsAtRest (e : Event K) : Prop := ∀ obs ctrl, e = .reset obs ctrl → ∀ act, ctrl act = 0

omit [Libc K] in
theorem controlsInRange_of_zero (hzero : ∀ i, lm.model.InForceRange (lm.map.actId i) 0)
    {d : MjData K} (hctrl : ∀ act, d.ctrl act = 0) :
    ControlsInRange lm (jointCtrl lm d) fun _ => false := by
  intro i _
  refine ⟨rfl, ?_⟩
  rw [jointCtrl, hctrl]
  exact hzero i

/-- The bound is kept by every move. -/
theorem controlsInRange_next (hzero : ∀ i, lm.model.InForceRange (lm.map.actId i) 0)
    {p : World K × (Fin jointCount → Bool)} {e : Event K} (hrest : ResetsAtRest e)
    (hinv : ControlsInRange lm (jointCtrl lm p.1.data) p.2) (hbounded : TorquesBounded lm p e) :
    ControlsInRange lm (jointCtrl lm ((world lm).next p.1 e).data) (noteUndefined p.2 p.1 e) := by
  obtain ⟨⟨c, d, ph⟩, undefined⟩ := p
  rcases e with call | - | obs | ⟨obs, ctrl⟩
  case call =>
    rw [next_call]
    exact hinv
  case mjStep => rcases ph <;> exact hinv
  case reset =>
    rcases ph
    case idle => exact controlsInRange_of_zero hzero (hrest obs ctrl rfl)
    all_goals exact hinv
  case tick =>
    rcases ph
    case consumed snap => exact hbounded _ ((out_eq_some_iff lm).mpr ⟨rfl, ⟨snap, rfl⟩, rfl⟩)
    all_goals exact hinv

/-- **Every step leaves the controls in range exactly along the runs whose blends are defined.** -/
theorem torquesBounded_iff (hzero : ∀ i, lm.model.InForceRange (lm.map.actId i) 0)
    (c : LocomotionController K) {d : MjData K} (hctrl : ∀ act, d.ctrl act = 0)
    {es : List (Event K)} (hrest : ∀ e ∈ es, ResetsAtRest e) :
    ((world lm).withHistory noteUndefined).Always (TorquesBounded lm)
        ({ ctl := c, data := d }, fun _ => false) es
      ↔ ((world lm).withHistory noteUndefined).Always (BlendDefined lm)
        ({ ctl := c, data := d }, fun _ => false) es := by
  refine Machine.always_iff_always_of _
    (fun (p : World K × (Fin jointCount → Bool)) e
        (hinv : ControlsInRange lm (jointCtrl lm p.1.data) p.2) =>
      torquesBounded_step_iff hzero hinv e)
    (fun p e hrest hinv hbounded => controlsInRange_next hzero hrest hinv hbounded) es _ hrest ?_
  exact controlsInRange_of_zero hzero hctrl

/-- **A blend that takes time is defined along every run.** -/
theorem blendDefined_of_blend_ne_zero {c : LocomotionController K}
    (hblend : c.cfg.prepareBlendTime ≠ 0) (d : MjData K) (undefined : Fin jointCount → Bool)
    (es : List (Event K)) :
    ((world lm).withHistory noteUndefined).Always (BlendDefined lm)
      ({ ctl := c, data := d }, undefined) es := by
  refine Machine.always_of_invariant _
    (fun p e (hinv : p.1.ctl.cfg.prepareBlendTime ≠ 0) snap _ _ _ hzero => absurd hzero hinv)
    (fun p e hinv => ?_) es _ hblend
  have hcfg := run_cfg lm [e] p.1
  rw [Machine.run_cons, Machine.run_nil] at hcfg
  exact hcfg.symm ▸ hinv

/-! ## A K1 with limited motors -/

/-- The bare K1, its motors limited to 30 Nm either way. -/
def k1Limited : LoadedModel ℚ where
  model :=
    { k1Scene 0 with
      actuatorForcelimited := fun _ => true
      actuatorForcerange := fun place => if place % 2 = 0 then -30 else 30 }
  map := k1Map
  built := (k1Plant 0).built

theorem k1Limited_inForceRange_zero (act : ℕ) : k1Limited.model.InForceRange act 0 := by
  intro _
  have hlo : 2 * act % 2 = 0 := by omega
  have hhi : (2 * act + 1) % 2 ≠ 0 := by omega
  simp only [k1Limited, if_pos hlo, if_neg hhi]
  exact ⟨by decide +kernel, by decide +kernel⟩

/-- A stand, a reset, and a session of CUSTOM that is sent one motor, and then a PARALLEL command:
in range throughout. -/
theorem torquesBounded_k1Limited :
    ((world k1Limited).withHistory noteUndefined).Always (TorquesBounded k1Limited)
      ({ ctl := { cfg := Config.ofYaml {} {} }, data := k1Upright }, fun _ => false)
      [.call (.requestModeChange 1), .tick, .tick, .tick, .mjStep uprightObs,
        .reset uprightObs k1Upright.ctrl, .call (.requestModeChange 3), .tick, .tick, .tick,
        .call (.setLowCmd 1 [⟨0, 1, 0, 1000, 0, 0, 0⟩]), .tick, .tick, .tick,
        .call (.setLowCmd 0 []), .tick, .tick, .tick] := by
  refine (torquesBounded_iff (fun i => k1Limited_inForceRange_zero _) _ (fun _ => rfl) ?_).mpr
    (blendDefined_of_blend_ne_zero (by decide +kernel) _ _ _)
  rintro e he obs ctrl rfl act
  obtain ⟨-, rfl⟩ : obs = uprightObs ∧ ctrl = k1Upright.ctrl := by simpa using he
  rfl

/-- A blend of no time: the first step of a controller that boots into PREPARE leaves the joints of
the body with controls that are not numbers. -/
theorem not_torquesBounded :
    ∃ c, ofYaml { prepareBlendTime := some (0 : ℚ) } {} = .ok c
      ∧ ¬ ((world k1Limited).withHistory noteUndefined).Always (TorquesBounded k1Limited)
        ({ ctl := c, data := k1Upright }, fun _ => false) [.tick, .tick, .tick] := by
  refine ⟨_, rfl, ?_⟩
  rintro ⟨-, -, hlast, -⟩
  obtain ⟨hnumber, -⟩ := hlast _ rfl JointIndexK1.leftHipPitch rfl
  exact absurd hnumber (by decide +kernel)

end LocomotionController

end K1Sim
