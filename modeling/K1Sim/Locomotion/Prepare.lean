import K1Sim.Locomotion.World

/-!
# Locomotion/Prepare — when PREPARE holds the ready pose

The blend is timed against the simulation clock at PREPARE entry, and a reset rewinds that clock
but not the entry time.  `prepare_holdsReady_iff` says along which runs the blend has nevertheless
arrived once `prepare_blend_time` has been run through.
-/

namespace K1Sim

open Foundations

namespace LocomotionController

section Reference

variable {K : Type*} [Field K] [LinearOrder K]

theorem applyHeadTarget_of_not_head (qRef : JointArray K) (pitch yaw : K) {i : Fin jointCount}
    (hi : ¬ IsHeadJoint i) : applyHeadTarget qRef pitch yaw i = qRef i := by
  obtain ⟨hyaw, hpitch⟩ := not_or.mp hi
  rw [applyHeadTarget, Function.update_of_ne hyaw, Function.update_of_ne hpitch]

/-- **The reference of the body is the ready pose once the blend time is over on the controller's
clock**, and before that only if the body started there. -/
theorem prepareReference_eq_ready_iff [IsStrictOrderedRing K] (c : LocomotionController K)
    (snap : CommandSnapshot K) (time : K) (hblend : 0 < c.cfg.prepareBlendTime) :
    (∀ i, ¬ IsHeadJoint i → prepareReference c snap time i = c.cfg.readyPose i)
      ↔ c.cfg.prepareBlendTime ≤ time - c.fsm.prepareStartTime
        ∨ ∀ i, ¬ IsHeadJoint i → c.fsm.prepareStartPose i = c.cfg.readyPose i := by
  rw [← smoothstep_frac_eq_one_iff hblend]
  have hone : ∀ i, ¬ IsHeadJoint i →
      (prepareReference c snap time i = c.cfg.readyPose i
        ↔ c.fsm.prepareStartPose i = c.cfg.readyPose i
          ∨ smoothstep
              ((frac? (time - c.fsm.prepareStartTime) c.cfg.prepareBlendTime).getD 0) = 1) := by
    intro i hi
    rw [prepareReference, applyHeadTarget_of_not_head _ _ _ hi, lerp_eq_right_iff]
  constructor
  · intro h
    refine or_iff_not_imp_left.mpr fun hs i hi => ?_
    exact ((hone i hi).mp (h i hi)).resolve_right hs
  · rintro (hs | hstart) i hi
    · exact (hone i hi).mpr (.inr hs)
    · exact (hone i hi).mpr (.inl (hstart i hi))

end Reference

/-! ## Runs -/

/-- What has happened since PREPARE was last entered: when and in which pose that was, whether the
simulation has been reset since, and the time it has run since the later of the two. -/
structure PrepareRun (K : Type*) where
  entryTime : K
  entryPose : JointArray K
  rewound : Bool
  elapsed : K

variable {K : Type*} [Field K] [LinearOrder K] (lm : LoadedModel K)

/-- The history variable: entering PREPARE starts it, a reset and the physics steps move it on. -/
def PrepareRun.note (h : PrepareRun K) (w : World K) : Event K → PrepareRun K
  | .call _ => h
  | .tick =>
    match w.phase with
    | .snapped snap =>
      if enteredState w.ctl snap = some .prepare then
        { entryTime := w.data.time
          entryPose := currentQ lm w.data
          rewound := false
          elapsed := 0 }
      else h
    | _ => h
  | .mjStep _ =>
    match w.phase with
    | .idle => { h with elapsed := h.elapsed + lm.model.optTimestep }
    | _ => h
  | .reset _ _ =>
    match w.phase with
    | .idle => { h with rewound := true, elapsed := 0 }
    | _ => h

/-- The history of the PREPARE session is true of the controller and the clock. -/
structure PrepareInv (blend : K) (w : World K) (h : PrepareRun K) : Prop where
  blend_eq : w.ctl.cfg.prepareBlendTime = blend
  session : w.ctl.fsm.state = .prepare →
    w.ctl.fsm.prepareStartTime = h.entryTime ∧ w.ctl.fsm.prepareStartPose = h.entryPose
      ∧ w.data.time = (if h.rewound then 0 else h.entryTime) + h.elapsed

/-- Each `step` in PREPARE, once the blend time has been run through since PREPARE was entered and
since the latest reset, refers the body to the ready pose. -/
def HoldsReady (p : World K × PrepareRun K) (e : Event K) : Prop :=
  ∀ snap, e = .tick → p.1.phase = .consumed snap → p.1.ctl.fsm.state = .prepare →
    p.1.ctl.cfg.prepareBlendTime ≤ p.2.elapsed →
      ∀ i, ¬ IsHeadJoint i →
        prepareReference p.1.ctl snap p.1.data.time i = p.1.ctl.cfg.readyPose i

/-- Each such `step` either comes before any reset, or as late after the latest one as PREPARE was
entered and the blend time more, or the body was in the ready pose when PREPARE was entered. -/
def EntryTimeRegained (p : World K × PrepareRun K) (e : Event K) : Prop :=
  ∀ snap, e = .tick → p.1.phase = .consumed snap → p.1.ctl.fsm.state = .prepare →
    p.1.ctl.cfg.prepareBlendTime ≤ p.2.elapsed →
      p.2.rewound = false ∨ p.2.entryTime + p.1.ctl.cfg.prepareBlendTime ≤ p.2.elapsed
        ∨ ∀ i, ¬ IsHeadJoint i → p.2.entryPose i = p.1.ctl.cfg.readyPose i

theorem PrepareInv.holdsReady_iff [IsStrictOrderedRing K] {blend : K} (hblend : 0 < blend)
    {w : World K} {h : PrepareRun K} (hinv : PrepareInv blend w h) (e : Event K) :
    HoldsReady (w, h) e ↔ EntryTimeRegained (w, h) e := by
  refine forall_congr' fun snap => imp_congr_right fun _ => imp_congr_right fun _ => ?_
  refine imp_congr_right fun hstate => imp_congr_right fun helapsed => ?_
  obtain ⟨htime, hpose, hclock⟩ := hinv.session hstate
  rw [prepareReference_eq_ready_iff _ _ _ (hinv.blend_eq ▸ hblend), htime, hpose, hclock]
  rcases hrewound : h.rewound with - | -
  case false =>
    have hpassed : w.ctl.cfg.prepareBlendTime
        ≤ (if false then 0 else h.entryTime) + h.elapsed - h.entryTime := by
      simpa using helapsed
    exact iff_of_true (.inl hpassed) (.inl rfl)
  case true => simp [le_sub_iff_add_le, add_comm]

variable [Libc K]

/-- A request starts a session of PREPARE, ends one, or leaves it as it was. -/
theorem PrepareInv.consume {blend : K} {c : LocomotionController K} {d : MjData K}
    {snap : CommandSnapshot K} {h : PrepareRun K}
    (hinv : PrepareInv blend ⟨c, d, .snapped snap⟩ h) :
    PrepareInv blend ((world lm).next ⟨c, d, .snapped snap⟩ .tick)
      (h.note lm ⟨c, d, .snapped snap⟩ .tick) := by
  obtain ⟨hblend, hsession⟩ := hinv
  simp only [world, World.tick, PrepareRun.note]
  rcases hent : enteredState c snap with - | - | - | -
  case none =>
    rw [consumeModeRequest_of_none lm c snap d hent]
    exact ⟨hblend, hsession⟩
  case some.damping =>
    rw [consumeModeRequest_of_damping lm c snap d hent]
    exact ⟨hblend, fun hstate => absurd hstate (by simp)⟩
  case some.prepare =>
    rw [consumeModeRequest_of_prepare lm c snap d hent]
    exact ⟨hblend, fun _ => ⟨rfl, rfl, (add_zero d.time).symm⟩⟩
  case some.custom =>
    rw [consumeModeRequest_of_custom lm c snap d hent]
    exact ⟨hblend, fun hstate => absurd hstate (by simp)⟩

theorem PrepareInv.next {blend : K} {w : World K} {h : PrepareRun K} (hinv : PrepareInv blend w h)
    (e : Event K) : PrepareInv blend ((world lm).next w e) (h.note lm w e) := by
  obtain ⟨c, d, ph⟩ := w
  have hblend := hinv.blend_eq
  have hsession := hinv.session
  rcases e with call | - | obs | ⟨obs, ctrl⟩
  case call =>
    rw [next_call]
    exact ⟨hblend, hsession⟩
  case mjStep =>
    rcases ph with - | snap | snap
    case idle =>
      refine ⟨hblend, fun hstate => ?_⟩
      obtain ⟨htime, hpose, hclock⟩ := hsession hstate
      refine ⟨htime, hpose, ?_⟩
      change d.time + _ = (if h.rewound then 0 else h.entryTime) + (h.elapsed + _)
      rw [← add_assoc, ← hclock]
    all_goals exact ⟨hblend, hsession⟩
  case reset =>
    rcases ph with - | snap | snap
    case idle =>
      refine ⟨hblend, fun hstate => ?_⟩
      obtain ⟨htime, hpose, -⟩ := hsession hstate
      exact ⟨htime, hpose, (add_zero 0).symm⟩
    all_goals exact ⟨hblend, hsession⟩
  case tick =>
    rcases ph with - | snap | snap
    case idle => exact ⟨hblend, hsession⟩
    case snapped => exact hinv.consume lm
    case consumed =>
      obtain ⟨_, _, _, _, hact⟩ := actuate_frame lm c snap d
      simp only [world, World.tick, hact]
      exact ⟨hblend, hsession⟩

/-- **PREPARE reaches and holds the ready pose exactly along the runs that regain the entry
time**: after a reset the controller waits for the rewound clock to pass the moment of PREPARE
entry before it starts to blend. -/
theorem prepare_holdsReady_iff [IsStrictOrderedRing K] {locomotion : LocomotionYaml K}
    {gains : GainsYaml K} {c : LocomotionController K} (h : ofYaml locomotion gains = .ok c)
    (hblend : 0 < c.cfg.prepareBlendTime) (d : MjData K) (run : PrepareRun K)
    (es : List (Event K)) :
    ((world lm).withHistory (PrepareRun.note lm)).Always HoldsReady
        ({ ctl := c, data := d }, run) es
      ↔ ((world lm).withHistory (PrepareRun.note lm)).Always EntryTimeRegained
        ({ ctl := c, data := d }, run) es := by
  have hboot : PrepareInv c.cfg.prepareBlendTime ({ ctl := c, data := d } : World K) run :=
    ⟨rfl, fun hstate => absurd ((ofYaml_fsm h) ▸ hstate) (by simp)⟩
  exact Machine.always_iff_always _ (fun _ e hinv => PrepareInv.holdsReady_iff hblend hinv e)
    (fun _ e hinv _ => PrepareInv.next lm hinv e) es _ hboot

/-- Gains whose ready pose bends the left hip. -/
def bentHipGains : GainsYaml ℚ where
  readyPose := some (List.replicate 10 0 ++ [-1 / 4])

/-- The history before PREPARE is first entered. -/
def PrepareRun.atBoot : PrepareRun ℚ := ⟨0, fun _ => 0, false, 0⟩

/-- Booted into PREPARE and run for the blend time: the ready pose is held. -/
theorem holdsReady_atBoot : ∃ c, ofYaml {} bentHipGains = .ok c ∧
    ((world (k1Plant 1)).withHistory (PrepareRun.note (k1Plant 1))).Always HoldsReady
      ({ ctl := c, data := k1Upright }, PrepareRun.atBoot)
      [.tick, .tick, .tick, .mjStep uprightObs, .tick, .tick, .tick] := by
  have hok : ofYaml ({} : LocomotionYaml ℚ) bentHipGains = .ok _ := rfl
  refine ⟨_, hok, (prepare_holdsReady_iff (k1Plant 1) hok ?_ k1Upright PrepareRun.atBoot _).mpr ?_⟩
  · decide +kernel
  · have hnever {e : Event ℚ} {p : World ℚ × PrepareRun ℚ} (h : p.2.rewound = false) :
        EntryTimeRegained p e := fun _ _ _ _ _ => .inl h
    exact ⟨hnever rfl, hnever rfl, hnever rfl, hnever rfl, hnever rfl, hnever rfl, hnever rfl,
      trivial⟩

/-- PREPARE entered at one second, a reset, and the blend time run through: the left hip is still
referred to where it was. -/
theorem not_holdsReady_after_reset :
    ∃ c, ofYaml { initialMode := some "damping" } bentHipGains = .ok c ∧
    ¬ ((world (k1Plant 1)).withHistory (PrepareRun.note (k1Plant 1))).Always HoldsReady
      ({ ctl := c, data := k1Upright }, PrepareRun.atBoot)
      [.mjStep uprightObs, .call (.requestModeChange 1), .tick, .tick, .tick,
        .reset uprightObs k1Upright.ctrl, .mjStep uprightObs, .tick, .tick, .tick] := by
  refine ⟨_, rfl, fun h => ?_⟩
  obtain ⟨-, -, -, -, -, -, -, -, -, hlast, -⟩ := h
  have hhip := hlast _ rfl rfl rfl (by decide +kernel) JointIndexK1.leftHipPitch (by decide)
  exact absurd hhip (by decide +kernel)

end LocomotionController

end K1Sim
