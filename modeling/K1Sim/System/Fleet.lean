import K1Sim.Locomotion.TorqueBound
import K1Sim.Supervisor.Frame
import K1Sim.System.ResetRestores

/-!
# System/Fleet — who controls which robot

In a pass of the physics loop the main robot's controller writes its joints, or the fallback servo
does where none is attached, and then the fallback servo writes the joints of every copy.  The names
of different robots' actuators are different, so each robot is left with the controls of its own law
(`commanded_pass`), and a run never takes an actuator out of its force range (`fleet_commanded`).
-/

namespace K1Sim

open Foundations

namespace LocomotionController

variable {K : Type*} [Field K] [LinearOrder K] [Libc K]

/-- An actuator of no joint is left alone by a step. -/
theorem actuate_ctrl_of_ne (lm : LoadedModel K) (c : LocomotionController K)
    (snap : CommandSnapshot K) (d : MjData K) {a : ℕ} (hother : ∀ i, lm.map.actId i ≠ a) :
    (actuate lm c snap d).2.ctrl a = d.ctrl a := by
  have hservo (pd : PdController K) (qRef : JointArray K) :
      (pd.apply lm.model d lm.map qRef).ctrl a = d.ctrl a :=
    writeAll_of_notMem _ _ _ _ fun i _ => hother i
  simp only [actuate]
  split
  · exact writeAll_of_notMem _ _ _ _ fun i _ => hother i
  · exact hservo _ _
  · rw [stepCustom]
    split_ifs
    · exact hservo _ _
    · exact hservo _ _
    · rfl
    · exact writeAll_of_notMem (fun p : Fin jointCount × MotorCmdData K => lm.map.actId p.1) _ _ _
        fun p _ => hother p.1

end LocomotionController

open LocomotionController

namespace SimCore

variable {K : Type*}

/-! ## The actuators of the copies -/

/-- Each joint's actuator in a copy is the one that carries the joint's prefixed name. -/
theorem name2id_copy_actId {m : MjModel K} {k : ℕ} {em : CopyMap} (h : copyMap m k = .ok em)
    (i : Fin jointCount) :
    m.name2id .actuator (extraPrefix k ++ jointNames.get i) = some (em.actId i) := by
  simp only [copyMap] at h
  split at h
  · exact absurd h (by simp)
  · rename_i hfound
    have hpresent := List.find?_eq_none.mp hfound i (List.mem_finRange i)
    obtain ⟨act, hact⟩ : ∃ act,
        m.name2id .actuator (extraPrefix k ++ jointNames.get i) = some act :=
      Option.ne_none_iff_exists'.mp (not_or.mp (by simpa using hpresent)).2
    split at h
    · exact absurd h (by simp)
    · obtain rfl := Except.ok.inj h
      simp [hact]

/-- No joint of the robot has a name with the prefix of a copy. -/
theorem extraPrefix_append_ne (k : ℕ) (s : String) (i : Fin jointCount) :
    extraPrefix k ++ s ≠ jointNames.get i := by
  have hfirst : ∀ i, (jointNames.get i).toList.head? ≠ some 's' := by decide +kernel
  intro heq
  refine hfirst i ?_
  rw [← heq, toList_extraPrefix_append]
  rfl

/-- A copy is one of those the scene was loaded with. -/
theorem exists_copyMap_of_mem {m : MjModel K} {n : ℕ} {maps : List CopyMap}
    (hmaps : copyMaps m n = .ok maps) {em : CopyMap} (hin : em ∈ maps) :
    ∃ k, copyMap m k = .ok em := by
  obtain ⟨j, hj⟩ := List.mem_iff_getElem?.mp hin
  exact ⟨j + 1, (copyMap_of_copyMaps hmaps).2 j em hj⟩

/-- **An actuator belongs to one copy, and there to one joint.** -/
theorem eq_of_copy_actId_eq {m : MjModel K} {k k' : ℕ} {em em' : CopyMap}
    (h : copyMap m k = .ok em) (h' : copyMap m k' = .ok em') {i j : Fin jointCount}
    (heq : em.actId i = em'.actId j) : em = em' ∧ i = j := by
  have hname := m.name2id_inj (name2id_copy_actId h i) (heq ▸ name2id_copy_actId h' j)
  obtain ⟨rfl, hjoint⟩ := extraPrefix_append_inj hname
  exact ⟨Except.ok.inj (h.symm.trans h'), jointNames_injective hjoint⟩

/-- **No actuator of a copy is the main robot's.** -/
theorem copy_actId_ne [LT K] [DecidableLT K] {m : MjModel K} {map : ModelMap}
    (hmap : ModelMap.build m = .ok map) {k : ℕ} {em : CopyMap} (h : copyMap m k = .ok em)
    (i j : Fin jointCount) : em.actId i ≠ map.actId j := by
  intro heq
  have hname := m.name2id_inj (name2id_copy_actId h i) (heq ▸ ModelMap.name2id_actId hmap j)
  exact extraPrefix_append_ne k _ j hname

/-! ## The servo of the copies -/

/-- The map of a copy as the servo reads it: the joints and actuators alone. -/
def CopyMap.toModelMap (em : CopyMap) : ModelMap where
  qposAdr := em.qposAdr
  dofAdr := em.dofAdr
  actId := em.actId
  rootQposAdr := em.rootQposAdr
  rootDofAdr := em.rootDofAdr
  rootBodyId := 0
  imuSiteId := none
  sensQuat := none
  sensGyro := none
  sensAcc := none
  sensLinvel := none

variable [Field K] [LinearOrder K]

/-- The loop of `physics_loop` over the copies. -/
def holdCopies (m : MjModel K) (pd : PdController K) (copies : List CopyMap) (ready : JointArray K)
    (d : MjData K) : MjData K :=
  copies.foldl (fun d em => pd.apply m d em.toModelMap ready) d

/-- The torque of the servo for a joint of a copy. -/
def copyTorque (m : MjModel K) (pd : PdController K) (ready : JointArray K) (d : MjData K)
    (em : CopyMap) : JointArray K :=
  pd.torque m d em.toModelMap ready (fun _ => 0) (fun _ => 0)

/-- The loop writes controls alone, from the one state. -/
theorem holdCopies_eq (m : MjModel K) (pd : PdController K) (copies : List CopyMap)
    (ready : JointArray K) (d : MjData K) :
    holdCopies m pd copies ready d
      = { d with
          ctrl := copies.foldl (fun a em =>
            writeAll em.actId (copyTorque m pd ready d em) (List.finRange jointCount) a) d.ctrl }
    := by
  suffices h : ∀ a, copies.foldl (fun d em => pd.apply m d em.toModelMap ready) { d with ctrl := a }
      = { d with
          ctrl := copies.foldl (fun a em =>
            writeAll em.actId (copyTorque m pd ready d em) (List.finRange jointCount) a) a } from
    h d.ctrl
  induction copies with
  | nil => exact fun _ => rfl
  | cons em copies ih => exact fun a => ih _

variable {m : MjModel K} {n : ℕ} {copies : List CopyMap}

/-- **The loop holds every copy.** -/
theorem holdCopies_ctrl (hcopies : copyMaps m n = .ok copies) (pd : PdController K)
    (ready : JointArray K) (d : MjData K) {em : CopyMap} (hin : em ∈ copies)
    (i : Fin jointCount) :
    (holdCopies m pd copies ready d).ctrl (em.actId i) = copyTorque m pd ready d em i := by
  obtain ⟨k, hcopy⟩ := exists_copyMap_of_mem hcopies hin
  have hinj : Function.Injective em.actId := fun _ _ heq => (eq_of_copy_actId_eq hcopy hcopy heq).2
  have hset (a : ℕ → K) : writeAll em.actId (copyTorque m pd ready d em) (List.finRange jointCount)
      a (em.actId i) = copyTorque m pd ready d em i :=
    writeAll_of_mem _ _ _ _ ((List.nodup_finRange _).map hinj) (List.mem_finRange i)
  rw [holdCopies_eq]
  refine foldl_of_mem (f := fun a em =>
      writeAll em.actId (copyTorque m pd ready d em) (List.finRange jointCount) a)
    (P := fun a => a (em.actId i) = copyTorque m pd ready d em i) hset
    (fun a other hother ha => ?_) hin d.ctrl
  obtain ⟨k', hother⟩ := exists_copyMap_of_mem hcopies hother
  by_cases hsame : em = other
  · subst hsame
    exact hset a
  · refine (writeAll_of_notMem _ _ _ _ fun j _ heq => ?_).trans ha
    exact hsame (eq_of_copy_actId_eq hcopy hother heq.symm).1

/-- An actuator of no copy is left alone. -/
theorem holdCopies_ctrl_of_ne (pd : PdController K) (ready : JointArray K) (d : MjData K) {a : ℕ}
    (hother : ∀ em ∈ copies, ∀ i, em.actId i ≠ a) :
    (holdCopies m pd copies ready d).ctrl a = d.ctrl a := by
  rw [holdCopies_eq]
  have hrest (before : ℕ → K) : copies.foldl (fun b em =>
      writeAll em.actId (copyTorque m pd ready d em) (List.finRange jointCount) b) before a
        = before a := by
    induction copies generalizing before with
    | nil => rfl
    | cons em copies ih =>
      obtain ⟨hem, hrest⟩ := List.forall_mem_cons.mp hother
      rw [List.foldl_cons, ih hrest, writeAll_of_notMem _ _ _ _ fun i _ => hem i]
  exact hrest d.ctrl

end SimCore

/-- A simulator that has loaded its scene, with the gains of its fallback servo. -/
structure LoadedPlant (K ρ δ : Type*) [Field K] [Libc K] [LinearOrder K] extends Plant K ρ δ where
  loaded : MjInstance K ρ δ
  loads : SimCore.loadModel lib model cfg = .ok (scene, loaded)
  pd : PdController K

/-- The shared data, and the controller attached to the main robot. -/
structure Fleet (K ρ δ : Type*) [Field K] where
  sim : SimData K ρ δ
  controller : Option (LocomotionController K) := none

/-- A turn of another module at the mutex. -/
inductive Turn (ρ : Type*) where
  | reset
  | packet (pkt : Gc.GameControllerPacket)
  | shove
  | drag (rest : ρ)
  | frame

/-- What the turn does to the data. -/
def Turn.access {ρ : Type*} (K : Type*) : Turn ρ → SimAccess K ρ
  | .reset => .reset
  | .packet pkt => .packet pkt
  | .shove => .shove
  | .drag rest => .drag rest
  | .frame => .frame

/-- A pass of the physics loop, `set_controller`, a call of one of the controller's setters, or a
turn of another module. -/
inductive FleetEvent (K ρ : Type*) [Zero K] where
  | pass
  | setController (controller : LocomotionController K)
  | call (c : LocomotionController.Call K)
  | turn (t : Turn ρ)

namespace LoadedPlant

variable {K ρ δ : Type*} [Field K] [Libc K] [LinearOrder K] (P : LoadedPlant K ρ δ)

/-- The model and the map of the main robot: the map that the controller builds is this one. -/
def lm : LoadedModel K := ⟨P.model.toMjModel, P.scene.map, (SimCore.of_loadModel P.loads).1⟩

/-- The controller's turn, or the fallback servo's. -/
def controlMain (controller : Option (LocomotionController K)) (d : MjData K) :
    Option (LocomotionController K) × MjData K :=
  match controller with
  | some c =>
    let r := c.step P.lm d
    (some r.1, r.2)
  | none => (none, P.pd.apply P.model.toMjModel d P.scene.map P.scene.readyTarget)

/-- The control part of a pass. -/
def control (s : Fleet K ρ δ) : Option (LocomotionController K) × MjData K :=
  let r := P.controlMain s.controller s.sim.mj.data
  (r.1, SimCore.holdCopies P.model.toMjModel P.pd P.scene.copies P.scene.readyTarget r.2)

/-- The simulator with its controller.  A pass shows the controls that `mj_step` is given. -/
def fleet : Machine (Fleet K ρ δ) (FleetEvent K ρ) (ℕ → K) where
  next s
    | .pass =>
      let r := P.control s
      { sim := P.next s.sim (.pass r.2.ctrl), controller := r.1 }
    | .setController c => { s with controller := some c }
    | .call c => { s with controller := s.controller.map fun k => applyCall k c }
    | .turn t => { s with sim := P.next s.sim (t.access K) }
  out s
    | .pass => some (P.control s).2.ctrl
    | _ => none

/-! ## What a pass commands -/

/-- The controller as it is when it acts: its mode request consumed. -/
def acting (c : LocomotionController K) (d : MjData K) : LocomotionController K :=
  consumeModeRequest P.lm c c.snapshotCommand d

theorem acting_cfg (c : LocomotionController K) (d : MjData K) : (P.acting c d).cfg = c.cfg :=
  (consumeModeRequest_frame P.lm c c.snapshotCommand d).1

/-- The law of the main robot, and whose gains it servos with. -/
def mainLaw (s : Fleet K ρ δ) : Law K × PdController K :=
  match s.controller with
  | some c =>
    (law (P.acting c s.sim.mj.data) c.snapshotCommand s.sim.mj.data.time, c.cfg.pd)
  | none => (.hold P.scene.readyTarget, P.pd)

/-- **Each robot has the controls of its own law**, the main robot's being numbers, and what is no
robot's is left alone. -/
structure Commanded (s : Fleet K ρ δ) (ctrl : ℕ → K) : Prop where
  main : (fun i => ctrl (P.scene.map.actId i))
    = (P.mainLaw s).1.ctrl P.lm (P.mainLaw s).2 s.sim.mj.data (jointCtrl P.lm s.sim.mj.data)
  defined : ∀ c, s.controller = some c → ∀ i,
    ¬ TorqueUndefined (P.acting c s.sim.mj.data) s.sim.mj.data.time i
  copies : ∀ em ∈ P.scene.copies, ∀ i, ctrl (em.actId i)
    = SimCore.copyTorque P.model.toMjModel P.pd P.scene.readyTarget s.sim.mj.data em i
  others : ∀ a, (∀ i, P.scene.map.actId i ≠ a) → (∀ em ∈ P.scene.copies, ∀ i, em.actId i ≠ a) →
    ctrl a = s.sim.mj.data.ctrl a

/-- **The main robot's turn** writes its own actuators, by its law. -/
theorem controlMain_spec (s : Fleet K ρ δ) :
    ∃ ctrl, (P.controlMain s.controller s.sim.mj.data).2 = { s.sim.mj.data with ctrl := ctrl }
      ∧ (fun i => ctrl (P.scene.map.actId i))
        = (P.mainLaw s).1.ctrl P.lm (P.mainLaw s).2 s.sim.mj.data (jointCtrl P.lm s.sim.mj.data)
      ∧ ∀ a, (∀ i, P.scene.map.actId i ≠ a) → ctrl a = s.sim.mj.data.ctrl a := by
  obtain ⟨sim, controller⟩ := s
  cases controller with
  | none =>
    refine ⟨_, rfl, jointCtrl_apply P.lm sim.mj.data P.pd P.scene.readyTarget, fun a ha => ?_⟩
    exact writeAll_of_notMem _ _ _ _ fun i _ => ha i
  | some c =>
    obtain ⟨_, _, _, ctrl, hact⟩ := actuate_frame P.lm (P.acting c sim.mj.data) c.snapshotCommand
      sim.mj.data
    have hdata : (P.controlMain (some c) sim.mj.data).2 = { sim.mj.data with ctrl := ctrl } :=
      congrArg Prod.snd hact
    have hlaw := actuate_ctrl P.lm (P.acting c sim.mj.data) c.snapshotCommand sim.mj.data
    have hother {a : ℕ} (ha : ∀ i, P.scene.map.actId i ≠ a) :=
      actuate_ctrl_of_ne P.lm (P.acting c sim.mj.data) c.snapshotCommand sim.mj.data ha
    rw [hact, acting_cfg] at hlaw
    rw [hact] at hother
    exact ⟨ctrl, hdata, hlaw, fun a ha => hother ha⟩

/-- **A pass gives every robot the controls of its own law.** -/
theorem commanded_pass (s : Fleet K ρ δ)
    (hblend : ∀ c, s.controller = some c → c.cfg.prepareBlendTime ≠ 0) :
    P.Commanded s (P.control s).2.ctrl := by
  obtain ⟨hmap, hcopies, -, -⟩ := SimCore.of_loadModel P.loads
  obtain ⟨ctrl, hdata, hlaw, hother⟩ := P.controlMain_spec s
  have hctrl : (P.control s).2 = SimCore.holdCopies P.model.toMjModel P.pd P.scene.copies
      P.scene.readyTarget { s.sim.mj.data with ctrl := ctrl } := by
    rw [← hdata]
    rfl
  rw [hctrl]
  refine ⟨?_, fun c hc i hundefined => ?_, fun em hin i => ?_, fun a hmain hcopy => ?_⟩
  · refine Eq.trans ?_ hlaw
    ext i
    refine SimCore.holdCopies_ctrl_of_ne _ _ _ fun em hin j => ?_
    obtain ⟨k, hk⟩ := SimCore.exists_copyMap_of_mem hcopies hin
    exact SimCore.copy_actId_ne hmap hk j i
  · obtain ⟨-, ⟨hzero, -⟩, -⟩ := torqueUndefined_iff.mp hundefined
    rw [acting_cfg] at hzero
    exact hblend c hc hzero
  · exact SimCore.holdCopies_ctrl hcopies _ _ _ hin i
  · exact (SimCore.holdCopies_ctrl_of_ne _ _ _ hcopy).trans (hother a hmain)

/-! ## Runs -/

/-- The controls are in their force ranges, and the controller attached has a blend that takes
time. -/
structure Safe (s : Fleet K ρ δ) : Prop where
  inRange : ∀ a, P.model.InForceRange a (s.sim.mj.data.ctrl a)
  blend : ∀ c, s.controller = some c → c.cfg.prepareBlendTime ≠ 0

variable {P}

/-- **A pass leaves every actuator in its force range.** -/
theorem Commanded.inForceRange {s : Fleet K ρ δ} {ctrl : ℕ → K} (h : P.Commanded s ctrl)
    (hzero : ∀ a, P.model.InForceRange a 0)
    (hrange : ∀ a, P.model.InForceRange a (s.sim.mj.data.ctrl a)) (a : ℕ) :
    P.model.InForceRange a (ctrl a) := by
  by_cases hmain : ∃ i, P.scene.map.actId i = a
  · obtain ⟨i, rfl⟩ := hmain
    rw [show ctrl (P.scene.map.actId i) = _ from congrFun h.main i]
    have hzeros : ∀ i, P.lm.model.InForceRange (P.lm.map.actId i) 0 := fun i => hzero _
    exact Law.inForceRange_ctrl hzeros _ _ _ (hrange _)
  by_cases hcopy : ∃ em ∈ P.scene.copies, ∃ i, em.actId i = a
  · obtain ⟨em, hin, i, rfl⟩ := hcopy
    rw [h.copies em hin i]
    exact MjModel.inForceRange_limitForce (hzero _) _
  · rw [h.others a (fun i heq => hmain ⟨i, heq⟩) fun em hin i heq => hcopy ⟨em, hin, i, heq⟩]
    exact hrange a

/-- What each event needs: a controller whose blend takes time. -/
def Blends : FleetEvent K ρ → Prop
  | .setController c => c.cfg.prepareBlendTime ≠ 0
  | _ => True

/-- Neither a step nor a call reconfigures a controller. -/
theorem cfg_of_next {s : Fleet K ρ δ} {e : FleetEvent K ρ} (hblends : Blends e)
    (hblend : ∀ c, s.controller = some c → c.cfg.prepareBlendTime ≠ 0) :
    ∀ c, (P.fleet.next s e).controller = some c → c.cfg.prepareBlendTime ≠ 0 := by
  intro c hc
  obtain ⟨sim, controller⟩ := s
  cases e with
  | pass =>
    cases controller with
    | none => exact nomatch hc
    | some k =>
      obtain rfl := Option.some.inj hc
      rw [show (k.step P.lm sim.mj.data).1.cfg = (P.acting k sim.mj.data).cfg from
        (actuate_keeps P.lm _ _ _).1, acting_cfg]
      exact hblend k rfl
  | setController k =>
    obtain rfl := Option.some.inj hc
    exact hblends
  | call call =>
    obtain ⟨k, hk, rfl⟩ := Option.map_eq_some_iff.mp hc
    cases call <;> exact hblend k hk
  | turn t => exact hblend c hc

/-- **Every event keeps the fleet safe.** -/
theorem Safe.next (hlib : P.lib.Documented)
    (hstep : ∀ m s, (P.lib.step m s).data.ctrl = s.data.ctrl)
    (hzero : ∀ a, P.model.InForceRange a 0)
    (hloaded : ∀ a, P.model.InForceRange a (P.loaded.data.ctrl a)) {s : Fleet K ρ δ}
    {e : FleetEvent K ρ} (hblends : Blends e) (h : P.Safe s) : P.Safe (P.fleet.next s e) := by
  refine ⟨?_, cfg_of_next hblends h.blend⟩
  cases e with
  | pass =>
    intro a
    rw [show (P.fleet.next s .pass).sim.mj.data.ctrl = (P.control s).2.ctrl from hstep _ _]
    exact (P.commanded_pass s h.blend).inForceRange hzero h.inRange a
  | setController c => exact h.inRange
  | call c => exact h.inRange
  | turn t =>
    cases t with
    | reset =>
      rw [show (P.fleet.next s (.turn .reset)).sim.mj = P.loaded from
        SimCore.resetMjData_eq_of_loadModel hlib P.loads s.sim.mj]
      exact hloaded
    | packet pkt =>
      rw [show (P.fleet.next s (.turn (.packet pkt))).sim.mj.data.ctrl = s.sim.mj.data.ctrl from
        (SupervisorLogic.process_rest P.model.toMjModel s.sim.logic s.sim.mj.data pkt).2.1]
      exact h.inRange
    | shove =>
      have hctrl : (Viewer.shove P.model.toMjModel s.sim.mj.data).ctrl = s.sim.mj.data.ctrl := by
        rw [Viewer.shove]
        split <;> rfl
      rw [show (P.fleet.next s (.turn .shove)).sim.mj.data.ctrl = s.sim.mj.data.ctrl from hctrl]
      exact h.inRange
    | drag rest => exact h.inRange
    | frame => exact h.inRange

/-- **In every pass of every run** each robot has the controls of its own law, whatever the others
are commanded and the other modules do, and every actuator is in its force range. -/
theorem fleet_commanded (hlib : P.lib.Documented)
    (hstep : ∀ m s, (P.lib.step m s).data.ctrl = s.data.ctrl)
    (hzero : ∀ a, P.model.InForceRange a 0)
    (hloaded : ∀ a, P.model.InForceRange a (P.loaded.data.ctrl a)) (logic : SupervisorLogic K)
    {es : List (FleetEvent K ρ)} (hblends : ∀ e ∈ es, Blends e) :
    P.fleet.Always
      (fun s e => ∀ ctrl, P.fleet.out s e = some ctrl →
        P.Commanded s ctrl ∧ ∀ a, P.model.InForceRange a (ctrl a))
      { sim := ⟨P.loaded, logic⟩ } es := by
  refine P.fleet.always_of_invariant_of (fun s e (hsafe : P.Safe s) ctrl hout => ?_)
    (fun s e hblends hsafe => hsafe.next hlib hstep hzero hloaded hblends) es _ hblends
    ⟨hloaded, fun c hc => nomatch hc⟩
  cases e with
  | pass =>
    obtain rfl := Option.some.inj hout
    have hcommanded := P.commanded_pass s hsafe.blend
    exact ⟨hcommanded, hcommanded.inForceRange hzero hsafe.inRange⟩
  | setController c => exact nomatch hout
  | call c => exact nomatch hout
  | turn t => exact nomatch hout

/-! ## A game of one robot a side -/

/-- The game, with a servo. -/
def pairFleet : LoadedPlant ℚ Unit (ℕ → ℚ) where
  toPlant := Plant.pairPlant
  loaded := Plant.pairLoaded
  loads := Plant.pairPlant_loads
  pd := ⟨fun _ => 60, fun _ => 2⟩

/-- A pass on the fallback servo, a controller attached and sent into PREPARE and CUSTOM, a packet,
a shove and a reset. -/
theorem fleet_commanded_pair :
    pairFleet.fleet.Always
      (fun s e => ∀ ctrl, pairFleet.fleet.out s e = some ctrl →
        pairFleet.Commanded s ctrl ∧ ∀ a, pairFleet.model.InForceRange a (ctrl a))
      { sim := ⟨pairFleet.loaded, { cfg := {} }⟩ }
      [.pass, .setController { cfg := Config.ofYaml {} {} }, .call (.requestModeChange 1), .pass,
        .turn (.packet (SupervisorLogic.packetOf 7 .pickUp)), .call (.requestModeChange 3), .pass,
        .call (.setLowCmd 1 [⟨0, 1, 0, 1000, 0, 0, 0⟩]), .turn .shove, .pass, .turn .reset,
        .pass] := by
  refine fleet_commanded smallMujoco_documented (fun _ _ => rfl) (fun a h => ?_) (fun a h => ?_) _
    ?_
  · exact nomatch h
  · exact nomatch h
  · have hblend : (Config.ofYaml {} {} : LocomotionController.Config ℚ).prepareBlendTime ≠ 0 := by
      decide +kernel
    simp [Blends, hblend]

end LoadedPlant

end K1Sim
