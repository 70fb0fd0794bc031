import K1Sim.Supervisor.Reports
import K1Sim.System.ResetRestores

/-!
# System/HeadKinematics — whether the head pose and the base belong together

A step derives the head pose of the positions it starts from and moves on; a reset derives it anew;
a placement by the supervisor moves the positions and derives nothing.  `headPose_coherent_iff` says
along which runs every snapshot and every frame combines a head and a base that belong together.
-/

namespace K1Sim

open Foundations

namespace SupervisorLogic

variable {K : Type*} [Field K] [Libc K] [LinearOrder K]

/-- The packet makes the supervisor write positions. -/
def writes (m : MjModel K) (logic : SupervisorLogic K) (d : MjData K)
    (pkt : Gc.GameControllerPacket) : Bool :=
  (deeds m logic d pkt).any fun deed => deed.written.isSome

/-- **A packet that writes nothing leaves the data alone.** -/
theorem process_data_of_not_writes {m : MjModel K} {logic : SupervisorLogic K} {d : MjData K}
    {pkt : Gc.GameControllerPacket} (h : writes m logic d pkt = false) :
    (logic.process m d pkt).2.data = d := by
  have hnone : ∀ deed ∈ deeds m logic d pkt, deed.written = none := by
    intro deed hin
    have := List.any_eq_false.mp h deed hin
    simpa using this
  have hskip (ds : List (Deed K)) (hds : ∀ deed ∈ ds, deed.written = none) :
      ds.foldl (fun d deed => deed.written.getD d) d = d := by
    induction ds with
    | nil => rfl
    | cons deed ds ih =>
      obtain ⟨hdeed, hrest⟩ := List.forall_mem_cons.mp hds
      rw [List.foldl_cons, hdeed]
      exact ih hrest
  rw [process_data, hskip _ hnone]

end SupervisorLogic

/-- Where the positions and what is derived of them come from: the positions whose kinematics were
evaluated last, the ones that the last step started from and left, whether anything has written
positions since that step, and whether a packet has since the last step or reset. -/
structure Provenance (K : Type*) where
  derivedFrom : ℕ → K
  stepped : Option ((ℕ → K) × (ℕ → K)) := none
  written : Bool := true
  placed : Bool := false

namespace Plant

variable {K ρ δ : Type*} [Field K] [Libc K] [LinearOrder K] (P : Plant K ρ δ)

/-- The history variable. -/
def provenance (h : Provenance K) (s : SimData K ρ δ) (e : SimAccess K ρ) : Provenance K :=
  match e with
  | .pass _ => ⟨s.mj.data.qpos, some (s.mj.data.qpos, (P.next s e).mj.data.qpos), false, false⟩
  | .reset => ⟨(P.next s e).mj.data.qpos, h.stepped, true, false⟩
  | .packet pkt =>
    let wrote := s.logic.writes P.model.toMjModel s.mj.data pkt
    { h with written := h.written || wrote, placed := h.placed || wrote }
  | _ => h

/-- **The head and the base of a reading belong together**: the head is derived of the positions
that the base is read from; or it is derived of those that the last step started from, the base is
read from those it left, and nothing has written positions in between. -/
def Together (headBodyId adr : ℕ) (s : SimData K ρ δ) (h : Provenance K) : Prop :=
  let r := P.readHead headBodyId adr s.mj
  (r.head = P.lib.kinematics P.model s.mj.data.qpos headBodyId
      ∧ r.base = basePose s.mj.data.qpos adr)
    ∨ ∃ before after, h.stepped = some (before, after) ∧ h.written = false
      ∧ r.head = P.lib.kinematics P.model before headBodyId ∧ r.base = basePose after adr

/-- What a snapshot or a frame reads belongs together. -/
def ReadsTogether (headBodyId : ℕ) (p : SimData K ρ δ × Provenance K) (e : SimAccess K ρ) : Prop :=
  match e with
  | .pass _ =>
    P.Together headBodyId P.scene.map.rootQposAdr (P.next p.1 e) (P.provenance p.2 p.1 e)
  | .frame => P.Together headBodyId 0 p.1 p.2
  | _ => True

/-- No frame comes after a packet that writes positions and before the next step or reset, unless
the head is where it was at the positions before. -/
def FrameDerived (headBodyId : ℕ) (p : SimData K ρ δ × Provenance K) (e : SimAccess K ρ) : Prop :=
  match e with
  | .frame => p.2.placed = true → P.lib.kinematics P.model p.2.derivedFrom headBodyId
      = P.lib.kinematics P.model p.1.mj.data.qpos headBodyId
  | _ => True

/-- The history is true of the data. -/
structure ProvenanceInv (headBodyId : ℕ) (p : SimData K ρ δ × Provenance K) : Prop where
  head : P.lib.bodyPose p.1.mj.derived headBodyId
    = P.lib.kinematics P.model p.2.derivedFrom headBodyId
  written : p.2.placed = true → p.2.written = true
  fresh : p.2.placed = false → p.2.derivedFrom = p.1.mj.data.qpos
    ∨ p.2.stepped = some (p.2.derivedFrom, p.1.mj.data.qpos) ∧ p.2.written = false

variable {P}

namespace ProvenanceInv

variable {headBodyId : ℕ} {p : SimData K ρ δ × Provenance K}

omit [Libc K] [LinearOrder K] in
/-- Unless a packet has written positions, the head and the base belong together. -/
theorem together_of_not_placed (hinv : P.ProvenanceInv headBodyId p) (adr : ℕ)
    (hplaced : p.2.placed = false) : P.Together headBodyId adr p.1 p.2 := by
  rcases hinv.fresh hplaced with hderived | ⟨hstepped, hwritten⟩
  · exact .inl ⟨hderived ▸ hinv.head, rfl⟩
  · exact .inr ⟨_, _, hstepped, hwritten, hinv.head, rfl⟩

omit [Libc K] [LinearOrder K] in
theorem together_iff (hinv : P.ProvenanceInv headBodyId p) (adr : ℕ) :
    P.Together headBodyId adr p.1 p.2 ↔ (p.2.placed = true →
      P.lib.kinematics P.model p.2.derivedFrom headBodyId
        = P.lib.kinematics P.model p.1.mj.data.qpos headBodyId) := by
  rcases hplaced : p.2.placed with - | -
  case false => exact iff_of_true (hinv.together_of_not_placed adr hplaced) nofun
  case true =>
    refine ⟨?_, fun hsame => .inl ⟨hinv.head.trans (hsame rfl), rfl⟩⟩
    rintro (⟨hhead, -⟩ | ⟨before, after, -, hwritten, -⟩) -
    · exact hinv.head.symm.trans hhead
    · exact absurd (hwritten.symm.trans (hinv.written hplaced)) Bool.false_ne_true

/-- A packet leaves the data as they were, or is on record as having written positions. -/
theorem packet (hinv : P.ProvenanceInv headBodyId p) (pkt : Gc.GameControllerPacket) :
    P.ProvenanceInv headBodyId (P.next p.1 (.packet pkt), P.provenance p.2 p.1 (.packet pkt)) := by
  obtain ⟨s, h⟩ := p
  rcases hwrites : s.logic.writes P.model.toMjModel s.mj.data pkt with - | -
  case true =>
    have hplaced : (P.provenance h s (.packet pkt)).placed = true := by
      simp [provenance, hwrites]
    have hwritten : (P.provenance h s (.packet pkt)).written = true := by
      simp [provenance, hwrites]
    exact ⟨hinv.head, fun _ => hwritten, fun hnot =>
      absurd (hnot.symm.trans hplaced) Bool.false_ne_true⟩
  case false =>
    have hhistory : P.provenance h s (.packet pkt) = h := by simp [provenance, hwrites]
    have hdata : (P.next s (.packet pkt)).mj.data = s.mj.data :=
      SupervisorLogic.process_data_of_not_writes hwrites
    rw [hhistory]
    exact ⟨hinv.head, hinv.written, hdata ▸ hinv.fresh⟩

theorem next (hlib : P.lib.Documented) (hinv : P.ProvenanceInv headBodyId p) (e : SimAccess K ρ) :
    P.ProvenanceInv headBodyId (((P.machine headBodyId).withHistory P.provenance).next p e) := by
  obtain ⟨s, h⟩ := p
  rcases e with ctrl | - | pkt | - | rest | -
  case pass => exact ⟨hlib.step_pose _ _ _, nofun, fun _ => .inr ⟨rfl, rfl⟩⟩
  case reset =>
    have hqpos : (P.next s (.reset : SimAccess K ρ)).mj.data.qpos = _ := hlib.forward_qpos _ _
    refine ⟨?_, nofun, fun _ => .inl rfl⟩
    exact (hlib.forward_pose _ _ _).trans
      (congrArg (P.lib.kinematics P.model · headBodyId) hqpos.symm)
  case packet => exact hinv.packet pkt
  case shove =>
    have hqpos : (P.next s (.shove : SimAccess K ρ)).mj.data.qpos = s.mj.data.qpos :=
      Viewer.shove_qpos _ _
    refine ⟨hinv.head, hinv.written, fun hplaced => ?_⟩
    change h.derivedFrom = (P.next s .shove).mj.data.qpos
      ∨ h.stepped = some (h.derivedFrom, (P.next s .shove).mj.data.qpos) ∧ h.written = false
    rw [hqpos]
    exact hinv.fresh hplaced
  case drag => exact ⟨hinv.head, hinv.written, hinv.fresh⟩
  case frame => exact hinv

theorem readsTogether_iff (hlib : P.lib.Documented) (hinv : P.ProvenanceInv headBodyId p)
    (e : SimAccess K ρ) : P.ReadsTogether headBodyId p e ↔ P.FrameDerived headBodyId p e := by
  rcases e with ctrl | - | pkt | - | rest | -
  case pass =>
    exact iff_of_true ((hinv.next hlib (.pass ctrl)).together_of_not_placed _ rfl) trivial
  case frame => exact hinv.together_iff 0
  all_goals exact Iff.rfl

end ProvenanceInv

/-- **Heads and bases belong together exactly along the runs in which no frame follows a placement
before the next step or reset**, unless the placement left the head where it was. -/
theorem headPose_coherent_iff {P : Plant K ρ δ} (hlib : P.lib.Documented)
    {loaded : MjInstance K ρ δ}
    (hload : SimCore.loadModel P.lib P.model P.cfg = .ok (P.scene, loaded))
    (logic : SupervisorLogic K) (headBodyId : ℕ) (es : List (SimAccess K ρ)) :
    ((P.machine headBodyId).withHistory P.provenance).Always (P.ReadsTogether headBodyId)
        (⟨loaded, logic⟩, { derivedFrom := loaded.data.qpos }) es
      ↔ ((P.machine headBodyId).withHistory P.provenance).Always (P.FrameDerived headBodyId)
        (⟨loaded, logic⟩, { derivedFrom := loaded.data.qpos }) es := by
  have hstart : P.ProvenanceInv headBodyId
      ((⟨loaded, logic⟩, { derivedFrom := loaded.data.qpos }) : SimData K ρ δ × Provenance K) := by
    refine ⟨?_, nofun, fun _ => .inl rfl⟩
    rw [← SimCore.resetMjData_eq_of_loadModel hlib hload loaded]
    exact (hlib.forward_pose _ _ _).trans
      (congrArg (P.lib.kinematics P.model · headBodyId) (hlib.forward_qpos _ _).symm)
  exact Machine.always_iff_always _
    (fun p e (hinv : P.ProvenanceInv headBodyId p) => hinv.readsTogether_iff hlib e)
    (fun p e (hinv : P.ProvenanceInv headBodyId p) _ => hinv.next hlib e) es _ hstart

/-! ## A robot sent off in a game -/

/-- The game, with the supervisor in charge of its first robot. -/
def pairStart : SimData ℚ Unit (ℕ → ℚ) where
  mj := pairLoaded
  logic := { cfg := { robots := [SupervisorLogic.robotOfTeam7] } }

/-- A step after the robot was sent off derives the head anew: the frame after it fits. -/
theorem headPose_coherent_stepped :
    ((pairPlant.machine 1).withHistory pairPlant.provenance).Always (pairPlant.ReadsTogether 1)
      (pairStart, { derivedFrom := pairLoaded.data.qpos })
      [.frame, .packet (SupervisorLogic.packetOf 7 .pickUp), .pass fun _ => 0, .frame] := by
  refine (headPose_coherent_iff (P := pairPlant) smallMujoco_documented pairPlant_loads _ 1
    _).mpr ?_
  exact ⟨nofun, trivial, trivial, nofun, trivial⟩

/-- A frame between the packet that sends the robot off and the next step: the base is at the side
line, the head still where the robot was. -/
theorem headPose_not_coherent :
    ¬ ((pairPlant.machine 1).withHistory pairPlant.provenance).Always (pairPlant.ReadsTogether 1)
      (pairStart, { derivedFrom := pairLoaded.data.qpos })
      [.pass fun _ => 0, .packet (SupervisorLogic.packetOf 7 .pickUp), .frame] := by
  rintro ⟨-, -, hframe, -⟩
  rcases hframe with ⟨hhead, -⟩ | ⟨before, after, -, hwritten, -⟩
  · exact absurd (congrArg (·.position.x) hhead) (by decide +kernel)
  · exact absurd hwritten (by decide +kernel)

end Plant

end K1Sim
