import K1Sim.Supervisor.Frame

/-!
# Supervisor/Goals — whose score went up

`score_increased` compares the scores slot by slot, while a team is its identifier and may stand in
either slot.  `centresOnGoal_iff_teamScored` says for which pairs of packets the ball goes to the
centre on account of a goal just when a team has scored: it is a matter of where the teams stand in
the two packets, and of the four scores (`SlotsTell`).
-/

namespace K1Sim

namespace Gc.GameControllerPacket

/-- The two teams of the packet are different ones. -/
def DistinctTeams (pkt : GameControllerPacket) : Prop :=
  (pkt.teams 0).teamId ≠ (pkt.teams 1).teamId

/-- A team that stands in the slot `i` of one packet and in the slot `j` of the next, with a higher
score there. -/
def ScoredFromTo (old new : GameControllerPacket) (i j : Fin 2) : Prop :=
  (old.teams i).teamId = (new.teams j).teamId ∧ (old.teams i).score < (new.teams j).score

/-- **A goal**: some team that is in both packets has a higher score in the later one. -/
def TeamScored (old new : GameControllerPacket) : Prop := ∃ i j, old.ScoredFromTo new i j

/-- The team that stands in a slot. -/
def teamAt (pkt : GameControllerPacket) (i : Fin 2) : UInt8 := (pkt.teams i).teamId

/-- The score that a slot shows. -/
def scoreAt (pkt : GameControllerPacket) (i : Fin 2) : ℕ := (pkt.teams i).score.toNat

/-- **When the slots tell a goal**, by where the teams of one packet stand in the next: always when
both keep their slots, and otherwise as the four scores have it. -/
inductive SlotsTell (old new : GameControllerPacket) : Prop
  | bothKeep (hkeep : ∀ i, old.teamAt i = new.teamAt i)
  | exchange (hswap : ∀ i j, i ≠ j → old.teamAt i = new.teamAt j)
    (hscores : ¬(min (new.scoreAt 0) (new.scoreAt 1) ≤ min (old.scoreAt 0) (old.scoreAt 1)
      ∧ min (old.scoreAt 0) (old.scoreAt 1) < max (new.scoreAt 0) (new.scoreAt 1)
      ∧ max (new.scoreAt 0) (new.scoreAt 1) ≤ max (old.scoreAt 0) (old.scoreAt 1)))
  | oneKeeps (i j : Fin 2) (hne : i ≠ j) (hkeep : old.teamAt i = new.teamAt i)
    (hother : old.teamAt j ≠ new.teamAt j)
    (hscores : old.scoreAt i < new.scoreAt i ∨ new.scoreAt j ≤ old.scoreAt j)
  | oneMoves (i j : Fin 2) (hne : i ≠ j) (hmove : old.teamAt i = new.teamAt j)
    (hother : old.teamAt j ≠ new.teamAt i)
    (hscores : max (old.scoreAt i) (old.scoreAt j) < new.scoreAt j
      ∨ old.scoreAt i < min (new.scoreAt i) (new.scoreAt j)
      ∨ new.scoreAt i ≤ old.scoreAt i ∧ new.scoreAt j ≤ min (old.scoreAt i) (old.scoreAt j))
  | bothLeave (hleave : ∀ i j, old.teamAt i ≠ new.teamAt j)
    (hscores : ∀ i, new.scoreAt i ≤ old.scoreAt i)

instance (pkt : GameControllerPacket) : Decidable pkt.DistinctTeams :=
  inferInstanceAs (Decidable (¬ _))

instance (old new : GameControllerPacket) (i j : Fin 2) : Decidable (old.ScoredFromTo new i j) :=
  inferInstanceAs (Decidable (_ ∧ _))

instance (old new : GameControllerPacket) : Decidable (old.TeamScored new) :=
  inferInstanceAs (Decidable (∃ _, _))

/-! ## Slots and scores -/

theorem exists_slot_iff {P : Fin 2 → Prop} {i j : Fin 2} (hne : i ≠ j) :
    (∃ k, P k) ↔ P i ∨ P j := by
  rw [Fin.exists_fin_two]
  rcases Fin.exists_fin_two.mp ⟨i, rfl⟩ with rfl | rfl
  · rw [Fin.eq_one_of_ne_zero j hne.symm]
  · rw [show j = 0 by omega, or_comm]

theorem scoredFromTo_iff {old new : GameControllerPacket} {i j : Fin 2} :
    old.ScoredFromTo new i j ↔ old.teamAt i = new.teamAt j ∧ old.scoreAt i < new.scoreAt j :=
  and_congr_right' UInt8.lt_iff_toNat_lt

theorem teamScored_iff {old new : GameControllerPacket} {i j : Fin 2} (hne : i ≠ j) :
    old.TeamScored new
      ↔ (old.ScoredFromTo new i i ∨ old.ScoredFromTo new i j)
        ∨ (old.ScoredFromTo new j i ∨ old.ScoredFromTo new j j) := by
  rw [TeamScored, exists_slot_iff hne, exists_slot_iff hne, exists_slot_iff hne]

/-- Where the teams of one packet stand in the next. -/
theorem standing_cases (old new : GameControllerPacket) :
    (∀ i, old.teamAt i = new.teamAt i)
    ∨ (∀ i j, i ≠ j → old.teamAt i = new.teamAt j)
    ∨ (∃ i j, i ≠ j ∧ old.teamAt i = new.teamAt i ∧ old.teamAt j ≠ new.teamAt j)
    ∨ (∃ i j, i ≠ j ∧ old.teamAt i = new.teamAt j ∧ old.teamAt j ≠ new.teamAt i)
    ∨ ∀ i j, old.teamAt i ≠ new.teamAt j := by
  by_cases hkeep : ∃ i, old.teamAt i = new.teamAt i
  · obtain ⟨i, hi⟩ := hkeep
    by_cases hall : ∀ j, old.teamAt j = new.teamAt j
    · exact .inl hall
    · obtain ⟨j, hj⟩ := not_forall.mp hall
      exact .inr (.inr (.inl ⟨i, j, fun hij => hj (hij ▸ hi), hi, hj⟩))
  by_cases hmove : ∃ i j, old.teamAt i = new.teamAt j
  · obtain ⟨i, j, hij⟩ := hmove
    have hne : i ≠ j := fun heq => hkeep ⟨i, heq ▸ hij⟩
    by_cases hback : old.teamAt j = new.teamAt i
    · refine .inr (.inl fun k l hkl => ?_)
      obtain ⟨rfl, rfl⟩ | ⟨rfl, rfl⟩ : (k = i ∧ l = j) ∨ (k = j ∧ l = i) := by omega
      · exact hij
      · exact hback
    · exact .inr (.inr (.inr (.inl ⟨i, j, hne, hij, hback⟩)))
  · exact .inr (.inr (.inr (.inr fun i j hij => hmove ⟨i, j, hij⟩)))

/-! ## Whether a slot rose, and whether a team scored -/

section Standing

variable {old new : GameControllerPacket} {i j : Fin 2}

theorem DistinctTeams.teamAt_ne {pkt : GameControllerPacket} (h : pkt.DistinctTeams)
    (hne : i ≠ j) : pkt.teamAt i ≠ pkt.teamAt j := by
  obtain ⟨rfl, rfl⟩ | ⟨rfl, rfl⟩ : (i = 0 ∧ j = 1) ∨ (i = 1 ∧ j = 0) := by omega
  · exact h
  · exact h.symm

theorem rose_iff_of_bothKeep (hnew : new.DistinctTeams)
    (hkeep : ∀ i, old.teamAt i = new.teamAt i) :
    (∃ i, old.scoreAt i < new.scoreAt i) ↔ old.TeamScored new := by
  have h01 : (0 : Fin 2) ≠ 1 := Fin.zero_ne_one
  rw [exists_slot_iff h01, teamScored_iff h01]
  simp only [scoredFromTo_iff, hkeep, eq_false (hnew.teamAt_ne h01),
    eq_false (hnew.teamAt_ne h01.symm), true_and, false_and, or_false, false_or]

theorem rose_iff_of_exchange (hold : old.DistinctTeams)
    (hswap : ∀ i j, i ≠ j → old.teamAt i = new.teamAt j) :
    ((∃ i, old.scoreAt i < new.scoreAt i) ↔ old.TeamScored new)
      ↔ ¬(min (new.scoreAt 0) (new.scoreAt 1) ≤ min (old.scoreAt 0) (old.scoreAt 1)
        ∧ min (old.scoreAt 0) (old.scoreAt 1) < max (new.scoreAt 0) (new.scoreAt 1)
        ∧ max (new.scoreAt 0) (new.scoreAt 1) ≤ max (old.scoreAt 0) (old.scoreAt 1)) := by
  have h01 : (0 : Fin 2) ≠ 1 := Fin.zero_ne_one
  have hkeep0 : old.teamAt 0 ≠ new.teamAt 0 := hswap 1 0 h01.symm ▸ hold.teamAt_ne h01
  have hkeep1 : old.teamAt 1 ≠ new.teamAt 1 := hswap 0 1 h01 ▸ hold.teamAt_ne h01.symm
  rw [exists_slot_iff h01, teamScored_iff h01]
  simp only [scoredFromTo_iff, eq_false hkeep0, eq_false hkeep1, eq_true (hswap 0 1 h01),
    eq_true (hswap 1 0 h01.symm), true_and, false_and, or_false, false_or]
  omega

theorem rose_iff_of_oneKeeps (hold : old.DistinctTeams) (hnew : new.DistinctTeams) (hne : i ≠ j)
    (hkeep : old.teamAt i = new.teamAt i) (hother : old.teamAt j ≠ new.teamAt j) :
    ((∃ i, old.scoreAt i < new.scoreAt i) ↔ old.TeamScored new)
      ↔ old.scoreAt i < new.scoreAt i ∨ new.scoreAt j ≤ old.scoreAt j := by
  have hij : old.teamAt i ≠ new.teamAt j := hkeep ▸ hnew.teamAt_ne hne
  have hji : old.teamAt j ≠ new.teamAt i := hkeep ▸ hold.teamAt_ne hne.symm
  rw [exists_slot_iff hne, teamScored_iff hne]
  simp only [scoredFromTo_iff, eq_true hkeep, eq_false hother, eq_false hij, eq_false hji,
    true_and, false_and, or_false]
  omega

theorem rose_iff_of_oneMoves (hold : old.DistinctTeams) (hnew : new.DistinctTeams) (hne : i ≠ j)
    (hmove : old.teamAt i = new.teamAt j) (hother : old.teamAt j ≠ new.teamAt i) :
    ((∃ i, old.scoreAt i < new.scoreAt i) ↔ old.TeamScored new)
      ↔ max (old.scoreAt i) (old.scoreAt j) < new.scoreAt j
        ∨ old.scoreAt i < min (new.scoreAt i) (new.scoreAt j)
        ∨ new.scoreAt i ≤ old.scoreAt i
          ∧ new.scoreAt j ≤ min (old.scoreAt i) (old.scoreAt j) := by
  have hii : old.teamAt i ≠ new.teamAt i := hmove ▸ hnew.teamAt_ne hne.symm
  have hjj : old.teamAt j ≠ new.teamAt j := hmove ▸ hold.teamAt_ne hne.symm
  rw [exists_slot_iff hne, teamScored_iff hne]
  simp only [scoredFromTo_iff, eq_true hmove, eq_false hother, eq_false hii, eq_false hjj,
    true_and, false_and, or_false, false_or]
  omega

theorem rose_iff_of_bothLeave (hleave : ∀ i j, old.teamAt i ≠ new.teamAt j) :
    ((∃ i, old.scoreAt i < new.scoreAt i) ↔ old.TeamScored new)
      ↔ ∀ i, new.scoreAt i ≤ old.scoreAt i := by
  have hnone : ¬ old.TeamScored new := fun ⟨i, j, hsame, _⟩ => hleave i j hsame
  rw [iff_false_right hnone]
  exact not_exists.trans (forall_congr' fun _ => Nat.not_lt)

/-- **A slot rises just when a team scores exactly where the slots tell it.** -/
theorem rose_iff_teamScored (hold : old.DistinctTeams) (hnew : new.DistinctTeams) :
    ((∃ i, old.scoreAt i < new.scoreAt i) ↔ old.TeamScored new) ↔ old.SlotsTell new := by
  refine ⟨fun hagrees => ?_, fun htell => ?_⟩
  · obtain hkeep | hswap | ⟨i, j, hne, hkeep, hother⟩ | ⟨i, j, hne, hmove, hother⟩ | hleave :=
      standing_cases old new
    · exact .bothKeep hkeep
    · exact .exchange hswap ((rose_iff_of_exchange hold hswap).mp hagrees)
    · exact .oneKeeps i j hne hkeep hother
        ((rose_iff_of_oneKeeps hold hnew hne hkeep hother).mp hagrees)
    · exact .oneMoves i j hne hmove hother
        ((rose_iff_of_oneMoves hold hnew hne hmove hother).mp hagrees)
    · exact .bothLeave hleave ((rose_iff_of_bothLeave hleave).mp hagrees)
  · cases htell with
    | bothKeep hkeep => exact rose_iff_of_bothKeep hnew hkeep
    | exchange hswap hscores => exact (rose_iff_of_exchange hold hswap).mpr hscores
    | oneKeeps i j hne hkeep hother hscores =>
      exact (rose_iff_of_oneKeeps hold hnew hne hkeep hother).mpr hscores
    | oneMoves i j hne hmove hother hscores =>
      exact (rose_iff_of_oneMoves hold hnew hne hmove hother).mpr hscores
    | bothLeave hleave hscores => exact (rose_iff_of_bothLeave hleave).mpr hscores

end Standing

end Gc.GameControllerPacket

namespace SupervisorLogic

open Gc.GameControllerPacket

variable {K : Type*} [Field K] [Libc K] [LinearOrder K]

/-- **The call sends the ball to the centre on account of a goal**: it takes the packet for one
after a goal, writes the free joint of the ball so that the ball's geom is at the configured point,
and goes on to the robots from there. -/
def CentresOnGoal (m : MjModel K) (logic : SupervisorLogic K) (d : MjData K)
    (pkt : Gc.GameControllerPacket) : Prop :=
  logic.goalDetected pkt = true
    ∧ ∃ b g d', m.name2id .body logic.cfg.ball.body = some b
      ∧ m.name2id .geom logic.cfg.ball.geom = some g
      ∧ m.Wrote b (ballPose m logic.cfg.ball g) d d'
      ∧ (logic.process m d pkt).2.data = afterRobots m logic.prev pkt d' logic.cfg.robots

omit [Libc K] [LinearOrder K] in
theorem scoreIncreased_iff (old new : Gc.GameControllerPacket) :
    scoreIncreased old new = true ↔ ∃ i, old.scoreAt i < new.scoreAt i := by
  rw [scoreIncreased, List.any_eq_true]
  constructor
  · rintro ⟨i, -, hrose⟩
    exact ⟨i, UInt8.lt_iff_toNat_lt.mp (of_decide_eq_true hrose)⟩
  · rintro ⟨i, hrose⟩
    exact ⟨i, List.mem_finRange i, decide_eq_true (UInt8.lt_iff_toNat_lt.mpr hrose)⟩

/-- A ball that the supervisor manages is sent to the centre whenever a goal is detected. -/
theorem centresOnGoal_iff {m : MjModel K} {logic : SupervisorLogic K} {d : MjData K}
    {pkt : Gc.GameControllerPacket} (henabled : logic.cfg.ball.enabled = true)
    (hplaceable : ballPlaceable m logic.cfg.ball = true) :
    CentresOnGoal m logic d pkt ↔ logic.goalDetected pkt = true := by
  refine ⟨fun h => h.1, fun hgoal => ⟨hgoal, ?_⟩⟩
  have hcenter : logic.centerBall pkt = true := by
    rw [centerBall, hgoal]
    simp
  have hnames := hplaceable
  rw [ballPlaceable, Option.any_eq_true] at hnames
  obtain ⟨b, hbody, hnames⟩ := hnames
  obtain ⟨g, hgeom, -⟩ := (Option.any_eq_true _ _).mp hnames
  have hplaced := afterBall_of_placeable (d := d) hcenter henabled hplaceable hbody hgeom
  exact ⟨b, g, _, hbody, hgeom, placeFreeBodyByGeomCenter_wrote hplaced,
    process_data_eq_afterRobots m logic d pkt⟩

/-- **The ball goes to the centre on account of a goal just when a team has scored, exactly where
the slots tell it**: on two packets on end, for a ball that is enabled and can be placed, with
resets on goals configured. -/
theorem centresOnGoal_iff_teamScored (m : MjModel K) {logic : SupervisorLogic K}
    (hreset : logic.cfg.resetBallOnGoal = true) (henabled : logic.cfg.ball.enabled = true)
    (hplaceable : ballPlaceable m logic.cfg.ball = true) {old new : Gc.GameControllerPacket}
    (hold : old.DistinctTeams) (hnew : new.DistinctTeams) (d d' : MjData K) :
    (CentresOnGoal m (logic.process m d old).1 d' new ↔ old.TeamScored new)
      ↔ old.SlotsTell new := by
  have hdetected : (logic.process m d old).1.goalDetected new = scoreIncreased old new := by
    change (logic.cfg.resetBallOnGoal && scoreIncreased old new) = scoreIncreased old new
    rw [hreset, Bool.true_and]
  have hcfg : (logic.process m d old).1.cfg = logic.cfg := rfl
  rw [centresOnGoal_iff (hcfg ▸ henabled) (hcfg ▸ hplaceable), hdetected, scoreIncreased_iff,
    rose_iff_teamScored hold hnew]

/-- A packet with team `a` in the first slot and team `b` in the second, and their scores. -/
def scoreboard (a scoreA b scoreB : UInt8) : Gc.GameControllerPacket :=
  let pkt := packetOf a .unpenalised
  { pkt with
    teams :=
      ![{ pkt.teams 0 with score := scoreA }, { pkt.teams 1 with teamId := b, score := scoreB }] }

/-- Team 7 scores where it stands while the other slot passes from team 2 to team 9, which has more
goals: a goal, and the ball goes to the centre. -/
theorem centresOnGoal_kept :
    (CentresOnGoal ballScene (({ cfg := {} } : SupervisorLogic ℚ).process ballScene k1Upright
        (scoreboard 7 0 2 0)).1 k1Upright (scoreboard 7 1 9 3)
      ↔ (scoreboard 7 0 2 0).TeamScored (scoreboard 7 1 9 3)) :=
  (centresOnGoal_iff_teamScored ballScene rfl rfl (by decide) (by decide) (by decide) k1Upright
    k1Upright).mpr (.oneKeeps 0 1 Fin.zero_ne_one rfl (by decide) (.inl (by decide)))

/-- The two entries change places: nobody has scored, and the ball goes to the centre on account of
a goal. -/
theorem centresOnGoal_exchanged :
    let logic : SupervisorLogic ℚ := { cfg := {} }
    logic.cfg.resetBallOnGoal = true ∧ logic.cfg.ball.enabled = true
      ∧ ballPlaceable ballScene logic.cfg.ball = true
      ∧ (scoreboard 7 1 2 0).DistinctTeams ∧ (scoreboard 2 0 7 1).DistinctTeams
      ∧ CentresOnGoal ballScene (logic.process ballScene k1Upright (scoreboard 7 1 2 0)).1 k1Upright
        (scoreboard 2 0 7 1)
      ∧ ¬ (scoreboard 7 1 2 0).TeamScored (scoreboard 2 0 7 1) := by
  refine ⟨rfl, rfl, by decide, by decide, by decide, ?_, by decide⟩
  exact (centresOnGoal_iff rfl (by decide)).mpr (by decide)

end SupervisorLogic

end K1Sim
