import K1Sim.Shared.GameConfig
import K1Sim.Shared.RealLibc
import Mathlib.Data.Nat.Count

/-!
# Shared/LineUp — a game lined up off the touchlines

Robots are put two at a time on alternate sides.  The slot of a robot counts the robots before it on
its side (`slot_eq_count`), so a side is filled without gaps from the penalty mark; the other team
is the mirror image (`game_linedUp`).
-/

namespace K1Sim

namespace Config

/-! ## Slots and sides -/

/-- The robot is on the `-y` side of its team. -/
def OnNearSide (i : ℕ) : Prop := i / 2 % 2 = 0

instance : DecidablePred OnNearSide := fun i => inferInstanceAs (Decidable (i / 2 % 2 = 0))

theorem count_onNearSide (n : ℕ) : Nat.count OnNearSide n = n / 4 * 2 + min (n % 4) 2 := by
  induction n with
  | zero => rfl
  | succ n ih =>
    rw [Nat.count_succ, ih]
    split_ifs with hside <;> rw [OnNearSide] at hside <;> omega

theorem count_not_onNearSide (n : ℕ) :
    Nat.count (fun i => ¬ OnNearSide i) n = n / 4 * 2 + (n % 4 - 2) := by
  induction n with
  | zero => rfl
  | succ n ih =>
    rw [Nat.count_succ, ih]
    split_ifs with hside <;> rw [OnNearSide] at hside <;> omega

/-- **The slot of a robot is the number of robots before it on its side.** -/
theorem slot_eq_count (i : ℕ) :
    (OnNearSide i → slot i = Nat.count OnNearSide i)
      ∧ (¬ OnNearSide i → slot i = Nat.count (fun i => ¬ OnNearSide i) i) := by
  rw [count_onNearSide, count_not_onNearSide, OnNearSide, slot]
  omega

/-- **A list numbered by how many came before is numbered without gaps.** -/
theorem map_filter_range {p : ℕ → Prop} [DecidablePred p] {f : ℕ → ℕ}
    (h : ∀ i, p i → f i = Nat.count p i) (n : ℕ) :
    ((List.range n).filter p).map f = List.range (Nat.count p n) := by
  induction n with
  | zero => rfl
  | succ n ih =>
    rw [List.range_succ, List.filter_append, List.map_append, ih, Nat.count_succ]
    by_cases hn : p n
    · have hlast : ([n].filter p).map f = [Nat.count p n] := by simp [hn, h n hn]
      rw [if_pos hn, List.range_succ, hlast]
    · have hlast : ([n].filter p).map f = [] := by simp [hn]
      rw [if_neg hn, hlast, List.append_nil, add_zero]

/-- Two robots in one slot are on different sides. -/
theorem eq_of_slot_eq {i j : ℕ} (hslot : slot i = slot j) (hside : OnNearSide i ↔ OnNearSide j) :
    i = j := by
  rw [OnNearSide, OnNearSide] at hside
  rw [slot, slot] at hslot
  omega

/-- The last slot that one of `n` robots occupies. -/
def lastSlot (n : ℕ) : ℕ := (Finset.range n).sup slot

theorem slot_le_lastSlot {i n : ℕ} (h : i < n) : slot i ≤ lastSlot n :=
  Finset.le_sup (Finset.mem_range.mpr h)

/-! ## One team -/

section Team

variable (cfg : GameNode ℝ)

/-- The place of a slot along the touchline. -/
noncomputable def slotX (k : ℕ) : ℝ :=
  -cfg.length / 2 + cfg.penaltyMarkDistance + k * cfg.sidelineSpacing

/-- How far the line-up is from the centre line. -/
noncomputable def sideY : ℝ := cfg.width / 2 + cfg.sidelineOffset

theorem lineUp_of_onNearSide {i : ℕ} (h : OnNearSide i) :
    lineUp cfg i = ⟨slotX cfg (slot i), -sideY cfg, Real.pi / 2⟩ := by
  have hside : touchline i = (-1 : ℝ) := if_pos h
  rw [lineUp, hside]
  rw [neg_one_mul, neg_neg, one_mul]
  rfl

theorem lineUp_of_not_onNearSide {i : ℕ} (h : ¬ OnNearSide i) :
    lineUp cfg i = ⟨slotX cfg (slot i), sideY cfg, -Real.pi / 2⟩ := by
  have hside : touchline i = (1 : ℝ) := if_neg h
  rw [lineUp, hside]
  rw [neg_one_mul, one_mul]
  rfl

theorem lineUp_x (i : ℕ) : (lineUp cfg i).x = slotX cfg (slot i) := rfl

theorem slotX_mono {cfg : GameNode ℝ} (hspacing : 0 < cfg.sidelineSpacing) {k l : ℕ} (h : k ≤ l) :
    slotX cfg k ≤ slotX cfg l :=
  add_le_add_right (mul_le_mul_of_nonneg_right (Nat.cast_le.mpr h) hspacing.le) _

variable {cfg} (hside : 0 < sideY cfg)

include hside

theorem lineUp_y_neg_iff (i : ℕ) : (lineUp cfg i).y < 0 ↔ OnNearSide i := by
  by_cases h : OnNearSide i
  · rw [lineUp_of_onNearSide cfg h]
    exact iff_of_true (neg_neg_of_pos hside) h
  · rw [lineUp_of_not_onNearSide cfg h]
    exact iff_of_false (not_lt_of_ge hside.le) h

theorem lineUp_y_pos_iff (i : ℕ) : 0 < (lineUp cfg i).y ↔ ¬ OnNearSide i := by
  by_cases h : OnNearSide i
  · rw [lineUp_of_onNearSide cfg h]
    exact iff_of_false (not_lt_of_ge (neg_neg_of_pos hside).le) (not_not_intro h)
  · rw [lineUp_of_not_onNearSide cfg h]
    exact iff_of_true hside h

/-- **A robot faces the field**, straight across the touchline. -/
theorem lineUp_inward (i : ℕ) :
    Real.cos (lineUp cfg i).yaw = 0 ∧ (lineUp cfg i).y * Real.sin (lineUp cfg i).yaw < 0 := by
  by_cases h : OnNearSide i
  · rw [lineUp_of_onNearSide cfg h]
    refine ⟨Real.cos_pi_div_two, ?_⟩
    rw [Real.sin_pi_div_two, mul_one]
    exact neg_neg_of_pos hside
  · rw [lineUp_of_not_onNearSide cfg h]
    dsimp only
    rw [neg_div, Real.cos_neg, Real.sin_neg, Real.sin_pi_div_two]
    refine ⟨Real.cos_pi_div_two, ?_⟩
    rw [mul_neg_one]
    exact neg_neg_of_pos hside

theorem abs_lineUp_y (i : ℕ) : |(lineUp cfg i).y| = sideY cfg := by
  by_cases h : OnNearSide i
  · rw [lineUp_of_onNearSide cfg h]
    exact (abs_neg _).trans (abs_of_pos hside)
  · rw [lineUp_of_not_onNearSide cfg h]
    exact abs_of_pos hside

theorem position_lineUp_inj (hspacing : 0 < cfg.sidelineSpacing) {i j : ℕ}
    (h : (lineUp cfg i).position = (lineUp cfg j).position) : i = j := by
  obtain ⟨hx, hy⟩ := Prod.mk.inj h
  refine eq_of_slot_eq ?_ ?_
  · rw [lineUp_x, lineUp_x, slotX, slotX, add_right_inj] at hx
    exact Nat.cast_inj.mp (mul_right_cancel₀ hspacing.ne' hx)
  · rw [← lineUp_y_neg_iff hside, ← lineUp_y_neg_iff hside, hy]

end Team

/-! ## The game -/

/-- The spawns in the order of their indices, on one side of the field. -/
noncomputable def sideXs (onSide : ℝ → Prop) [DecidablePred onSide] (spawns : List (Spawn ℝ)) :
    List ℝ :=
  (spawns.filter fun s => onSide s.y).map (·.x)

/-- A game of `n` against `n` lined up off the touchlines. -/
structure LinedUp (cfg : GameNode ℝ) (n : ℕ) (g : Game ℝ) : Prop where
  length_spawns : g.spawns.length = n + n
  positions_nodup : (g.spawns.map (·.position)).Nodup
  /-- The sides are filled from the penalty mark, one slot after the other. -/
  sides : ∃ m₁ m₂ : ℕ, m₁ + m₂ = n ∧ m₁ ≤ m₂ + 2 ∧ m₂ ≤ m₁ + 2
    ∧ sideXs (· < 0) (g.spawns.take n) = (List.range m₁).map (slotX cfg)
    ∧ sideXs (0 < ·) (g.spawns.take n) = (List.range m₂).map (slotX cfg)
  off_touchline : ∀ s ∈ g.spawns, |s.y| = sideY cfg
  inward : ∀ s ∈ g.spawns, Real.cos s.yaw = 0 ∧ s.y * Real.sin s.yaw < 0
  first_half : ∀ s ∈ g.spawns.take n, s.x < 0
  second_half : ∀ s ∈ g.spawns.drop n, 0 < s.x
  mirrored : ∀ (i : ℕ) (s : Spawn ℝ), i < n → g.spawns[i]? = some s →
    g.spawns[n + i]? = some ⟨-s.x, -s.y, s.yaw + Real.pi⟩

theorem sideXs_lineUp (cfg : GameNode ℝ) {onSide : ℝ → Prop} [DecidablePred onSide] {p : ℕ → Prop}
    [DecidablePred p] (hside : ∀ i, onSide (lineUp cfg i).y ↔ p i)
    (hslot : ∀ i, p i → slot i = Nat.count p i) (n : ℕ) :
    sideXs onSide ((List.range n).map (lineUp cfg))
      = (List.range (Nat.count p n)).map (slotX cfg) := by
  have hfilter : ((fun s : Spawn ℝ => decide (onSide s.y)) ∘ lineUp cfg) = fun i => decide (p i) :=
    funext fun i => decide_eq_decide.mpr (hside i)
  rw [sideXs, List.filter_map, hfilter, ← map_filter_range hslot, List.map_map, List.map_map]
  rfl

theorem mirror_inward {s : Spawn ℝ} (h : Real.cos s.yaw = 0 ∧ s.y * Real.sin s.yaw < 0) :
    Real.cos (mirror s).yaw = 0 ∧ (mirror s).y * Real.sin (mirror s).yaw < 0 := by
  change Real.cos (s.yaw + Real.pi) = 0 ∧ -s.y * Real.sin (s.yaw + Real.pi) < 0
  rw [Real.cos_add_pi, Real.sin_add_pi, h.1, neg_zero, neg_mul_neg]
  exact ⟨rfl, h.2⟩

theorem nodup_positions_lineUp {cfg : GameNode ℝ} (hspacing : 0 < cfg.sidelineSpacing)
    (hside : 0 < sideY cfg) (n : ℕ) :
    (((List.range n).map (lineUp cfg)).map Spawn.position).Nodup := by
  rw [List.map_map]
  exact List.Nodup.map (fun _ _ h => position_lineUp_inj hside hspacing h) List.nodup_range

theorem nodup_positions_mirror {spawns : List (Spawn ℝ)}
    (h : (spawns.map Spawn.position).Nodup) :
    ((spawns.map mirror).map Spawn.position).Nodup := by
  have hneg : (spawns.map mirror).map Spawn.position
      = (spawns.map Spawn.position).map fun p => (-p.1, -p.2) := by
    rw [List.map_map, List.map_map]
    rfl
  rw [hneg]
  refine h.map fun p q hpq => ?_
  obtain ⟨hx, hy⟩ := Prod.mk.inj hpq
  exact Prod.ext (neg_injective hx) (neg_injective hy)

/-- **A team in its own half stands apart from its mirror image.** -/
theorem disjoint_positions_mirror {spawns : List (Spawn ℝ)} (h : ∀ s ∈ spawns, s.x < 0) :
    (spawns.map Spawn.position).Disjoint ((spawns.map mirror).map Spawn.position) := by
  rw [List.map_map]
  intro p hp hp'
  obtain ⟨s, hs, rfl⟩ := List.mem_map.mp hp
  obtain ⟨t, ht, hts⟩ := List.mem_map.mp hp'
  have hx : -t.x = s.x := congrArg Prod.fst hts
  have hs' := h s hs
  rw [← hx] at hs'
  exact absurd (neg_neg_iff_pos.mp hs') (not_lt_of_gt (h t ht))

/-- What holds of each robot of a line-up holds of all its spawns. -/
theorem forall_mem_lineUp {cfg : GameNode ℝ} {n : ℕ} {P : Spawn ℝ → Prop}
    (h : ∀ i < n, P (lineUp cfg i)) : ∀ s ∈ (List.range n).map (lineUp cfg), P s :=
  List.forall_mem_map.mpr fun i hi => h i (List.mem_range.mp hi)

/-- What holds of one team, and passes to mirror images, holds of both. -/
theorem forall_mem_mirrored {spawns : List (Spawn ℝ)} {P : Spawn ℝ → Prop}
    (h : ∀ s ∈ spawns, P s) (hmirror : ∀ s, P s → P (mirror s)) :
    ∀ s ∈ spawns ++ spawns.map mirror, P s :=
  List.forall_mem_append.mpr ⟨h, List.forall_mem_map.mpr fun s hs => hmirror s (h s hs)⟩

theorem getElem?_mirrored {spawns : List (Spawn ℝ)} {i : ℕ} {s : Spawn ℝ}
    (hi : i < spawns.length) (hs : (spawns ++ spawns.map mirror)[i]? = some s) :
    (spawns ++ spawns.map mirror)[spawns.length + i]? = some (mirror s) := by
  rw [List.getElem?_append_left hi] at hs
  rw [List.getElem?_append_right (Nat.le_add_right _ _), Nat.add_sub_cancel_left,
    List.getElem?_map, hs]
  rfl

/-- **The sides of a team fill up from the penalty mark.** -/
theorem sides_lineUp {cfg : GameNode ℝ} (hside : 0 < sideY cfg) (n : ℕ) :
    ∃ m₁ m₂ : ℕ, m₁ + m₂ = n ∧ m₁ ≤ m₂ + 2 ∧ m₂ ≤ m₁ + 2
      ∧ sideXs (· < 0) ((List.range n).map (lineUp cfg)) = (List.range m₁).map (slotX cfg)
      ∧ sideXs (0 < ·) ((List.range n).map (lineUp cfg)) = (List.range m₂).map (slotX cfg) := by
  have hnear := count_onNearSide n
  have hfar := count_not_onNearSide n
  refine ⟨Nat.count OnNearSide n, Nat.count (fun i => ¬ OnNearSide i) n, by omega, by omega,
    by omega, ?_, ?_⟩
  · exact sideXs_lineUp cfg (lineUp_y_neg_iff hside) (fun i => (slot_eq_count i).1) n
  · exact sideXs_lineUp cfg (lineUp_y_pos_iff hside) (fun i => (slot_eq_count i).2) n

/-- **A game off the field is two mirrored line-ups.** -/
theorem game_linedUp (cfg : GameNode ℝ) (n : ℕ) (hspacing : 0 < cfg.sidelineSpacing)
    (hside : 0 < cfg.width / 2 + cfg.sidelineOffset) (hhalf : slotX cfg (lastSlot n) < 0) :
    ∃ g, game cfg n false = some g ∧ LinedUp cfg n g := by
  let team := (List.range n).map (lineUp cfg)
  have hlength : team.length = n := by rw [List.length_map, List.length_range]
  have hfirst : ∀ s ∈ team, s.x < 0 := forall_mem_lineUp fun i hi =>
    (slotX_mono hspacing (slot_le_lastSlot hi)).trans_lt hhalf
  have htake : (team ++ team.map mirror).take n = team := List.take_left' hlength
  have hdrop : (team ++ team.map mirror).drop n = team.map mirror := List.drop_left' hlength
  refine ⟨⟨cfg.field, team ++ team.map mirror⟩, rfl, ?_, ?_, ?_, ?_, ?_, ?_, ?_, ?_⟩
  case refine_1 => rw [List.length_append, List.length_map mirror, hlength]
  case refine_2 =>
    have hteam : (team.map Spawn.position).Nodup := nodup_positions_lineUp hspacing hside n
    rw [List.map_append]
    exact hteam.append (nodup_positions_mirror hteam) (disjoint_positions_mirror hfirst)
  case refine_3 =>
    rw [htake]
    exact sides_lineUp hside n
  case refine_4 =>
    exact forall_mem_mirrored (P := fun s => |s.y| = sideY cfg)
      (forall_mem_lineUp fun i _ => abs_lineUp_y hside i) fun s hs => (abs_neg s.y).trans hs
  case refine_5 =>
    exact forall_mem_mirrored (forall_mem_lineUp fun i _ => lineUp_inward hside i)
      fun _ => mirror_inward
  case refine_6 =>
    rw [htake]
    exact hfirst
  case refine_7 =>
    rw [hdrop]
    exact List.forall_mem_map.mpr fun s hs => neg_pos_of_neg (hfirst s hs)
  case refine_8 =>
    intro i s hi hs
    rw [← hlength]
    exact getElem?_mirrored (hlength ▸ hi) hs

/-- The game of `simulation.yaml`. -/
noncomputable def middleGame : GameNode ℝ where
  field := "middle"
  length := 14
  width := 9
  centreCircleRadius := 3 / 2
  penaltyMarkDistance := 2
  attacker := (-2, 0)
  goalkeeper := (-13 / 2, 0)
  wings := [(-3, 5 / 2), (-3, -5 / 2)]
  sidelineOffset := 3 / 10
  sidelineSpacing := 4 / 5

theorem middleGame_linedUp : ∃ g, game middleGame 11 false = some g ∧ LinedUp middleGame 11 g := by
  have hlast : lastSlot 11 = 5 := by decide
  have hhalf : slotX middleGame (lastSlot 11) < 0 := by
    rw [hlast]
    norm_num [slotX, middleGame]
  exact game_linedUp middleGame 11 (by norm_num [middleGame]) (by norm_num [middleGame]) hhalf

end Config

end K1Sim
