import K1Sim.Foundations.TangentTiles
import K1Sim.Scene.GenerateField

/-!
# Scene/PitchArcs — the circle and the corner arcs of a pitch are whole

The arcs are made of straight boxes that overlap.  Each is a tile of its circle (`mem_covered_arc`),
and the tiles of the centre circle and of the corner arcs leave no gap in the line (`arcs_whole`).
-/

namespace K1Sim

open Foundations

namespace GenerateField

/-! ## The steps of an arc -/

theorem roundEven_intCast (n : ℤ) : roundEven n = n := by
  rw [roundEven, Int.floor_intCast, sub_self]
  exact if_pos (by norm_num)

theorem segmentStep_eq : (segmentStep : ℝ) = Real.pi / 20 := by
  change 9 * (Real.pi / 180) = Real.pi / 20
  ring

theorem segmentStep_ne_zero : (segmentStep : ℝ) ≠ 0 := by
  have hpi := Real.pi_pos
  rw [segmentStep_eq]
  positivity

theorem circle_turn : ((40 : ℕ) : ℝ) * segmentStep = 2 * Real.pi := by
  rw [segmentStep_eq]
  push_cast
  ring

theorem quarter_turn : ((10 : ℕ) : ℝ) * segmentStep = Real.pi / 2 := by
  rw [segmentStep_eq]
  push_cast
  ring

/-- **Forty segments to the circle.** -/
theorem segments_circle : (PyRound.round (2 * Libc.pi / segmentStep : ℝ)).toNat = 40 := by
  have hquotient : (2 * Libc.pi / segmentStep : ℝ) = ((40 : ℤ) : ℝ) :=
    (div_eq_iff segmentStep_ne_zero).mpr circle_turn.symm
  rw [hquotient]
  exact congrArg Int.toNat (roundEven_intCast 40)

/-- **Ten segments to the quarter.** -/
theorem segments_quarter : (PyRound.round (Libc.pi / 2 / segmentStep : ℝ)).toNat = 10 := by
  have hquotient : (Libc.pi / 2 / segmentStep : ℝ) = ((10 : ℤ) : ℝ) :=
    (div_eq_iff segmentStep_ne_zero).mpr quarter_turn.symm
  rw [hquotient]
  exact congrArg Int.toNat (roundEven_intCast 10)

/-! ## What an arc covers -/

/-- The quaternion of a segment lays its long axis on the tangent. -/
theorem mjuRotVecQuat_heading (θ : ℝ) :
    let heading := (θ + Real.pi / 2) / 2
    mjuRotVecQuat ⟨1, 0, 0⟩ ⟨Real.cos heading, 0, 0, Real.sin heading⟩
        = ⟨-Real.sin θ, Real.cos θ, 0⟩
      ∧ mjuRotVecQuat ⟨0, 1, 0⟩ ⟨Real.cos heading, 0, 0, Real.sin heading⟩
        = ⟨-Real.cos θ, -Real.sin θ, 0⟩ := by
  intro heading
  have hdouble : 2 * heading = θ + Real.pi / 2 := by
    change 2 * ((θ + Real.pi / 2) / 2) = _
    ring
  have hcos : 1 - 2 * Real.sin heading ^ 2 = -Real.sin θ := by
    rw [← Real.cos_add_pi_div_two, ← hdouble, Real.cos_two_mul, Real.sin_sq]
    ring
  have hsin : 2 * (Real.sin heading * Real.cos heading) = Real.cos θ := by
    rw [← Real.sin_add_pi_div_two θ, ← hdouble, Real.sin_two_mul, mul_assoc]
  constructor
  · simp only [mjuRotVecQuat, Vec3.cross, Vec3.mk.injEq]
    exact ⟨by linear_combination hcos, by linear_combination hsin, by ring⟩
  · simp only [mjuRotVecQuat, Vec3.cross, Vec3.mk.injEq]
    exact ⟨by linear_combination -hsin, by linear_combination hcos, by ring⟩

/-- The direction of a segment. -/
noncomputable def theta (start : ℝ) (i : ℕ) : ℝ := start + i * segmentStep

/-- The half-length of a segment. -/
noncomputable def halfLength (radius : ℝ) : ℝ := radius * segmentStep / 2 * segmentOverlap

/-- **A segment of an arc is a tile of its circle.** -/
theorem mem_covered_arc (f : PitchField ℝ) (cx cy radius start : ℝ) (n : ℕ) (p : ℝ × ℝ) :
    p ∈ covered (arc f cx cy radius start n) ↔
      ∃ i < n, (p.1 - cx, p.2 - cy) ∈ tile radius (halfLength radius) (f.lineWidth / 2)
        (Real.cos (theta start i)) (Real.sin (theta start i)) := by
  have hsegment : ∀ i : ℕ, ∀ m : Box ℝ,
      m = { x := cx + radius * Real.cos (theta start i)
            y := cy + radius * Real.sin (theta start i)
            halfX := halfLength radius
            halfY := f.lineWidth / 2
            quat := some (Real.cos ((theta start i + Real.pi / 2) / 2),
              Real.sin ((theta start i + Real.pi / 2) / 2)) } →
      (p ∈ m.covers ↔ (p.1 - cx, p.2 - cy) ∈ tile radius (halfLength radius) (f.lineWidth / 2)
        (Real.cos (theta start i)) (Real.sin (theta start i))) := by
    rintro i m rfl
    obtain ⟨hlong, hacross⟩ := mjuRotVecQuat_heading (theta start i)
    have hunit := Real.cos_sq_add_sin_sq (theta start i)
    simp only [Box.covers, Box.axis, hlong, hacross, tile, Set.mem_ofPred_eq]
    refine and_congr (iff_of_eq ?_) (iff_of_eq ?_)
    · congr 2
      ring
    · rw [← abs_neg]
      congr 2
      linear_combination -radius * hunit
  simp only [covered, arc, Set.mem_ofPred_eq, List.mem_map, List.mem_range]
  constructor
  · rintro ⟨m, ⟨i, hi, rfl⟩, hp⟩
    exact ⟨i, hi, (hsegment i _ rfl).mp hp⟩
  · rintro ⟨i, hi, hp⟩
    exact ⟨_, ⟨i, hi, rfl⟩, (hsegment i _ rfl).mpr hp⟩

/-! ## The corners -/

/-- Where the arc of a corner starts. -/
noncomputable def cornerStart (s : ℝ × ℝ) : ℝ :=
  Libc.atan2 (-s.2) (-s.1) - Libc.pi / 4 + segmentStep / 2

theorem cornerArc_eq (f : PitchField ℝ) (s : ℝ × ℝ) :
    cornerArc f s = arc f (s.1 * (f.length / 2)) (s.2 * (f.width / 2)) f.cornerArcRadius
      (cornerStart s) 10 := by
  rw [cornerArc, segments_quarter]
  rfl

/-- The segment of a corner's arc that stands to it as a given one does to the corner with both
signs negative. -/
noncomputable def cornerIndex (s : ℝ × ℝ) (i : ℕ) : ℕ := if s.1 = s.2 then i else 9 - i

/-- Signs. -/
def Signs (s : ℝ × ℝ) : Prop := s.1 * s.1 = 1 ∧ s.2 * s.2 = 1

theorem mem_corners (s : ℝ × ℝ) : s ∈ corners ↔ Signs s := by
  obtain ⟨x, y⟩ := s
  simp only [corners, List.mem_cons, List.not_mem_nil, Prod.mk.injEq, or_false, Signs,
    mul_self_eq_one_iff]
  constructor
  · rintro (⟨rfl, rfl⟩ | ⟨rfl, rfl⟩ | ⟨rfl, rfl⟩ | ⟨rfl, rfl⟩) <;> simp
  · rintro ⟨rfl | rfl, rfl | rfl⟩ <;> simp

/-- Turned by some angle from the start of an arc that is centred on the way into the field. -/
theorem cos_sin_corner {s : ℝ × ℝ} (hs : Signs s) (β : ℝ) :
    let α := Libc.atan2 (-s.2) (-s.1) - Libc.pi / 4 + β
    Real.cos α = (-(s.1 + s.2) * Real.cos β - (s.1 - s.2) * Real.sin β) / 2
      ∧ Real.sin α = ((s.1 - s.2) * Real.cos β - (s.1 + s.2) * Real.sin β) / 2 := by
  intro α
  obtain ⟨h₁, h₂⟩ := hs
  have hnorm : ‖(⟨-s.1, -s.2⟩ : ℂ)‖ = √2 := by
    rw [Complex.norm_def, Complex.normSq_mk, neg_mul_neg, neg_mul_neg, h₁, h₂]
    norm_num
  have hne : (⟨-s.1, -s.2⟩ : ℂ) ≠ 0 := by
    rw [← norm_pos_iff, hnorm]
    positivity
  have hcos : Real.cos (Libc.atan2 (-s.2) (-s.1)) = -s.1 / √2 := by
    change Real.cos (Complex.arg ⟨-s.1, -s.2⟩) = _
    rw [Complex.cos_arg hne, hnorm]
  have hsin : Real.sin (Libc.atan2 (-s.2) (-s.1)) = -s.2 / √2 := by
    change Real.sin (Complex.arg ⟨-s.1, -s.2⟩) = _
    rw [Complex.sin_arg, hnorm]
  have htwo : √2 / 2 / √2 = (1 / 2 : ℝ) := by
    have hsqrt : √2 ≠ (0 : ℝ) := by positivity
    field_simp
  have hpi : (Libc.pi : ℝ) = Real.pi := rfl
  constructor
  · rw [Real.cos_add, Real.cos_sub, Real.sin_sub, hcos, hsin, hpi, Real.cos_pi_div_four,
      Real.sin_pi_div_four]
    linear_combination (-(s.1 + s.2) * Real.cos β - (s.1 - s.2) * Real.sin β) * htwo
  · rw [Real.sin_add, Real.cos_sub, Real.sin_sub, hcos, hsin, hpi, Real.cos_pi_div_four,
      Real.sin_pi_div_four]
    linear_combination ((s.1 - s.2) * Real.cos β - (s.1 + s.2) * Real.sin β) * htwo

/-- **The directions of a corner's arc** are those of the first quadrant, reflected. -/
theorem cornerStart_directions {s : ℝ × ℝ} (hs : Signs s) {i : ℕ} (hi : i < 10) :
    Real.cos (theta (cornerStart s) (cornerIndex s i))
        = -s.1 * Real.cos ((i + 1 / 2) * segmentStep)
      ∧ Real.sin (theta (cornerStart s) (cornerIndex s i))
        = -s.2 * Real.sin ((i + 1 / 2) * segmentStep) := by
  have htheta : ∀ j : ℕ, theta (cornerStart s) j
      = Libc.atan2 (-s.2) (-s.1) - Libc.pi / 4 + (j + 1 / 2) * segmentStep := by
    intro j
    rw [theta, cornerStart]
    ring
  obtain ⟨hcos, hsin⟩ := cos_sin_corner hs ((cornerIndex s i + 1 / 2) * segmentStep)
  rw [htheta, hcos, hsin]
  by_cases heq : s.1 = s.2
  · rw [cornerIndex, if_pos heq, heq]
    constructor <;> ring
  · have hneg : s.1 = -s.2 := by
      have hprod : (s.1 - s.2) * (s.1 + s.2) = 0 := by linear_combination hs.1 - hs.2
      obtain h | h := mul_eq_zero.mp hprod
      · exact absurd (sub_eq_zero.mp h) heq
      · exact eq_neg_of_add_eq_zero_left h
    have hback : (((9 - i : ℕ) : ℝ) + 1 / 2) * segmentStep
        = Real.pi / 2 - (i + 1 / 2) * segmentStep := by
      rw [Nat.cast_sub (Nat.le_of_lt_succ hi), segmentStep_eq]
      push_cast
      ring
    rw [cornerIndex, if_neg heq, hback, Real.cos_pi_div_two_sub, Real.sin_pi_div_two_sub, hneg]
    constructor <;> ring

theorem cornerIndex_lt {s : ℝ × ℝ} {i : ℕ} (hi : i < 10) : cornerIndex s i < 10 := by
  rw [cornerIndex]
  split_ifs <;> omega

theorem cornerIndex_cornerIndex {s : ℝ × ℝ} {i : ℕ} (hi : i < 10) :
    cornerIndex s (cornerIndex s i) = i := by
  simp only [cornerIndex]
  split_ifs <;> omega

/-! ## Without gaps -/

/-- **A line along a circle, without gaps and no thicker than meant**: the boxes cover all of its
width, but for what a tangent cuts off inside it, as far as it is to be seen, and nothing farther
off the circle than their corners. -/
structure Outlines (l : List (Box ℝ)) (centre : ℝ × ℝ) (radius lineWidth : ℝ)
    (seen : Set (ℝ × ℝ)) : Prop where
  whole : ∀ p ∈ seen, (p.1 - centre.1, p.2 - centre.2)
    ∈ band radius (lineWidth / 2) (segmentStep / 2) → p ∈ covered l
  thin : ∀ p ∈ covered l,
    (radius - lineWidth / 2) ^ 2 ≤ (p.1 - centre.1) ^ 2 + (p.2 - centre.2) ^ 2
      ∧ (p.1 - centre.1) ^ 2 + (p.2 - centre.2) ^ 2
        ≤ (radius + lineWidth / 2) ^ 2 + (radius * segmentStep / 2 * segmentOverlap) ^ 2

/-- The field of play, its lines included. -/
def PitchField.playing (f : PitchField ℝ) : Set (ℝ × ℝ) :=
  {p | |p.1| ≤ f.length / 2 ∧ |p.2| ≤ f.width / 2}

theorem thin_arc (f : PitchField ℝ) (cx cy : ℝ) {radius : ℝ} (start : ℝ) (n : ℕ)
    (hradius : f.lineWidth / 2 ≤ radius) :
    ∀ p ∈ covered (arc f cx cy radius start n),
      (radius - f.lineWidth / 2) ^ 2 ≤ (p.1 - cx) ^ 2 + (p.2 - cy) ^ 2
        ∧ (p.1 - cx) ^ 2 + (p.2 - cy) ^ 2
          ≤ (radius + f.lineWidth / 2) ^ 2 + (radius * segmentStep / 2 * segmentOverlap) ^ 2 := by
  intro p hp
  obtain ⟨i, -, hi⟩ := (mem_covered_arc f cx cy radius start n p).mp hp
  exact dist_of_mem_tile (Real.cos_sq_add_sin_sq _) hradius hi

/-- **Segments that overlap enough**: those of a line that is thin beside its circle. -/
theorem reach_le {lineWidth radius : ℝ} (hthin : lineWidth ≤ 3 / 10 * radius) :
    (radius + lineWidth / 2) * (segmentStep / 2) ≤ halfLength radius := by
  have hstep : (0 : ℝ) ≤ segmentStep / 2 := by
    rw [segmentStep_eq]
    have hpi := Real.pi_pos
    positivity
  have hreach : radius + lineWidth / 2 ≤ radius * (115 / 100) := by linarith
  calc (radius + lineWidth / 2) * (segmentStep / 2)
      ≤ radius * (115 / 100) * (segmentStep / 2) := mul_le_mul_of_nonneg_right hreach hstep
    _ = halfLength radius := by
      rw [halfLength, segmentOverlap]
      ring

theorem outlines_circle {f : PitchField ℝ} (hline : 0 ≤ f.lineWidth)
    (hthin : f.lineWidth ≤ 3 / 10 * (f.centreCircleDiameter / 2)) :
    Outlines (arc f 0 0 (f.centreCircleDiameter / 2) 0 40) (0, 0) (f.centreCircleDiameter / 2)
      f.lineWidth Set.univ where
  whole p _ hp := by
    obtain ⟨i, hi, htile⟩ := band_subset_tiles (by norm_num : 2 ≤ 40) circle_turn (by linarith)
      (reach_le hthin) hp
    refine (mem_covered_arc f _ _ _ _ _ p).mpr ⟨i, hi, ?_⟩
    rwa [theta, zero_add]
  thin := thin_arc f 0 0 0 40 (by linarith)

/-- A field's corner has the field on the other side of both signs. -/
theorem sign_mul_sub_nonpos {s x h : ℝ} (hs : s * s = 1) (hx : |x| ≤ h) : 0 ≤ -s * (x - s * h) := by
  have hle : s * x ≤ h := by
    calc s * x ≤ |s * x| := le_abs_self _
      _ = |x| := by rw [abs_mul, abs_eq_one_of_mul_self hs, one_mul]
      _ ≤ h := hx
  linear_combination hle - h * hs

theorem outlines_corner {f : PitchField ℝ} (hline : 0 ≤ f.lineWidth)
    (hthin : f.lineWidth ≤ 3 / 10 * f.cornerArcRadius) {s : ℝ × ℝ} (hs : Signs s) :
    Outlines (cornerArc f s) (s.1 * (f.length / 2), s.2 * (f.width / 2)) f.cornerArcRadius
      f.lineWidth f.playing where
  whole p hseen hp := by
    have hreflected : (-s.1 * (p.1 - s.1 * (f.length / 2)), -s.2 * (p.2 - s.2 * (f.width / 2)))
        ∈ band f.cornerArcRadius (f.lineWidth / 2) (segmentStep / 2) := by
      have hsq₁ : (-s.1 * (p.1 - s.1 * (f.length / 2))) ^ 2
          = (p.1 - s.1 * (f.length / 2)) ^ 2 := by
        linear_combination (p.1 - s.1 * (f.length / 2)) ^ 2 * hs.1
      have hsq₂ : (-s.2 * (p.2 - s.2 * (f.width / 2))) ^ 2
          = (p.2 - s.2 * (f.width / 2)) ^ 2 := by
        linear_combination (p.2 - s.2 * (f.width / 2)) ^ 2 * hs.2
      rw [band, Set.mem_ofPred_eq, hsq₁, hsq₂]
      exact hp
    -- the corner with both signs negative has its arc in the first quadrant
    obtain ⟨i, hi, htile⟩ := quadrant_subset_tiles (by norm_num : 0 < 10) quarter_turn (by linarith)
      (reach_le hthin) hreflected (sign_mul_sub_nonpos hs.1 hseen.1)
      (sign_mul_sub_nonpos hs.2 hseen.2)
    obtain ⟨hcos, hsin⟩ := cornerStart_directions hs hi
    rw [cornerArc_eq]
    refine (mem_covered_arc f _ _ _ _ _ p).mpr ⟨cornerIndex s i, cornerIndex_lt hi, ?_⟩
    have hneg₁ : -s.1 * -s.1 = 1 := by rw [neg_mul_neg, hs.1]
    have hneg₂ : -s.2 * -s.2 = 1 := by rw [neg_mul_neg, hs.2]
    rw [← mem_tile_reflect hneg₁ hneg₂, hcos, hsin, ← mul_assoc, ← mul_assoc, hneg₁, hneg₂, one_mul,
      one_mul]
    exact htile
  thin := by
    rw [cornerArc_eq]
    exact thin_arc f _ _ _ 10 (by linarith)

/-- **No gap in any arc.**  Where the lines are thin beside the circle and the corner arcs that they
are painted along, boxes of the pitch make up the whole of the circle's line, and the part of each
corner's that lies on the field. -/
theorem arcs_whole (f : PitchField ℝ) (hline : 0 ≤ f.lineWidth)
    (hcircle : f.lineWidth ≤ 3 / 10 * (f.centreCircleDiameter / 2))
    (hcorner : 0 < f.cornerArcRadius → f.lineWidth ≤ 3 / 10 * f.cornerArcRadius) :
    (∃ l ⊆ (pitch f).markings,
        Outlines l (0, 0) (f.centreCircleDiameter / 2) f.lineWidth Set.univ)
      ∧ (0 < f.cornerArcRadius → ∀ s ∈ (corners : List (ℝ × ℝ)), ∃ l ⊆ (pitch f).markings,
        Outlines l (s.1 * (f.length / 2), s.2 * (f.width / 2)) f.cornerArcRadius f.lineWidth
          f.playing) := by
  constructor
  · refine ⟨_, fun m hm => ?_, outlines_circle hline hcircle⟩
    rw [← segments_circle] at hm
    exact List.mem_append_left _ (List.mem_append_left _ (List.mem_append_right _ hm))
  · intro hpos s hs
    refine ⟨_, fun m hm => ?_, outlines_corner hline (hcorner hpos) ((mem_corners s).mp hs)⟩
    refine List.mem_append_right _ ?_
    rw [if_pos hpos]
    exact List.mem_flatMap.mpr ⟨s, hs, hm⟩

theorem arcs_whole_middle :
    (∃ l ⊆ (pitch middle).markings, Outlines l (0, 0) (3 / 2) (5 / 100) Set.univ)
      ∧ ((0 : ℝ) < 5 / 10 → ∀ s ∈ (corners : List (ℝ × ℝ)), ∃ l ⊆ (pitch middle).markings,
        Outlines l (s.1 * (14 / 2), s.2 * (9 / 2)) (5 / 10) (5 / 100) middle.playing) :=
  arcs_whole middle (by norm_num [middle]) (by norm_num [middle]) (by norm_num [middle])

end GenerateField

end K1Sim
