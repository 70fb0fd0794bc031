import K1Sim.Shared.Spread
import Mathlib.Data.Rat.Floor
import Mathlib.LinearAlgebra.Prod

/-!
# Shared/SpreadPlaces — where `spread_in_half` leaves the robots

The samples are grid points strictly inside the half and outside the circle, and no two of them
coincide.  The free robots start on samples and go to centroids of samples: they never share a spot
(`spread_distinct_iff`) and stay inside the half (`spread_inHalf_iff`).  The region without the
circle is not convex, and they stay outside the circle only under a condition on the scatter of
their cells (`spread_outside_iff`).
-/

namespace K1Sim

namespace Config

open Foundations

variable {K : Type*} [Field K] [LinearOrder K] [IsStrictOrderedRing K]

/-! ## The grid -/

theorem gridStep_pos : (0 : K) < gridStep := by
  rw [gridStep]
  positivity

theorem mem_gridLine {stop : K} {n : ℕ} {start x : K} :
    x ∈ gridLine stop n start ↔ ∃ i < n, x = start + i * gridStep ∧ x < stop := by
  induction n generalizing start with
  | zero => simp [gridLine]
  | succ n ih =>
    have hstep : (0 : K) < gridStep := gridStep_pos
    rw [gridLine]
    split_ifs with hstart
    · rw [List.mem_cons, ih]
      constructor
      · rintro (rfl | ⟨i, hi, rfl, hlt⟩)
        · exact ⟨0, Nat.succ_pos n, by simp, hstart⟩
        · refine ⟨i + 1, Nat.succ_lt_succ hi, ?_, hlt⟩
          push_cast
          ring
      · rintro ⟨i, hi, rfl, hlt⟩
        cases i with
        | zero => exact .inl (by simp)
        | succ i =>
          refine .inr ⟨i, Nat.lt_of_succ_lt_succ hi, ?_, hlt⟩
          push_cast
          ring
    · refine iff_of_false List.not_mem_nil ?_
      rintro ⟨i, -, rfl, hlt⟩
      have hge : start ≤ start + i * gridStep :=
        le_add_of_nonneg_right (mul_nonneg (Nat.cast_nonneg i) hstep.le)
      exact hstart (hge.trans_lt hlt)

theorem pairwise_gridLine (stop : K) (n : ℕ) (start : K) :
    (gridLine stop n start).Pairwise (· < ·) := by
  induction n generalizing start with
  | zero => exact List.Pairwise.nil
  | succ n ih =>
    rw [gridLine]
    split_ifs
    · refine List.pairwise_cons.mpr ⟨fun x hx => ?_, ih _⟩
      obtain ⟨i, -, rfl, -⟩ := mem_gridLine.mp hx
      have hstep : (0 : K) < gridStep := gridStep_pos
      have hmore : (0 : K) ≤ i * gridStep := mul_nonneg (Nat.cast_nonneg i) hstep.le
      linarith
    · exact List.Pairwise.nil

variable [FloorSemiring K]

/-- **The loop over a coordinate** goes through all the grid points before the end. -/
theorem mem_gridAxis {start stop x : K} :
    x ∈ gridAxis start stop ↔ ∃ i : ℕ, x = start + i * gridStep ∧ x < stop := by
  rw [gridAxis, mem_gridLine]
  refine ⟨fun ⟨i, _, hx⟩ => ⟨i, hx⟩, fun ⟨i, hx, hlt⟩ => ⟨i, ?_, hx, hlt⟩⟩
  rw [Nat.lt_ceil, lt_div_iff₀ gridStep_pos]
  linarith

theorem lt_of_mem_gridAxis {bound stop x : K}
    (hx : x ∈ gridAxis (bound + gridStep / 2) stop) : bound < x ∧ x < stop := by
  obtain ⟨i, hi, hlt⟩ := mem_gridAxis.mp hx
  have hstep : (0 : K) < gridStep := gridStep_pos
  have hmore : (0 : K) ≤ i * gridStep := mul_nonneg (Nat.cast_nonneg i) hstep.le
  exact ⟨by linarith, hlt⟩

/-- Strictly inside the half field. -/
def InHalf (length width : K) (p : Point K) : Prop :=
  -length / 2 < p.1 ∧ p.1 < 0 ∧ -width / 2 < p.2 ∧ p.2 < width / 2

variable {length width circleRadius : K}

/-- **The samples are inside the half and outside the circle.** -/
theorem inHalf_of_mem_samples {p : Point K} (hp : p ∈ samples length width circleRadius) :
    InHalf length width p ∧ Outside circleRadius p := by
  obtain ⟨x, hx, hin⟩ := List.mem_flatMap.mp hp
  obtain ⟨hcolumn, houtside⟩ := List.mem_filter.mp hin
  obtain ⟨y, hy, rfl⟩ := List.mem_map.mp hcolumn
  obtain ⟨hxl, hxr⟩ := lt_of_mem_gridAxis hx
  obtain ⟨hyl, hyr⟩ := lt_of_mem_gridAxis hy
  exact ⟨⟨hxl, hxr, hyl, hyr⟩, of_decide_eq_true houtside⟩

/-- **No two samples coincide.** -/
theorem nodup_samples (length width circleRadius : K) :
    (samples length width circleRadius).Nodup := by
  refine List.nodup_flatMap.mpr ⟨fun x _ => ?_, ?_⟩
  · refine List.Nodup.filter _ (List.Nodup.map (fun y y' h => congrArg Prod.snd h) ?_)
    exact (pairwise_gridLine _ _ _).imp ne_of_lt
  · refine (pairwise_gridLine _ _ _).imp fun {x x'} hlt => ?_
    intro p hp hp'
    obtain ⟨y, -, rfl⟩ := List.mem_map.mp (List.mem_filter.mp hp).1
    obtain ⟨y', -, heq⟩ := List.mem_map.mp (List.mem_filter.mp hp').1
    exact hlt.ne' (congrArg Prod.fst heq)

/-! ## Inside the half -/

omit [FloorSemiring K] in
/-- Being inside the half is four bounds on coordinates, which a centroid inherits. -/
theorem inHalf_centroid {l : List (Point K)} (hl : l ≠ []) (h : ∀ p ∈ l, InHalf length width p) :
    InHalf length width (centroid K l) := by
  let x : Point K →ₗ[K] K := LinearMap.fst K K K
  let y : Point K →ₗ[K] K := LinearMap.snd K K K
  have hxl : (-x) (centroid K l) < length / 2 :=
    map_centroid_lt hl fun p hp => by
      have hbound : -length / 2 < p.1 := (h p hp).1
      change -p.1 < length / 2
      linarith
  have hyl : (-y) (centroid K l) < width / 2 :=
    map_centroid_lt hl fun p hp => by
      have hbound : -width / 2 < p.2 := (h p hp).2.2.1
      change -p.2 < width / 2
      linarith
  have hxr : x (centroid K l) < 0 := map_centroid_lt hl fun p hp => (h p hp).2.1
  have hyr : y (centroid K l) < width / 2 := map_centroid_lt hl fun p hp => (h p hp).2.2.2
  change -(centroid K l).1 < length / 2 at hxl
  change -(centroid K l).2 < width / 2 at hyl
  exact ⟨by linarith, hxr, by linarith, hyr⟩

variable {fixed free next : List (Point K)}

omit [IsStrictOrderedRing K] in
/-- The call returns only if there is a robot. -/
theorem robot_of_spreadInHalf {free : ℕ} {positions : List (Point K)}
    (hsamples : samples length width circleRadius ≠ [])
    (h : spreadInHalf fixed free length width circleRadius = some positions) :
    fixed ≠ [] ∨ 0 < free := by
  by_contra hnone
  obtain ⟨hfixed, hfree⟩ := not_or.mp hnone
  obtain rfl := not_not.mp hfixed
  obtain rfl := Nat.eq_zero_of_not_pos hfree
  exact absurd ((spreadInHalf_nil hsamples).symm.trans h) nofun

omit [Field K] [LinearOrder K] [IsStrictOrderedRing K] [FloorSemiring K] in
theorem append_ne_nil_of_robot {free : ℕ} {seeds : List (Point K)} (hlength : seeds.length = free)
    (h : fixed ≠ [] ∨ 0 < free) : fixed ++ seeds ≠ [] := by
  rw [← List.length_pos_iff, List.length_append, hlength]
  rcases h with hfixed | hfree
  · exact Nat.add_pos_left (List.length_pos_iff.mpr hfixed) _
  · exact Nat.add_pos_right _ hfree

omit [IsStrictOrderedRing K] [FloorSemiring K] in
/-- **What holds of the free robots, and of the centroids of cells**, holds after an iteration. -/
theorem Relaxes.forall_mem {samples : List (Point K)} {P : Point K → Prop}
    (h : Relaxes fixed samples free next) (hfree : ∀ p ∈ free, P p)
    (hcentroid : ∀ r, cell (assign (fixed ++ free)) samples r ≠ [] →
      P (centroid K (cell (assign (fixed ++ free)) samples r))) : ∀ p ∈ next, P p := by
  intro p hp
  obtain ⟨r, hr, rfl⟩ := List.getElem_of_mem hp
  have hr' : r < free.length := h.length_eq ▸ hr
  have hplace : fixed.length + r < (fixed ++ free).length := by
    rw [List.length_append]
    exact Nat.add_lt_add_left hr' _
  have hsite := h.site_eq _ hplace
  rw [site_append_right, site, List.getD_eq_getElem _ _ hr] at hsite
  rw [hsite]
  refine relocate_induction (P := P) ?_ fun _ hcell => hcentroid _ hcell
  rw [site_append_right]
  exact hfree _ (site_mem hr')

/-- **The call returns the free robots inside the half, and never moves the fixed ones, exactly when
there is a robot.**  Without one the first sample is written out of bounds. -/
theorem spread_inHalf_iff (fixed : List (Point K)) (free : ℕ)
    (hsamples : samples length width circleRadius ≠ []) :
    (∃ robots positions,
        seed (samples length width circleRadius) free fixed = some robots
          ∧ (∀ iter, ∃ rest, relaxN fixed.length (samples length width circleRadius) robots iter
            = some (fixed ++ rest))
          ∧ spreadInHalf fixed free length width circleRadius = some positions
          ∧ positions.length = free ∧ ∀ p ∈ positions, InHalf length width p)
      ↔ fixed ≠ [] ∨ 0 < free := by
  refine ⟨fun ⟨_, _, _, _, hsome, _⟩ => robot_of_spreadInHalf hsamples hsome, fun hrobot => ?_⟩
  obtain ⟨seeds, hseed, hlength, hmem⟩ := seed_spec (.inl hsamples) fixed
  have hrobots := append_ne_nil_of_robot hlength hrobot
  have hrun (iter : ℕ) : ∃ positions,
      relaxN fixed.length (samples length width circleRadius) (fixed ++ seeds) iter
          = some (fixed ++ positions)
        ∧ positions.length = seeds.length ∧ ∀ p ∈ positions, InHalf length width p := by
    refine relaxN_induction (P := fun positions => ∀ p ∈ positions, InHalf length width p)
      (.inl hrobots) (fun p hp => (inHalf_of_mem_samples (hmem p hp)).1) ?_ iter
    exact fun free next hnext hfree => hnext.forall_mem hfree fun r hcell =>
      inHalf_centroid hcell fun p hp => (inHalf_of_mem_samples (mem_cell.mp hp).1).1
  obtain ⟨positions, hlast, hcount, hinside⟩ := hrun 100
  refine ⟨fixed ++ seeds, positions, hseed, fun iter => ?_, spreadInHalf_eq hseed hlast,
    hcount.trans hlength, hinside⟩
  obtain ⟨rest, hrest, -⟩ := hrun iter
  exact ⟨rest, hrest⟩

/-! ## Apart from each other -/

omit [Field K] [LinearOrder K] [IsStrictOrderedRing K] [FloorSemiring K] in
theorem nodup_iff_site [Zero K] (robots : List (Point K)) :
    robots.Nodup ↔ ∀ i j, i < j → j < robots.length → robots.getD i 0 ≠ robots.getD j 0 := by
  rw [List.nodup_iff_pairwise_ne, List.pairwise_iff_getElem]
  constructor
  · intro h i j hij hj
    rw [List.getD_eq_getElem _ _ (hij.trans hj), List.getD_eq_getElem _ _ hj]
    exact h i j _ hj hij
  · intro h i j hi hj hij
    have hne := h i j hij hj
    rwa [List.getD_eq_getElem _ _ hi, List.getD_eq_getElem _ _ hj] at hne

omit [FloorSemiring K] in
/-- **An iteration keeps the robots apart**: of two robots the samples of the first are no nearer to
the second, and those of the second are nearer to it, so their bisector is between them. -/
theorem Relaxes.nodup {samples : List (Point K)} (h : Relaxes fixed samples free next)
    (hnodup : (fixed ++ free).Nodup) : (fixed ++ next).Nodup := by
  have hlength : (fixed ++ next).length = (fixed ++ free).length := by
    rw [List.length_append, List.length_append, h.length_eq]
  rw [nodup_iff_site] at hnodup ⊢
  intro i j hij hj
  rw [hlength] at hj
  have hrobots : fixed ++ free ≠ [] := List.ne_nil_of_length_pos (Nat.zero_lt_of_lt hj)
  have hfirst : ∀ p ∈ cell (assign (fixed ++ free)) samples i,
      side (planeForm K) (site (fixed ++ free) i) (site (fixed ++ free) j) p ≤ 0 := by
    intro p hp
    obtain ⟨-, rfl⟩ := mem_cell.mp hp
    exact sub_nonpos.mpr ((nearest_isFirstNearest hrobots p).le j hj)
  have hsecond : ∀ p ∈ cell (assign (fixed ++ free)) samples j,
      0 < side (planeForm K) (site (fixed ++ free) i) (site (fixed ++ free) j) p := by
    intro p hp
    obtain ⟨-, rfl⟩ := mem_cell.mp hp
    exact sub_pos.mpr ((nearest_isFirstNearest hrobots p).lt i hij)
  have hne : relaxed fixed.length samples (fixed ++ free) i
      ≠ relaxed fixed.length samples (fixed ++ free) j :=
    euclidean_planeForm.relocate_ne (hnodup i j hij hj) hfirst hsecond
  change site (fixed ++ next) i ≠ site (fixed ++ next) j
  rw [h.site_eq i (hij.trans hj), h.site_eq j hj]
  exact hne

/-- **No two robots share a spot, from the seeding on, exactly when there is a robot or no
sample.** -/
theorem spread_distinct_iff {fixed : List (Point K)} (hfixed : fixed.Nodup) (free : ℕ)
    (length width circleRadius : K)
    (henough : free ≤ ((samples length width circleRadius).filter (· ∉ fixed)).length) :
    (∃ robots,
        seed (samples length width circleRadius) free fixed = some robots
          ∧ ∀ iter, ∃ positions,
            relaxN fixed.length (samples length width circleRadius) robots iter
                = some (fixed ++ positions)
              ∧ (fixed ++ positions).Nodup
              ∧ (iter = 100 → spreadInHalf fixed free length width circleRadius = some positions))
      ↔ fixed ≠ [] ∨ 0 < free ∨ samples length width circleRadius = [] := by
  refine ⟨fun ⟨robots, _, hrun⟩ => ?_, fun hrobot => ?_⟩
  · by_cases hsamples : samples length width circleRadius = []
    · exact .inr (.inr hsamples)
    · obtain ⟨positions, -, -, hsome⟩ := hrun 100
      exact (robot_of_spreadInHalf hsamples (hsome rfl)).imp_right .inl
  obtain ⟨seeds, hseed, hnodup⟩ := seed_nodup (nodup_samples _ _ _) hfixed henough
  have hrobots : fixed ++ seeds ≠ [] ∨ samples length width circleRadius = [] := by
    rw [← or_assoc] at hrobot
    refine hrobot.imp_left fun hrobot => ?_
    have hfree : samples length width circleRadius ≠ [] ∨ free = 0 := by
      rcases Nat.eq_zero_or_pos free with hzero | hpos
      · exact .inr hzero
      · refine .inl fun hnil => ?_
        rw [hnil] at henough
        exact absurd henough (Nat.not_le_of_lt hpos)
    obtain ⟨seeds', hseed', hlength, -⟩ := seed_spec hfree fixed
    obtain rfl := List.append_cancel_left (Option.some.inj (hseed.symm.trans hseed'))
    exact append_ne_nil_of_robot hlength hrobot
  refine ⟨fixed ++ seeds, hseed, fun iter => ?_⟩
  obtain ⟨positions, hpositions, -, hdistinct⟩ := relaxN_induction
    (P := fun positions => (fixed ++ positions).Nodup) hrobots hnodup
    (fun free next hnext hfree => hnext.nodup hfree) iter
  exact ⟨positions, hpositions, hdistinct, fun hlast => spreadInHalf_eq hseed (hlast ▸ hpositions)⟩

/-! ## Outside the circle -/

/-- The robots at the start of an iteration. -/
def robotsAt (fixed : List (Point K)) (free : ℕ) (length width circleRadius : K) (iter : ℕ) :
    Option (List (Point K)) :=
  (seed (samples length width circleRadius) free fixed).bind fun robots =>
    relaxN fixed.length (samples length width circleRadius) robots iter

/-- The samples nearest to a robot at the start of an iteration. -/
def cellAt (fixed : List (Point K)) (free : ℕ) (length width circleRadius : K) (r iter : ℕ) :
    List (Point K) :=
  match robotsAt fixed free length width circleRadius iter with
  | none => []
  | some robots => cell (assign robots) (samples length width circleRadius) r

/-- The last cell that was not empty, of those of the first iterations. -/
def lastCell (cells : ℕ → List (Point K)) : ℕ → List (Point K)
  | 0 => []
  | iter + 1 => if cells iter = [] then lastCell cells iter else cells iter

/-- **The samples are so far from the centre, for their scatter**, that their centroid is outside
the circle: the mean of their squared distances from the centre exceeds the squared radius by more
than half the mean of their squared distances from each other. -/
def ClearsCircle (radius : K) (l : List (Point K)) : Prop :=
  radius < 0 ∨ 2 * l.length * l.length * (radius * radius)
      + (l.map fun q => (l.map fun p => distSq p q).sum).sum
    < 2 * l.length * (l.map fun p => p.1 * p.1 + p.2 * p.2).sum

instance (radius : K) (l : List (Point K)) : Decidable (ClearsCircle radius l) :=
  inferInstanceAs (Decidable (_ ∨ _))

omit [FloorSemiring K] in
theorem outside_centroid_iff (radius : K) {l : List (Point K)} (hl : l ≠ []) :
    Outside radius (centroid K l) ↔ ClearsCircle radius l := by
  have horigin (p : Point K) : sqDist (planeForm K) p 0 = p.1 * p.1 + p.2 * p.2 := by
    rw [sqDist_planeForm, distSq, Prod.fst_zero, Prod.snd_zero, sub_zero, sub_zero]
  have hcentroid := euclidean_planeForm.sqDist_centroid (0 : Point K) hl
  simp only [horigin] at hcentroid
  have hlength : (0 : K) < 2 * l.length * l.length := by
    have : (0 : K) < l.length := Nat.cast_pos.mpr (List.length_pos_iff.mpr hl)
    positivity
  refine or_congr_right ?_
  rw [← mul_lt_mul_iff_right₀ hlength, hcentroid, lt_sub_iff_add_lt]
  rfl

/-- Where a free robot is after the first iterations: at the centroid of its last cell, or still on
its seed. -/
theorem site_relaxN {seeds positions : List (Point K)} {free : ℕ}
    (hseed : seed (samples length width circleRadius) free fixed = some (fixed ++ seeds))
    (hrobots : fixed ++ seeds ≠ []) (iter : ℕ)
    (hrun : relaxN fixed.length (samples length width circleRadius) (fixed ++ seeds) iter
      = some (fixed ++ positions)) {r : ℕ} (hr : r < seeds.length) :
    site positions r
      = if lastCell (cellAt fixed free length width circleRadius (fixed.length + r)) iter = [] then
          site seeds r
        else centroid K
          (lastCell (cellAt fixed free length width circleRadius (fixed.length + r)) iter) := by
  induction iter generalizing positions with
  | zero =>
    obtain rfl := List.append_cancel_left (Option.some.inj hrun)
    exact (if_pos rfl).symm
  | succ iter ih =>
    obtain ⟨before, hbefore, hlength, -⟩ := relaxN_induction (P := fun _ => True) (.inl hrobots)
      trivial (fun _ _ _ _ => trivial) iter
    have hne : fixed ++ before ≠ [] := by
      rwa [← List.length_pos_iff, List.length_append, hlength, ← List.length_append,
        List.length_pos_iff]
    obtain ⟨next, hnext⟩ := exists_relaxes (.inl hne)
    rw [relaxN, hbefore, Option.bind_some, hnext.relax_eq] at hrun
    obtain rfl := List.append_cancel_left (Option.some.inj hrun)
    have hcell : cellAt fixed free length width circleRadius (fixed.length + r) iter
        = cell (assign (fixed ++ before)) (samples length width circleRadius)
          (fixed.length + r) := by
      rw [cellAt, robotsAt, hseed, Option.bind_some, hbefore]
    have hplace : fixed.length + r < (fixed ++ before).length := by
      rw [List.length_append, hlength]
      exact Nat.add_lt_add_left hr _
    have hsite := hnext.site_eq _ hplace
    rw [site_append_right, relaxed, relocate, ← hcell, site_append_right, ih hbefore] at hsite
    rw [hsite, lastCell]
    by_cases hempty : cellAt fixed free length width circleRadius (fixed.length + r) iter = []
    · rw [if_pos hempty, if_neg fun hmoves => hmoves.2 hempty]
    · rw [if_neg hempty, if_neg hempty, if_pos ⟨Nat.le_add_right _ _, hempty⟩]

/-- A free robot that its samples moved is outside the circle if they clear it; one still on its
seed is on a sample. -/
theorem outside_relaxN_iff {seeds positions : List (Point K)} {free : ℕ}
    (hseed : seed (samples length width circleRadius) free fixed = some (fixed ++ seeds))
    (hmem : ∀ p ∈ seeds, p ∈ samples length width circleRadius) (hrobots : fixed ++ seeds ≠ [])
    (iter : ℕ)
    (hrun : relaxN fixed.length (samples length width circleRadius) (fixed ++ seeds) iter
      = some (fixed ++ positions)) {r : ℕ} (hr : r < seeds.length) :
    Outside circleRadius (site positions r)
      ↔ lastCell (cellAt fixed free length width circleRadius (fixed.length + r)) iter = []
        ∨ ClearsCircle circleRadius
          (lastCell (cellAt fixed free length width circleRadius (fixed.length + r)) iter) := by
  rw [site_relaxN hseed hrobots iter hrun hr]
  split_ifs with hempty
  · exact iff_of_true (inHalf_of_mem_samples (hmem _ (site_mem hr))).2 (.inl hempty)
  · rw [outside_centroid_iff _ hempty, or_iff_right hempty]

omit [LinearOrder K] [IsStrictOrderedRing K] [FloorSemiring K] in
theorem forall_mem_iff_site {positions : List (Point K)} {P : Point K → Prop} :
    (∀ p ∈ positions, P p) ↔ ∀ r < positions.length, P (site positions r) := by
  refine ⟨fun h r hr => h _ (site_mem hr), fun h p hp => ?_⟩
  obtain ⟨r, hr, rfl⟩ := List.getElem_of_mem hp
  have hsite := h r hr
  rwa [site, List.getD_eq_getElem _ _ hr] at hsite

/-- **The free robots end up outside the circle exactly when** there is a robot, and the samples
that last moved a free robot are far enough from the centre for their scatter. -/
theorem spread_outside_iff (fixed : List (Point K)) (free : ℕ)
    (hsamples : samples length width circleRadius ≠ []) :
    (∃ positions, spreadInHalf fixed free length width circleRadius = some positions
        ∧ ∀ p ∈ positions, Outside circleRadius p)
      ↔ (fixed ≠ [] ∨ 0 < free) ∧ ∀ r < free,
        lastCell (cellAt fixed free length width circleRadius (fixed.length + r)) 100 = []
          ∨ ClearsCircle circleRadius
            (lastCell (cellAt fixed free length width circleRadius (fixed.length + r)) 100) := by
  by_cases hrobot : fixed ≠ [] ∨ 0 < free
  case neg =>
    refine iff_of_false ?_ fun h => hrobot h.1
    exact fun ⟨_, hsome, _⟩ => hrobot (robot_of_spreadInHalf hsamples hsome)
  obtain ⟨seeds, hseed, hlength, hmem⟩ := seed_spec (.inl hsamples) fixed
  have hrobots := append_ne_nil_of_robot hlength hrobot
  obtain ⟨positions, hrun, hcount, -⟩ := relaxN_induction (P := fun _ => True) (.inl hrobots)
    trivial (fun _ _ _ _ => trivial) 100
  have hall : (∃ returned, some positions = some returned
      ∧ ∀ p ∈ returned, Outside circleRadius p) ↔ ∀ p ∈ positions, Outside circleRadius p :=
    ⟨fun ⟨_, heq, h⟩ => Option.some.inj heq ▸ h, fun h => ⟨positions, rfl, h⟩⟩
  rw [and_iff_right hrobot, spreadInHalf_eq hseed hrun, hall, forall_mem_iff_site,
    hcount.trans hlength]
  exact forall₂_congr fun r hr =>
    outside_relaxN_iff hseed hmem hrobots 100 hrun (hlength.symm ▸ hr)

/-! ## A half of two samples -/

/-- The samples of a half of one column, with the two middle ones inside the circle. -/
theorem samples_small :
    samples (2 / 10 : ℚ) (4 / 10) (1 / 10) = [(-1 / 20, -3 / 20), (-1 / 20, 3 / 20)] := by
  decide +kernel

theorem samples_small_ne_nil : samples (2 / 10 : ℚ) (4 / 10) (1 / 10) ≠ [] := by
  rw [samples_small]
  exact List.cons_ne_nil _ _

/-- Two free robots about a fixed one: no two share a spot. -/
theorem spread_distinct_pair :
    ∃ robots, seed (samples (2 / 10 : ℚ) (4 / 10) (1 / 10)) 2 [(-1 / 20, 0)] = some robots
      ∧ ∀ iter, ∃ positions,
        relaxN 1 (samples (2 / 10 : ℚ) (4 / 10) (1 / 10)) robots iter
            = some ([(-1 / 20, 0)] ++ positions)
          ∧ ([(-1 / 20, 0)] ++ positions).Nodup
          ∧ (iter = 100 → spreadInHalf [(-1 / 20, 0)] 2 (2 / 10 : ℚ) (4 / 10) (1 / 10)
            = some positions) :=
  (spread_distinct_iff (by decide) 2 (2 / 10 : ℚ) (4 / 10) (1 / 10) (by decide +kernel)).mpr
    (.inl (List.cons_ne_nil _ _))

/-- No robot at all: the loop does not get through its first iteration. -/
theorem spread_not_distinct :
    ¬ ∃ robots, seed (samples (2 / 10 : ℚ) (4 / 10) (1 / 10)) 0 [] = some robots
      ∧ ∀ iter, ∃ positions,
        relaxN 0 (samples (2 / 10 : ℚ) (4 / 10) (1 / 10)) robots iter = some ([] ++ positions)
          ∧ ([] ++ positions).Nodup
          ∧ (iter = 100 → spreadInHalf [] 0 (2 / 10 : ℚ) (4 / 10) (1 / 10) = some positions) := by
  rintro ⟨robots, -, hrun⟩
  obtain ⟨positions, -, -, hsome⟩ := hrun 100
  exact absurd ((spreadInHalf_nil samples_small_ne_nil).symm.trans (hsome rfl)) nofun

/-- A free robot on its own stays inside the half. -/
theorem spread_inHalf_single :
    ∃ robots positions, seed (samples (2 / 10 : ℚ) (4 / 10) (1 / 10)) 1 [] = some robots
      ∧ (∀ iter, ∃ rest, relaxN 0 (samples (2 / 10 : ℚ) (4 / 10) (1 / 10)) robots iter
        = some ([] ++ rest))
      ∧ spreadInHalf [] 1 (2 / 10 : ℚ) (4 / 10) (1 / 10) = some positions
      ∧ positions.length = 1 ∧ ∀ p ∈ positions, InHalf (2 / 10 : ℚ) (4 / 10) p :=
  (spread_inHalf_iff [] 1 samples_small_ne_nil).mpr (.inr Nat.one_pos)

/-- No robot at all: nothing is returned. -/
theorem spread_not_inHalf :
    samples (2 / 10 : ℚ) (4 / 10) (1 / 10) ≠ []
      ∧ ¬ ∃ positions, spreadInHalf [] 0 (2 / 10 : ℚ) (4 / 10) (1 / 10) = some positions
        ∧ positions.length = 0 ∧ ∀ p ∈ positions, InHalf (2 / 10 : ℚ) (4 / 10) p :=
  ⟨samples_small_ne_nil, fun ⟨_, hsome, _⟩ =>
    absurd ((spreadInHalf_nil samples_small_ne_nil).symm.trans hsome) nofun⟩

end Config

end K1Sim
