import K1Sim.Foundations.Lloyd
import K1Sim.Shared.GameConfig
import Mathlib.Algebra.Order.Ring.WithTop
import Mathlib.Analysis.Real.Sqrt
import Mathlib.Data.List.GetD
import Mathlib.Data.List.Infix
import Mathlib.Tactic.Positivity

/-!
# Shared/Spread — what the relaxation of `spread_in_half` computes

Each function of the relaxation has its specification here: `nearest` finds the first nearest robot,
`farthestSample` a sample that no other is farther than, and an iteration relocates the free robots
as Lloyd's relaxation does (`exists_step`), unless there is no robot to take a sample.
-/

namespace K1Sim

namespace Config

open Foundations

variable {K : Type*} [Field K]

/-! ## The plane -/

/-- The form of the plane. -/
def planeForm (K : Type*) [Field K] : LinearMap.BilinForm K (Point K) :=
  LinearMap.mk₂ K (fun p q => p.1 * q.1 + p.2 * q.2)
    (fun p p' q => by rw [Prod.fst_add, Prod.snd_add]; ring)
    (fun c p q => by rw [Prod.smul_fst, Prod.smul_snd, smul_eq_mul, smul_eq_mul, smul_eq_mul]; ring)
    (fun p q q' => by rw [Prod.fst_add, Prod.snd_add]; ring)
    (fun c p q => by rw [Prod.smul_fst, Prod.smul_snd, smul_eq_mul, smul_eq_mul, smul_eq_mul]; ring)

theorem sqDist_planeForm (p q : Point K) : sqDist (planeForm K) p q = distSq p q := rfl

variable [LinearOrder K] [IsStrictOrderedRing K]

theorem euclidean_planeForm : Euclidean (planeForm K) where
  symm p q := by
    change p.1 * q.1 + p.2 * q.2 = q.1 * p.1 + q.2 * p.2
    ring
  pos p hp := by
    change 0 < p.1 * p.1 + p.2 * p.2
    rcases eq_or_ne p.1 0 with hx | hx
    · have hy : p.2 ≠ 0 := fun hy => hp (Prod.ext hx hy)
      rw [hx, mul_zero, zero_add]
      exact mul_self_pos.mpr hy
    · exact add_pos_of_pos_of_nonneg (mul_self_pos.mpr hx) (mul_self_nonneg _)

theorem distSq_nonneg (p q : Point K) : 0 ≤ distSq p q := euclidean_planeForm.sqDist_nonneg p q

theorem distSq_eq_zero_iff {p q : Point K} : distSq p q = 0 ↔ p = q :=
  euclidean_planeForm.sqDist_eq_zero_iff

/-- **Squares stand for `std::hypot`**: what is compared is as far apart, and a point outside, as by
the distances themselves. -/
theorem hypot_iff (p a b : Point ℝ) (radius : ℝ) :
    (distSq p a < distSq p b ↔ √(distSq p a) < √(distSq p b))
      ∧ (Outside radius p ↔ radius < √(p.1 * p.1 + p.2 * p.2)) := by
  refine ⟨(Real.sqrt_lt_sqrt_iff (distSq_nonneg p a)).symm, ?_⟩
  rcases lt_or_ge radius 0 with hneg | hnonneg
  · exact iff_of_true (.inl hneg) (hneg.trans_le (Real.sqrt_nonneg _))
  · rw [Outside, or_iff_right (not_lt_of_ge hnonneg), Real.lt_sqrt hnonneg, sq]

/-! ## The nearest robot -/

omit [IsStrictOrderedRing K] in
theorem nearest_append (robots : List (Point K)) (robot p : Point K) :
    nearest (robots ++ [robot]) p
      = if (distSq p robot : K) < (nearest robots p).1 then (↑(distSq p robot), robots.length)
        else nearest robots p := by
  rw [nearest, List.zipIdx_append, List.foldl_append, zero_add]
  rfl

/-- A robot, by its index. -/
abbrev site (robots : List (Point K)) (i : ℕ) : Point K := robots.getD i 0

omit [LinearOrder K] [IsStrictOrderedRing K] in
theorem site_append_left {robots : List (Point K)} {i : ℕ} (hi : i < robots.length)
    (more : List (Point K)) : site (robots ++ more) i = site robots i :=
  List.getD_append _ _ _ _ hi

omit [LinearOrder K] [IsStrictOrderedRing K] in
theorem site_append_right (robots more : List (Point K)) (i : ℕ) :
    site (robots ++ more) (robots.length + i) = site more i := by
  rw [site, List.getD_append_right _ _ _ _ (Nat.le_add_right _ _), Nat.add_sub_cancel_left]

omit [LinearOrder K] [IsStrictOrderedRing K] in
theorem site_mem {robots : List (Point K)} {i : ℕ} (hi : i < robots.length) :
    site robots i ∈ robots := by
  rw [site, List.getD_eq_getElem _ _ hi]
  exact List.getElem_mem hi

/-- **The first nearest robot**: no robot is nearer, and every robot before it is farther. -/
structure IsFirstNearest (robots : List (Point K)) (p : Point K) (best : WithTop K × ℕ) : Prop where
  lt_length : best.2 < robots.length
  fst_eq : best.1 = distSq p (site robots best.2)
  le : ∀ j < robots.length, distSq p (site robots best.2) ≤ distSq p (site robots j)
  lt : ∀ j < best.2, distSq p (site robots best.2) < distSq p (site robots j)

section Append

variable {robots : List (Point K)} {p : Point K} {best : WithTop K × ℕ}

omit [LinearOrder K] [IsStrictOrderedRing K] in
/-- One robot more: the robots before it are where they were, and it is the last. -/
theorem forall_site_append {P : Point K → Prop} (robot : Point K)
    (hbefore : ∀ j < robots.length, P (site robots j)) (hlast : P robot) :
    ∀ j < (robots ++ [robot]).length, P (site (robots ++ [robot]) j) := by
  intro j hj
  rw [List.length_append, List.length_singleton] at hj
  rcases Nat.lt_succ_iff_lt_or_eq.mp hj with hold | rfl
  · rw [site_append_left hold]
    exact hbefore j hold
  · have hsite : site (robots ++ [robot]) robots.length = robot :=
      site_append_right robots [robot] 0
    rwa [hsite]

omit [IsStrictOrderedRing K] in
/-- A robot nearer than every robot before it is the first nearest. -/
theorem IsFirstNearest.append_nearer {robot : Point K}
    (hnearer : ∀ j < robots.length, distSq p robot < distSq p (site robots j)) :
    IsFirstNearest (robots ++ [robot]) p (↑(distSq p robot), robots.length) := by
  have hsite : site (robots ++ [robot]) robots.length = robot := site_append_right robots [robot] 0
  refine ⟨?_, by rw [hsite], ?_, fun j hj => ?_⟩
  · rw [List.length_append]
    exact Nat.lt_succ_self _
  · rw [hsite]
    exact forall_site_append (P := fun q => distSq p robot ≤ distSq p q) robot
      (fun j hj => (hnearer j hj).le) le_rfl
  · rw [hsite, site_append_left hj]
    exact hnearer j hj

omit [IsStrictOrderedRing K] in
/-- A robot that is no nearer leaves the first nearest what it was. -/
theorem IsFirstNearest.append_farther {robot : Point K} (h : IsFirstNearest robots p best)
    (hfarther : distSq p (site robots best.2) ≤ distSq p robot) :
    IsFirstNearest (robots ++ [robot]) p best := by
  have hsite : site (robots ++ [robot]) best.2 = site robots best.2 :=
    site_append_left h.lt_length [robot]
  refine ⟨?_, by rw [hsite, h.fst_eq], ?_, fun j hj => ?_⟩
  · rw [List.length_append]
    exact Nat.lt_succ_of_lt h.lt_length
  · rw [hsite]
    exact forall_site_append (P := fun q => distSq p (site robots best.2) ≤ distSq p q) robot h.le
      hfarther
  · rw [hsite, site_append_left (hj.trans h.lt_length)]
    exact h.lt j hj

end Append

omit [IsStrictOrderedRing K] in
/-- **`nearest` finds the first nearest robot**, if there is one. -/
theorem nearest_isFirstNearest {robots : List (Point K)} (h : robots ≠ []) (p : Point K) :
    IsFirstNearest robots p (nearest robots p) := by
  induction robots using List.reverseRecOn with
  | nil => exact absurd rfl h
  | append_singleton robots robot ih =>
    rw [nearest_append]
    split_ifs with hnearer
    · refine .append_nearer fun j hj => ?_
      have hbest := ih (List.ne_nil_of_length_pos (Nat.zero_lt_of_lt hj))
      rw [hbest.fst_eq, WithTop.coe_lt_coe] at hnearer
      exact hnearer.trans_le (hbest.le j hj)
    · have hne : robots ≠ [] := by
        rintro rfl
        exact hnearer (WithTop.coe_lt_top _)
      refine (ih hne).append_farther ?_
      rw [(ih hne).fst_eq, WithTop.coe_lt_coe] at hnearer
      exact le_of_not_gt hnearer

/-- A position is at a positive distance from the robots exactly if none stands on it. -/
theorem nearest_pos_iff (robots : List (Point K)) (p : Point K) :
    0 < (nearest robots p).1 ↔ p ∉ robots := by
  rcases eq_or_ne robots [] with rfl | hne
  · exact iff_of_true (WithTop.coe_lt_top 0) List.not_mem_nil
  have hbest := nearest_isFirstNearest hne p
  rw [hbest.fst_eq, WithTop.coe_pos, (distSq_nonneg _ _).lt_iff_ne', ne_eq, distSq_eq_zero_iff]
  refine not_congr ⟨fun heq => heq ▸ site_mem hbest.lt_length, fun hin => ?_⟩
  obtain ⟨j, hj, heq⟩ := List.getElem_of_mem hin
  have hzero : distSq p (site robots j) = 0 := by
    rw [site, List.getD_eq_getElem _ _ hj, heq, distSq_eq_zero_iff]
  exact distSq_eq_zero_iff.mp
    (le_antisymm ((hbest.le j hj).trans_eq hzero) (distSq_nonneg _ _))

theorem neg_one_lt_nearest (robots : List (Point K)) (p : Point K) :
    ((-1 : K) : WithTop K) < (nearest robots p).1 := by
  rcases eq_or_ne robots [] with rfl | hne
  · exact WithTop.coe_lt_top _
  · rw [(nearest_isFirstNearest hne p).fst_eq, WithTop.coe_lt_coe]
    exact neg_one_lt_zero.trans_le (distSq_nonneg _ _)

/-! ## The seeding -/

/-- **Keeping the best so far finds a best**, from a start that everything is better than. -/
theorem foldl_best {α β : Type*} [LinearOrder β] {key : α → β} {start : β} (first : α)
    (hstart : ∀ x, start < key x) {l : List α} (hl : l ≠ []) :
    ∃ pick ∈ l, l.foldl (fun best x => if best.1 < key x then (key x, x) else best) (start, first)
        = (key pick, pick)
      ∧ ∀ x ∈ l, key x ≤ key pick := by
  induction l using List.reverseRecOn with
  | nil => exact absurd rfl hl
  | append_singleton l last ih =>
    rw [List.foldl_append, List.foldl_cons, List.foldl_nil]
    rcases eq_or_ne l [] with rfl | hne
    · refine ⟨last, List.mem_singleton_self last, if_pos (hstart last), fun x hx => ?_⟩
      rw [List.mem_singleton.mp hx]
    · obtain ⟨pick, hpick, hfolded, hmax⟩ := ih hne
      rw [hfolded]
      split_ifs with hbetter
      · refine ⟨last, List.mem_append_right _ (List.mem_singleton_self last), rfl, ?_⟩
        exact List.forall_mem_append.mpr ⟨fun x hx => (hmax x hx).trans hbetter.le,
          List.forall_mem_singleton.mpr le_rfl⟩
      · refine ⟨pick, List.mem_append_left _ hpick, rfl, ?_⟩
        exact List.forall_mem_append.mpr ⟨hmax, List.forall_mem_singleton.mpr
          (le_of_not_gt hbetter)⟩

/-- **A farthest sample**: no sample is farther from the robots. -/
theorem farthestSample_spec {samples : List (Point K)} (h : samples ≠ [])
    (robots : List (Point K)) :
    ∃ pick ∈ samples, farthestSample samples robots = some pick
      ∧ ∀ p ∈ samples, (nearest robots p).1 ≤ (nearest robots pick).1 := by
  obtain ⟨first, rest, rfl⟩ := List.exists_cons_of_ne_nil h
  -- before the first sample the distance is -1, which every sample exceeds
  obtain ⟨pick, hpick, hfolded, hmax⟩ := foldl_best first (neg_one_lt_nearest robots) h
  exact ⟨pick, hpick, by rw [farthestSample, hfolded], hmax⟩

/-- A sample that no robot stands on leaves none standing on a farthest sample. -/
theorem farthestSample_notMem {samples robots : List (Point K)} {p : Point K} (hp : p ∈ samples)
    (hfree : p ∉ robots) :
    ∃ pick ∈ samples, farthestSample samples robots = some pick ∧ pick ∉ robots := by
  obtain ⟨pick, hpick, hsome, hmax⟩ := farthestSample_spec (List.ne_nil_of_mem hp) robots
  refine ⟨pick, hpick, hsome, (nearest_pos_iff robots pick).mp ?_⟩
  exact ((nearest_pos_iff robots p).mpr hfree).trans_le (hmax p hp)

/-- **The seeds are samples**, as many as there are free robots. -/
theorem seed_spec {samples : List (Point K)} {free : ℕ} (h : samples ≠ [] ∨ free = 0)
    (robots : List (Point K)) :
    ∃ seeds, seed samples free robots = some (robots ++ seeds) ∧ seeds.length = free
      ∧ ∀ p ∈ seeds, p ∈ samples := by
  induction free generalizing robots with
  | zero => exact ⟨[], by rw [List.append_nil]; rfl, rfl, nofun⟩
  | succ free ih =>
    have hsamples : samples ≠ [] := h.resolve_right (Nat.succ_ne_zero free)
    obtain ⟨pick, hpick, hsome, -⟩ := farthestSample_spec hsamples robots
    obtain ⟨seeds, hseeds, hlength, hmem⟩ := ih (.inl hsamples) (robots ++ [pick])
    refine ⟨pick :: seeds, ?_, by rw [List.length_cons, hlength], ?_⟩
    · rw [seed, hsome, Option.bind_some, hseeds, List.append_assoc]
      rfl
    · exact List.forall_mem_cons.mpr ⟨hpick, hmem⟩

/-- **No two seeds and robots share a spot**, when there are samples enough off the robots. -/
theorem seed_nodup {samples : List (Point K)} (hdistinct : samples.Nodup) {free : ℕ}
    {robots : List (Point K)} (hrobots : robots.Nodup)
    (henough : free ≤ (samples.filter (· ∉ robots)).length) :
    ∃ seeds, seed samples free robots = some (robots ++ seeds) ∧ (robots ++ seeds).Nodup := by
  induction free generalizing robots with
  | zero => exact ⟨[], by rw [List.append_nil]; rfl, by rwa [List.append_nil]⟩
  | succ free ih =>
    obtain ⟨p, hp⟩ := List.exists_mem_of_length_pos (Nat.zero_lt_of_lt henough)
    obtain ⟨hin, hoff⟩ := List.mem_filter.mp hp
    obtain ⟨pick, hpick, hsome, hnew⟩ := farthestSample_notMem hin (of_decide_eq_true hoff)
    have hmore : (robots ++ [pick]).Nodup :=
      hrobots.append (List.nodup_singleton pick) (List.disjoint_singleton.mpr hnew)
    -- the pick is one of the samples off the robots: one fewer is left
    have hleft : samples.filter (· ∉ robots ++ [pick])
        = (samples.filter (· ∉ robots)).erase pick := by
      rw [(hdistinct.filter _).erase_eq_filter, List.filter_filter]
      refine List.filter_congr fun q _ => ?_
      by_cases hq : q ∈ robots <;> by_cases hqp : q = pick <;> simp [hq, hqp]
    have hlength : (samples.filter (· ∉ robots ++ [pick])).length
        = (samples.filter (· ∉ robots)).length - 1 := by
      rw [hleft, List.length_erase_of_mem]
      exact List.mem_filter.mpr ⟨hpick, decide_eq_true hnew⟩
    obtain ⟨seeds, hseeds, hnodup⟩ := ih hmore (by omega)
    rw [List.append_assoc] at hseeds hnodup
    exact ⟨pick :: seeds, by rw [seed, hsome, Option.bind_some, hseeds]; rfl, hnodup⟩

/-! ## An iteration -/

/-- The index that a sample is counted for. -/
def assign (robots : List (Point K)) (p : Point K) : ℕ := (nearest robots p).2

/-- The robots after an iteration, as Lloyd's relaxation has them. -/
def relaxed (fixedCount : ℕ) (samples robots : List (Point K)) (r : ℕ) : Point K :=
  relocate K (fixedCount ≤ ·) (assign robots) samples (site robots) r

omit [IsStrictOrderedRing K] in
/-- **The sums are those of the cells**, when every sample has a robot to count for. -/
theorem foldlM_addSample {robots : List (Point K)} (h : robots ≠ []) (samples : List (Point K))
    (sums : ℕ → CellSum K) :
    samples.foldlM (addSample robots) sums = some fun r =>
      ⟨(sums r).x + ((cell (assign robots) samples r).map Prod.fst).sum,
        (sums r).y + ((cell (assign robots) samples r).map Prod.snd).sum,
        (sums r).n + (cell (assign robots) samples r).length⟩ := by
  induction samples generalizing sums with
  | nil => simp [cell]
  | cons p samples ih =>
    have hindex := (nearest_isFirstNearest h p).lt_length
    rw [List.foldlM_cons, addSample, if_pos hindex, Option.bind_eq_bind, Option.bind_some, ih]
    refine congrArg some (funext fun r => ?_)
    by_cases hr : (nearest robots p).2 = r
    · have hcell : cell (assign robots) (p :: samples) r = p :: cell (assign robots) samples r :=
        List.filter_cons_of_pos (decide_eq_true hr)
      rw [hcell, ← hr, Function.update_self, CellSum.mk.injEq]
      simp only [List.map_cons, List.sum_cons, List.length_cons, Nat.cast_succ]
      exact ⟨by ring, by ring, by ring⟩
    · have hcell : cell (assign robots) (p :: samples) r = cell (assign robots) samples r :=
        List.filter_cons_of_neg (by rw [decide_eq_true_eq]; exact hr)
      rw [hcell, Function.update_of_ne (Ne.symm hr)]

omit [IsStrictOrderedRing K] in
/-- Without a robot the first sample is written out of bounds. -/
theorem relax_eq_none (fixedCount : ℕ) {samples : List (Point K)} (h : samples ≠ []) :
    relax fixedCount samples [] = none := by
  obtain ⟨p, rest, rfl⟩ := List.exists_cons_of_ne_nil h
  rfl

omit [LinearOrder K] [IsStrictOrderedRing K] in
/-- The quotients of the sums are the centroid. -/
theorem centroid_eq (l : List (Point K)) :
    centroid K l = ((l.map Prod.fst).sum / l.length, (l.map Prod.snd).sum / l.length) := by
  have hfst : (l.map Prod.fst).sum = l.sum.1 := (map_list_sum (AddMonoidHom.fst K K) l).symm
  have hsnd : (l.map Prod.snd).sum = l.sum.2 := (map_list_sum (AddMonoidHom.snd K K) l).symm
  rw [hfst, hsnd, centroid, div_eq_inv_mul, div_eq_inv_mul]
  rfl

/-- **An iteration is one of Lloyd's relaxation**, if there is a robot. -/
theorem relax_eq {robots : List (Point K)} (h : robots ≠ []) (fixedCount : ℕ)
    (samples : List (Point K)) :
    relax fixedCount samples robots
      = some (robots.mapIdx fun r _ => relaxed fixedCount samples robots r) := by
  rw [relax, foldlM_addSample h, Option.map_some]
  refine congrArg some (List.ext_getElem (by simp) fun r hr _ => ?_)
  have hr : r < robots.length := by simpa using hr
  have hcount : 0 < ((cell (assign robots) samples r).length : K)
      ↔ cell (assign robots) samples r ≠ [] := by
    rw [Nat.cast_pos, List.length_pos_iff]
  rw [List.getElem_mapIdx, List.getElem_mapIdx, relaxed, relocate, centroid_eq, site,
    List.getD_eq_getElem _ _ hr]
  simp only [zero_add, hcount]

omit [IsStrictOrderedRing K] in
theorem relax_eq_of_samples_nil (fixedCount : ℕ) (robots : List (Point K)) :
    relax fixedCount [] robots = some robots := by
  refine congrArg some (List.ext_getElem (by simp) fun r hr _ => ?_)
  rw [List.getElem_mapIdx, if_neg fun h => lt_irrefl _ h.2]

/-- **An iteration of the loop**: the fixed robots are kept, each free one goes where Lloyd's
relaxation takes it. -/
structure Relaxes (fixed samples free next : List (Point K)) : Prop where
  relax_eq : relax fixed.length samples (fixed ++ free) = some (fixed ++ next)
  length_eq : next.length = free.length
  site_eq : ∀ r < (fixed ++ free).length,
    site (fixed ++ next) r = relaxed fixed.length samples (fixed ++ free) r

/-- **An iteration goes through**, if there is a robot or no sample. -/
theorem exists_relaxes {fixed samples free : List (Point K)}
    (h : fixed ++ free ≠ [] ∨ samples = []) : ∃ next, Relaxes fixed samples free next := by
  by_cases hrobots : fixed ++ free = []
  · have hsamples : samples = [] := h.resolve_left (not_not_intro hrobots)
    refine ⟨free, ?_, rfl, fun r hr => ?_⟩
    · rw [hsamples, relax_eq_of_samples_nil]
    · rw [hrobots] at hr
      exact absurd hr (Nat.not_lt_zero r)
  let move (r : ℕ) (_ : Point K) : Point K := relaxed fixed.length samples (fixed ++ free) r
  have hfixed : fixed.mapIdx move = fixed := by
    refine List.ext_getElem List.length_mapIdx fun r hr hr' => ?_
    rw [List.getElem_mapIdx]
    have hkept : ¬ (fixed.length ≤ r ∧ cell (assign (fixed ++ free)) samples r ≠ []) :=
      fun hmoves => Nat.not_lt_of_le hmoves.1 hr'
    change relaxed fixed.length samples (fixed ++ free) r = fixed[r]
    rw [relaxed, relocate, if_neg hkept, site_append_left hr', site, List.getD_eq_getElem _ _ hr']
  have hsplit : (fixed ++ free).mapIdx move
      = fixed ++ free.mapIdx fun r => move (r + fixed.length) := by
    rw [List.mapIdx_append, hfixed]
  refine ⟨free.mapIdx fun r => move (r + fixed.length), ?_, List.length_mapIdx, fun r hr => ?_⟩
  · rw [relax_eq hrobots, ← hsplit]
  · have hr' : r < ((fixed ++ free).mapIdx move).length := by rwa [List.length_mapIdx]
    rw [← hsplit, site, List.getD_eq_getElem _ _ hr', List.getElem_mapIdx]

/-- **What every iteration preserves holds throughout the loop**, and the fixed robots stay. -/
theorem relaxN_induction {P : List (Point K) → Prop} {fixed samples free : List (Point K)}
    (h : fixed ++ free ≠ [] ∨ samples = []) (hfree : P free)
    (hstep : ∀ free next, Relaxes fixed samples free next → P free → P next) (iter : ℕ) :
    ∃ positions, relaxN fixed.length samples (fixed ++ free) iter = some (fixed ++ positions)
      ∧ positions.length = free.length ∧ P positions := by
  induction iter with
  | zero => exact ⟨free, rfl, rfl, hfree⟩
  | succ iter ih =>
    obtain ⟨positions, hrun, hlength, hP⟩ := ih
    have hrobots : fixed ++ positions ≠ [] ∨ samples = [] := by
      refine h.imp_left fun hne hnil => hne ?_
      rw [List.append_eq_nil_iff, ← List.length_eq_zero_iff (l := positions)] at hnil
      rw [List.append_eq_nil_iff]
      exact ⟨hnil.1, List.length_eq_zero_iff.mp (hlength ▸ hnil.2)⟩
    obtain ⟨next, hnext⟩ := exists_relaxes hrobots
    refine ⟨next, ?_, hnext.length_eq.trans hlength, hstep positions next hnext hP⟩
    rw [relaxN, hrun, Option.bind_some, hnext.relax_eq]

/-! ## The whole call -/

variable [FloorSemiring K] {fixed seeds : List (Point K)} {free : ℕ}
  {length width circleRadius : K}

omit [IsStrictOrderedRing K] in
/-- **The call returns what the last iteration leaves**, without the fixed robots. -/
theorem spreadInHalf_eq {positions : List (Point K)}
    (hseed : seed (samples length width circleRadius) free fixed = some (fixed ++ seeds))
    (hrun : relaxN fixed.length (samples length width circleRadius) (fixed ++ seeds) 100
      = some (fixed ++ positions)) :
    spreadInHalf fixed free length width circleRadius = some positions := by
  rw [spreadInHalf, hseed, Option.bind_some, hrun, Option.map_some, List.drop_left]

omit [IsStrictOrderedRing K] in
/-- Without a robot, and with a sample, the loop does not get through its first iteration. -/
theorem spreadInHalf_nil (h : samples length width circleRadius ≠ []) :
    spreadInHalf [] 0 length width circleRadius = none := by
  have hrun (iter : ℕ) :
      relaxN 0 (samples length width circleRadius) [] (iter + 1) = none := by
    induction iter with
    | zero => exact relax_eq_none 0 h
    | succ iter ih => rw [relaxN, ih, Option.bind_none]
  rw [spreadInHalf, seed, Option.bind_some, List.length_nil, hrun, Option.map_none]

end Config

end K1Sim
