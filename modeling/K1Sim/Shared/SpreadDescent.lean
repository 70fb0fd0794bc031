import K1Sim.Shared.Spread

/-!
# Shared/SpreadDescent — every iteration improves the spread

The cost of a spread is what the samples sum up to as squared distances to their nearest robots.
An iteration never raises it, and keeps it only by moving no robot (`relaxN_descends_iff`).
-/

namespace K1Sim

namespace Config

open Foundations

variable {K : Type*} [Field K] [LinearOrder K]

/-- **The cost of a spread**: the squared distances of the samples to their nearest robots, summed;
infinite without a robot. -/
def cost (samples robots : List (Point K)) : WithTop K :=
  (samples.map fun p => (nearest robots p).1).sum

omit [LinearOrder K] in
theorem coe_sum (l : List K) : (↑l.sum : WithTop K) = (l.map (↑· : K → WithTop K)).sum :=
  map_list_sum (WithTop.addHom : K →+ WithTop K) l

theorem cost_eq {robots : List (Point K)} (h : robots ≠ []) (samples : List (Point K)) :
    cost samples robots
      = ↑(samples.map fun p =>
          sqDist (planeForm K) p (site robots (assign robots p))).sum := by
  rw [cost, coe_sum, List.map_map]
  exact congrArg List.sum (List.map_congr_left fun p _ => (nearest_isFirstNearest h p).fst_eq)

variable [IsStrictOrderedRing K]

/-- **The assignment is optimal**: no other one brings the samples nearer. -/
theorem cost_le {robots : List (Point K)} (h : robots ≠ []) {samples : List (Point K)}
    (other : Point K → ℕ) (hother : ∀ p ∈ samples, other p < robots.length) :
    cost samples robots
      ≤ ↑(samples.map fun p => sqDist (planeForm K) p (site robots (other p))).sum := by
  rw [cost_eq h, WithTop.coe_le_coe]
  exact List.sum_le_sum fun p hp => (nearest_isFirstNearest h p).le _ (hother p hp)

variable {fixed samples free next : List (Point K)}

namespace Relaxes

theorem cost_le_sum (h : Relaxes fixed samples free next) (hrobots : fixed ++ free ≠ []) :
    cost samples (fixed ++ next) ≤ ↑(samples.map fun p => sqDist (planeForm K) p
      (relaxed fixed.length samples (fixed ++ free) (assign (fixed ++ free) p))).sum := by
  have hlength : (fixed ++ next).length = (fixed ++ free).length := by
    rw [List.length_append, List.length_append, h.length_eq]
  have hrobots' : fixed ++ next ≠ [] := by
    rw [← List.length_pos_iff, hlength, List.length_pos_iff]
    exact hrobots
  have hindex (p : Point K) : assign (fixed ++ free) p < (fixed ++ free).length :=
    (nearest_isFirstNearest hrobots p).lt_length
  refine (cost_le hrobots' (assign (fixed ++ free)) fun p _ => ?_).trans_eq ?_
  · rw [hlength]
    exact hindex p
  · refine congrArg (fun l : List K => (↑l.sum : WithTop K)) (List.map_congr_left fun p _ => ?_)
    rw [h.site_eq _ (hindex p)]

omit [IsStrictOrderedRing K] in
theorem eq_of_relaxed_eq (h : Relaxes fixed samples free next)
    (hsame : ∀ r < (fixed ++ free).length,
      relaxed fixed.length samples (fixed ++ free) r = site (fixed ++ free) r) : next = free := by
  refine List.ext_getElem h.length_eq fun r hr hr' => ?_
  have hplace : fixed.length + r < (fixed ++ free).length := by
    rw [List.length_append]
    exact Nat.add_lt_add_left hr' _
  have hsite := (h.site_eq _ hplace).trans (hsame _ hplace)
  rwa [site_append_right, site_append_right, site, site, List.getD_eq_getElem _ _ hr,
    List.getD_eq_getElem _ _ hr'] at hsite

/-- **An iteration never raises the cost**, and keeps it only by moving no robot. -/
theorem descends (h : Relaxes fixed samples free next) :
    cost samples (fixed ++ next) ≤ cost samples (fixed ++ free)
      ∧ (cost samples (fixed ++ next) = cost samples (fixed ++ free) → next = free) := by
  by_cases hrobots : fixed ++ free = []
  · obtain ⟨rfl, rfl⟩ := List.append_eq_nil_iff.mp hrobots
    obtain rfl := List.length_eq_zero_iff.mp h.length_eq
    exact ⟨le_rfl, fun _ => rfl⟩
  have hindex : ∀ p ∈ samples,
      assign (fixed ++ free) p ∈ Finset.range (fixed ++ free).length :=
    fun p _ => Finset.mem_range.mpr (nearest_isFirstNearest hrobots p).lt_length
  have hreassigned := h.cost_le_sum hrobots
  rw [cost_eq hrobots]
  refine ⟨hreassigned.trans (WithTop.coe_le_coe.mpr ?_), fun heq => h.eq_of_relaxed_eq ?_⟩
  · exact euclidean_planeForm.sum_relocate_le _ _ hindex
  · intro r hr
    rw [heq, WithTop.coe_le_coe] at hreassigned
    exact euclidean_planeForm.relocate_eq_of_le _ _ hindex hreassigned (Finset.mem_range.mpr hr)

end Relaxes

/-- **The loop descends exactly when there is a robot to take the samples**: every iteration goes
through, keeps the fixed robots, never raises the cost, and keeps it only by moving no robot.
Without a robot the first sample is written out of bounds. -/
theorem relaxN_descends_iff (fixed samples free : List (Point K)) :
    (∀ iter, ∃ before after,
        relaxN fixed.length samples (fixed ++ free) iter = some (fixed ++ before)
          ∧ relax fixed.length samples (fixed ++ before) = some (fixed ++ after)
          ∧ before.length = free.length ∧ after.length = free.length
          ∧ cost samples (fixed ++ after) ≤ cost samples (fixed ++ before)
          ∧ (cost samples (fixed ++ after) = cost samples (fixed ++ before) → after = before))
      ↔ fixed ++ free ≠ [] ∨ samples = [] := by
  refine ⟨fun hdescends => ?_, fun h iter => ?_⟩
  · by_contra hnot
    obtain ⟨hnil, hsamples⟩ := not_or.mp hnot
    obtain ⟨rfl, rfl⟩ := List.append_eq_nil_iff.mp (not_not.mp hnil)
    obtain ⟨before, after, hrun, hstep, -⟩ := hdescends 0
    obtain rfl : before = [] := (Option.some.inj hrun).symm
    exact absurd ((relax_eq_none 0 hsamples).symm.trans hstep) nofun
  · obtain ⟨before, hrun, hlength, hrobots⟩ :=
      relaxN_induction (P := fun positions => fixed ++ positions ≠ [] ∨ samples = []) h h
        (fun free next hnext hfree => hfree.imp_left fun hne => by
          rwa [← List.length_pos_iff, List.length_append, hnext.length_eq, ← List.length_append,
            List.length_pos_iff]) iter
    obtain ⟨after, hafter⟩ := exists_relaxes hrobots
    exact ⟨before, after, hrun, hafter.relax_eq, hlength, hafter.length_eq.trans hlength,
      hafter.descends⟩

/-- A free robot off the middle of two samples, in the fourth iteration. -/
theorem relaxN_descends_single :
    ∃ before after,
      relaxN 0 [((-1 : ℚ), (-1 : ℚ)), (-1, 1)] ([] ++ [(-1, 1)]) 3 = some ([] ++ before)
        ∧ relax 0 [((-1 : ℚ), (-1 : ℚ)), (-1, 1)] ([] ++ before) = some ([] ++ after)
        ∧ before.length = 1 ∧ after.length = 1
        ∧ cost [((-1 : ℚ), (-1 : ℚ)), (-1, 1)] ([] ++ after)
          ≤ cost [((-1 : ℚ), (-1 : ℚ)), (-1, 1)] ([] ++ before)
        ∧ (cost [((-1 : ℚ), (-1 : ℚ)), (-1, 1)] ([] ++ after)
          = cost [((-1 : ℚ), (-1 : ℚ)), (-1, 1)] ([] ++ before) → after = before) :=
  (relaxN_descends_iff [] [((-1 : ℚ), (-1 : ℚ)), (-1, 1)] [(-1, 1)]).mpr
    (.inl (List.cons_ne_nil _ _)) 3

/-- No robot on a half of one sample: the first iteration writes out of bounds. -/
theorem relax_noRobot :
    ¬ ∃ after, relax 0 [((-1 : ℚ), (0 : ℚ))] ([] ++ []) = some ([] ++ after) :=
  fun ⟨_, hstep⟩ => absurd ((relax_eq_none 0 (List.cons_ne_nil _ _)).symm.trans hstep) nofun

end Config

end K1Sim
