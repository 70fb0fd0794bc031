import K1Sim.Shared.SpreadPlaces

/-!
# Shared/SpreadClusters — halves on which the free robots keep out of the circle

Where the samples fall into clusters, each in a ball and the balls far apart, the seeding puts a
robot into every cluster that no fixed robot serves, and the relaxation leaves each free robot in
its own.  If a line keeps each cluster from the circle, the centroids of its samples are kept from
it as well (`Clustered.spread_outside`).  One free robot on its own goes to the centroid of all the
samples.
-/

namespace K1Sim

namespace Config

open Foundations

variable {K : Type*} [Field K] [LinearOrder K] [IsStrictOrderedRing K]

/-! ## Balls in the plane -/

/-- Two points of a ball are no farther apart than its diameter. -/
theorem distSq_le_of_ball {p q c : Point K} {ballSq : K} (hp : distSq p c ≤ ballSq)
    (hq : distSq q c ≤ ballSq) : distSq p q ≤ 4 * ballSq := by
  rw [distSq] at *
  nlinarith [sq_nonneg (p.1 - c.1 + (q.1 - c.1)), sq_nonneg (p.2 - c.2 + (q.2 - c.2))]

/-- Points of two balls whose centres are far apart are farther apart than a diameter. -/
theorem lt_distSq_of_apart {p q c c' : Point K} {ballSq : K} (hapart : 18 * ballSq < distSq c c')
    (hp : distSq p c ≤ ballSq) (hq : distSq q c' ≤ ballSq) : 4 * ballSq < distSq p q := by
  rw [distSq] at *
  nlinarith [sq_nonneg (p.1 - c.1 + (p.1 - q.1)), sq_nonneg (p.2 - c.2 + (p.2 - q.2)),
    sq_nonneg (p.1 - c.1 + (q.1 - c'.1)), sq_nonneg (p.2 - c.2 + (q.2 - c'.2)),
    sq_nonneg (p.1 - q.1 - (q.1 - c'.1)), sq_nonneg (p.2 - q.2 - (q.2 - c'.2))]

/-- **A ball has the centroids of its points.** -/
theorem distSq_centroid_le {l : List (Point K)} (hl : l ≠ []) {c : Point K} {ballSq : K}
    (h : ∀ p ∈ l, distSq p c ≤ ballSq) : distSq (centroid K l) c ≤ ballSq :=
  euclidean_planeForm.sqDist_centroid_le hl h

/-! ## Lines -/

/-- A line keeps the points from the circle: it does not cross the circle, and they lie beyond
it. -/
def BeyondLine (radius : K) (l : List (Point K)) : Prop :=
  ∃ normal : Point K, ∃ offset : K, 0 ≤ offset
    ∧ radius * radius * (normal.1 * normal.1 + normal.2 * normal.2) ≤ offset * offset
    ∧ ∀ p ∈ l, offset < p.1 * normal.1 + p.2 * normal.2

/-- **Points beyond a line have their centroid outside the circle.** -/
theorem BeyondLine.outside_centroid {radius : K} {l cellOf : List (Point K)}
    (h : BeyondLine radius l) (hsub : ∀ p ∈ cellOf, p ∈ l) (hne : cellOf ≠ []) :
    Outside radius (centroid K cellOf) := by
  obtain ⟨normal, offset, hoffset, hclear, hbeyond⟩ := h
  let height : Point K →ₗ[K] K := planeForm K normal
  have hheight : (-height) (centroid K cellOf) < -offset :=
    map_centroid_lt hne fun p hp => by
      have hp := hbeyond p (hsub p hp)
      change -(normal.1 * p.1 + normal.2 * p.2) < -offset
      linarith [mul_comm normal.1 p.1, mul_comm normal.2 p.2]
  set c := centroid K cellOf
  change -(normal.1 * c.1 + normal.2 * c.2) < -offset at hheight
  refine .inr ?_
  -- by Cauchy and Schwarz, in the plane
  have hcauchy : (normal.1 * c.1 + normal.2 * c.2) * (normal.1 * c.1 + normal.2 * c.2)
      ≤ (normal.1 * normal.1 + normal.2 * normal.2) * (c.1 * c.1 + c.2 * c.2) := by
    nlinarith [sq_nonneg (normal.1 * c.2 - normal.2 * c.1)]
  have hsquare : offset * offset
      < (normal.1 * c.1 + normal.2 * c.2) * (normal.1 * c.1 + normal.2 * c.2) := by
    nlinarith
  have hscaled := hclear.trans_lt (hsquare.trans_le hcauchy)
  rw [mul_comm] at hscaled
  exact lt_of_mul_lt_mul_left hscaled
    (add_nonneg (mul_self_nonneg _) (mul_self_nonneg _))

/-! ## Clusters -/

/-- The samples in a ball. -/
def cluster (samples : List (Point K)) (ballSq : K) (centre : Point K) : List (Point K) :=
  samples.filter (distSq · centre ≤ ballSq)

/-- The robots serve a cluster: each of its samples has one no farther off than the ball is wide. -/
def Served (samples : List (Point K)) (ballSq : K) (robots : List (Point K)) (centre : Point K) :
    Prop :=
  ∀ p ∈ cluster samples ballSq centre, ∃ robot ∈ robots, distSq p robot ≤ 4 * ballSq

instance (samples : List (Point K)) (ballSq : K) (robots : List (Point K)) (centre : Point K) :
    Decidable (Served samples ballSq robots centre) :=
  inferInstanceAs (Decidable (∀ p ∈ _, ∃ robot ∈ _, _))

/-- **Clusters that the circle stays clear of**: every sample is in one of some balls of one radius,
the balls are far apart, a line keeps the samples of each ball from the circle, those apart that a
fixed robot stands on, and there is a free robot for each ball that the fixed ones do not serve. -/
structure Clustered (fixed : List (Point K)) (free : ℕ) (samples : List (Point K)) (radius : K)
    (centres : List (Point K)) (ballSq : K) : Prop where
  cover : ∀ p ∈ samples, ∃ c ∈ centres, distSq p c ≤ ballSq
  apart : ∀ c ∈ centres, ∀ c' ∈ centres, c ≠ c' → 18 * ballSq < distSq c c'
  clear : ∀ c ∈ centres, BeyondLine radius ((cluster samples ballSq c).filter (· ∉ fixed))
  enough : (centres.filter fun c => ¬ Served samples ballSq fixed c).length ≤ free

section Clusters

variable {fixed free next samples centres : List (Point K)} {radius ballSq : K}

omit [IsStrictOrderedRing K] in
theorem mem_cluster {p c : Point K} :
    p ∈ cluster samples ballSq c ↔ p ∈ samples ∧ distSq p c ≤ ballSq := by
  simp [cluster]

omit [IsStrictOrderedRing K] in
theorem Served.append {robots : List (Point K)} {c : Point K}
    (h : Served samples ballSq robots c) (more : List (Point K)) :
    Served samples ballSq (robots ++ more) c := by
  intro p hp
  obtain ⟨robot, hrobot, hle⟩ := h p hp
  exact ⟨robot, List.mem_append_left more hrobot, hle⟩

/-! ## The seeding serves the clusters -/

omit [IsStrictOrderedRing K] in
theorem lt_nearest_iff {robots : List (Point K)} {p : Point K} {a : K} :
    (a : WithTop K) < (nearest robots p).1 ↔ ∀ robot ∈ robots, a < distSq p robot := by
  rcases eq_or_ne robots [] with rfl | hne
  · exact iff_of_true (WithTop.coe_lt_top a) nofun
  have hbest := nearest_isFirstNearest hne p
  rw [hbest.fst_eq, WithTop.coe_lt_coe]
  refine ⟨fun hlt robot hrobot => ?_, fun h => h _ (site_mem hbest.lt_length)⟩
  obtain ⟨j, hj, rfl⟩ := List.getElem_of_mem hrobot
  have hle := hbest.le j hj
  rw [site, site, List.getD_eq_getElem _ _ hj] at hle
  exact hlt.trans_le hle

/-- A farthest sample serves a cluster that was not served, if there is one. -/
theorem unserved_append_lt (hcover : ∀ p ∈ samples, ∃ c ∈ centres, distSq p c ≤ ballSq)
    {robots : List (Point K)} {pick : Point K} (hpick : pick ∈ samples)
    (hmax : ∀ p ∈ samples, (nearest robots p).1 ≤ (nearest robots pick).1)
    (hsome : ∃ c ∈ centres, ¬ Served samples ballSq robots c) :
    (centres.filter fun c => ¬ Served samples ballSq (robots ++ [pick]) c).length
      < (centres.filter fun c => ¬ Served samples ballSq robots c).length := by
  obtain ⟨c, -, hunserved⟩ := hsome
  obtain ⟨p, hp⟩ := not_forall.mp hunserved
  obtain ⟨hp, hfar⟩ := Classical.not_imp.mp hp
  have hlone : ∀ robot ∈ robots, 4 * ballSq < distSq p robot := by
    simpa only [not_exists, not_and, not_le] using hfar
  -- the pick is as far from the robots as a sample of the cluster
  have hpickFar : ∀ robot ∈ robots, 4 * ballSq < distSq pick robot :=
    lt_nearest_iff.mp ((lt_nearest_iff.mpr hlone).trans_le (hmax p (mem_cluster.mp hp).1))
  obtain ⟨own, hown, hball⟩ := hcover pick hpick
  have hbefore : ¬ Served samples ballSq robots own := by
    intro hserved
    obtain ⟨robot, hrobot, hle⟩ := hserved pick (mem_cluster.mpr ⟨hpick, hball⟩)
    exact absurd hle (not_le_of_gt (hpickFar robot hrobot))
  have hafter : Served samples ballSq (robots ++ [pick]) own := fun q hq =>
    ⟨pick, List.mem_append_right _ (List.mem_singleton_self pick),
      distSq_le_of_ball (mem_cluster.mp hq).2 hball⟩
  have hsub : (centres.filter fun c => ¬ Served samples ballSq (robots ++ [pick]) c).Sublist
      (centres.filter fun c => ¬ Served samples ballSq robots c) :=
    List.monotone_filter_right _ fun c hc => by
      rw [decide_eq_true_eq] at hc ⊢
      exact fun hserved => hc (hserved.append [pick])
  refine lt_of_le_of_ne hsub.length_le fun heq => ?_
  have hin : own ∈ centres.filter fun c => ¬ Served samples ballSq robots c :=
    List.mem_filter.mpr ⟨hown, decide_eq_true hbefore⟩
  rw [← hsub.eq_of_length heq] at hin
  exact of_decide_eq_true (List.mem_filter.mp hin).2 hafter

/-- **The seeding serves every cluster**, with a free robot for each that is not served before. -/
theorem seed_serves (hsamples : samples ≠ [])
    (hcover : ∀ p ∈ samples, ∃ c ∈ centres, distSq p c ≤ ballSq) {count : ℕ}
    {robots : List (Point K)}
    (henough : (centres.filter fun c => ¬ Served samples ballSq robots c).length ≤ count) :
    ∃ seeds, seed samples count robots = some (robots ++ seeds)
      ∧ ∀ c ∈ centres, Served samples ballSq (robots ++ seeds) c := by
  induction count generalizing robots with
  | zero =>
    have hnone := List.length_eq_zero_iff.mp (Nat.le_zero.mp henough)
    refine ⟨[], by rw [List.append_nil]; rfl, fun c hc => ?_⟩
    rw [List.append_nil]
    exact not_not.mp fun hunserved =>
      List.filter_eq_nil_iff.mp hnone c hc (decide_eq_true hunserved)
  | succ count ih =>
    obtain ⟨pick, hpick, hsome, hmax⟩ := farthestSample_spec hsamples robots
    have hleft : (centres.filter fun c => ¬ Served samples ballSq (robots ++ [pick]) c).length
        ≤ count := by
      by_cases hall : ∃ c ∈ centres, ¬ Served samples ballSq robots c
      · exact Nat.le_of_lt_succ ((unserved_append_lt hcover hpick hmax hall).trans_le henough)
      · have hnil : (centres.filter fun c => ¬ Served samples ballSq (robots ++ [pick]) c) = [] :=
          List.filter_eq_nil_iff.mpr fun c hc hunserved => hall ⟨c, hc, fun hserved =>
            of_decide_eq_true hunserved (hserved.append [pick])⟩
        rw [hnil]
        exact Nat.zero_le count
    obtain ⟨seeds, hseeds, hserved⟩ := ih hleft
    rw [List.append_assoc] at hseeds hserved
    exact ⟨pick :: seeds, by rw [seed, hsome, Option.bind_some, hseeds]; rfl, hserved⟩

/-! ## The relaxation leaves each free robot in its ball -/

/-- A sample that a fixed robot stands on belongs to a fixed robot. -/
theorem notMem_of_mem_cell {r : ℕ} {p : Point K} (hr : fixed.length ≤ r)
    (hp : p ∈ cell (assign (fixed ++ free)) samples r) : p ∉ fixed := by
  intro hfixed
  obtain ⟨-, rfl⟩ := mem_cell.mp hp
  obtain ⟨j, hj, rfl⟩ := List.getElem_of_mem hfixed
  have hne : fixed ++ free ≠ [] :=
    List.append_ne_nil_of_left_ne_nil (List.ne_nil_of_mem hfixed) free
  have hlt := (nearest_isFirstNearest hne fixed[j]).lt j (hj.trans_le hr)
  have hzero : distSq fixed[j] (site (fixed ++ free) j) = 0 := by
    rw [site_append_left hj, site, List.getD_eq_getElem _ _ hj, distSq_eq_zero_iff]
  rw [hzero] at hlt
  exact absurd hlt (not_lt_of_ge (distSq_nonneg _ _))

/-- Free robots that the clusters keep out of the circle: each is in a ball and outside the circle,
and together with the fixed ones they serve the clusters. -/
structure Kept (fixed samples : List (Point K)) (radius : K) (centres : List (Point K)) (ballSq : K)
    (free : List (Point K)) : Prop where
  inBall : ∀ k < free.length, ∃ c ∈ centres, distSq (site free k) c ≤ ballSq
  outside : ∀ k < free.length, Outside radius (site free k)
  served : ∀ c ∈ centres, Served samples ballSq (fixed ++ free) c

namespace Clustered

variable {count : ℕ} (h : Clustered fixed count samples radius centres ballSq)

include h

/-- **A free robot has samples of its own ball only.** -/
theorem mem_of_mem_cell (hkept : Kept fixed samples radius centres ballSq free) {k : ℕ}
    {c : Point K} (hc : c ∈ centres) (hball : distSq (site free k) c ≤ ballSq) {p : Point K}
    (hp : p ∈ cell (assign (fixed ++ free)) samples (fixed.length + k)) :
    p ∈ (cluster samples ballSq c).filter (· ∉ fixed) := by
  have hnew := notMem_of_mem_cell (Nat.le_add_right _ _) hp
  obtain ⟨hin, hassign⟩ := mem_cell.mp hp
  obtain ⟨c', hc', hball'⟩ := h.cover p hin
  have hsame : c' = c := by
    by_contra hne
    obtain ⟨robot, hrobot, hle⟩ := hkept.served c' hc' p (mem_cluster.mpr ⟨hin, hball'⟩)
    obtain ⟨j, hj, rfl⟩ := List.getElem_of_mem hrobot
    have hnearest := (nearest_isFirstNearest (List.ne_nil_of_mem hrobot) p).le j hj
    have hassign : (nearest (fixed ++ free) p).2 = fixed.length + k := hassign
    have hsite : site (fixed ++ free) j = (fixed ++ free)[j] := List.getD_eq_getElem _ _ hj
    rw [hassign, site_append_right, hsite] at hnearest
    have hfar := lt_distSq_of_apart (h.apart c' hc' c hc hne) hball' hball
    exact absurd (hnearest.trans hle) (not_le_of_gt hfar)
  rw [List.mem_filter]
  exact ⟨mem_cluster.mpr ⟨hin, hsame ▸ hball'⟩, decide_eq_true hnew⟩

/-- A free robot stays in its ball, and outside the circle. -/
theorem site_next (hkept : Kept fixed samples radius centres ballSq free)
    (hnext : Relaxes fixed samples free next) {k : ℕ} (hk : k < free.length) {c : Point K}
    (hc : c ∈ centres) (hball : distSq (site free k) c ≤ ballSq) :
    distSq (site next k) c ≤ ballSq ∧ Outside radius (site next k) := by
  have hplace : fixed.length + k < (fixed ++ free).length := by
    rw [List.length_append]
    exact Nat.add_lt_add_left hk _
  have hsite := hnext.site_eq _ hplace
  rw [site_append_right] at hsite
  rw [hsite]
  refine relocate_induction (P := fun p => distSq p c ≤ ballSq ∧ Outside radius p) ?_
    fun _ hcell => ⟨distSq_centroid_le hcell fun p hp => ?_, ?_⟩
  · rw [site_append_right]
    exact ⟨hball, hkept.outside k hk⟩
  · exact (mem_cluster.mp (List.mem_filter.mp (h.mem_of_mem_cell hkept hc hball hp)).1).2
  · exact (h.clear c hc).outside_centroid (fun p hp => h.mem_of_mem_cell hkept hc hball hp) hcell

/-- **An iteration keeps the free robots where the clusters keep them.** -/
theorem kept_next (hkept : Kept fixed samples radius centres ballSq free)
    (hnext : Relaxes fixed samples free next) :
    Kept fixed samples radius centres ballSq next := by
  refine ⟨fun k hk => ?_, fun k hk => ?_, fun c hc p hp => ?_⟩
  · rw [hnext.length_eq] at hk
    obtain ⟨c, hc, hball⟩ := hkept.inBall k hk
    exact ⟨c, hc, (h.site_next hkept hnext hk hc hball).1⟩
  · rw [hnext.length_eq] at hk
    obtain ⟨c, hc, hball⟩ := hkept.inBall k hk
    exact (h.site_next hkept hnext hk hc hball).2
  · obtain ⟨robot, hrobot, hle⟩ := hkept.served c hc p hp
    rcases List.mem_append.mp hrobot with hfixed | hfree
    · exact ⟨robot, List.mem_append_left next hfixed, hle⟩
    obtain ⟨k, hk, rfl⟩ := List.getElem_of_mem hfree
    have hsite : site free k = free[k] := List.getD_eq_getElem _ _ hk
    obtain ⟨c', hc', hball⟩ := hkept.inBall k hk
    have hp := (mem_cluster.mp hp).2
    -- a free robot of another ball would be too far to serve the sample
    have hsame : c = c' := by
      by_contra hne
      have hfar := lt_distSq_of_apart (h.apart c hc c' hc' hne) hp (hsite ▸ hball)
      exact absurd hle (not_le_of_gt hfar)
    subst hsame
    have hstays := (h.site_next hkept hnext hk hc hball).1
    exact ⟨site next k, List.mem_append_right fixed (site_mem (hnext.length_eq ▸ hk)),
      distSq_le_of_ball hp hstays⟩

end Clustered

end Clusters

/-! ## The whole call -/

/-- **The free robots are kept out of the circle**: there is no circle, or no free robot, or one on
its own that all the samples together send outside, or the samples fall into clusters that the
circle stays clear of. -/
inductive KeepsOut (fixed : List (Point K)) (free : ℕ) (samples : List (Point K)) (radius : K) :
    Prop
  | noCircle (hradius : radius < 0)
  | noFree (hfree : free = 0)
  | alone (hfixed : fixed = []) (hfree : free = 1) (hclears : ClearsCircle radius samples)
  | clusters (centres : List (Point K)) (ballSq : K)
    (hclusters : Clustered fixed free samples radius centres ballSq)

variable [FloorSemiring K] {length width circleRadius : K}

/-- **Clusters keep the free robots out of the circle.** -/
theorem Clustered.spread_outside {fixed : List (Point K)} {free : ℕ} {centres : List (Point K)}
    {ballSq : K}
    (h : Clustered fixed free (samples length width circleRadius) circleRadius centres ballSq)
    (hsamples : samples length width circleRadius ≠ []) (hrobot : fixed ≠ [] ∨ 0 < free) :
    ∃ positions, spreadInHalf fixed free length width circleRadius = some positions
      ∧ ∀ p ∈ positions, Outside circleRadius p := by
  obtain ⟨seeds, hseed, hlength, hmem⟩ := seed_spec (.inl hsamples) fixed
  obtain ⟨seeds', hseed', hserved⟩ := seed_serves hsamples h.cover h.enough
  obtain rfl := List.append_cancel_left (Option.some.inj (hseed.symm.trans hseed'))
  have hstart : Kept fixed (samples length width circleRadius) circleRadius centres ballSq seeds :=
    ⟨fun k hk => h.cover _ (hmem _ (site_mem hk)),
      fun k hk => (inHalf_of_mem_samples (hmem _ (site_mem hk))).2, hserved⟩
  obtain ⟨positions, hrun, -, hkept⟩ := relaxN_induction
    (.inl (append_ne_nil_of_robot hlength hrobot)) hstart
    (fun free next hnext hkept => h.kept_next hkept hnext) 100
  exact ⟨positions, spreadInHalf_eq hseed hrun, forall_mem_iff_site.mpr hkept.outside⟩

/-- A robot on its own has all the samples, throughout. -/
theorem cellAt_alone (hsamples : samples length width circleRadius ≠ []) (iter : ℕ) :
    cellAt [] 1 length width circleRadius 0 iter = samples length width circleRadius := by
  have hany : samples length width circleRadius ≠ [] ∨ 1 = 0 := .inl hsamples
  obtain ⟨seeds, hseed, hlength, -⟩ := seed_spec hany ([] : List (Point K))
  have hrobots : [] ++ seeds ≠ [] ∨ samples length width circleRadius = [] :=
    .inl (append_ne_nil_of_robot hlength (.inr Nat.one_pos))
  obtain ⟨positions, hrun, hcount, -⟩ := relaxN_induction (P := fun _ => True) hrobots trivial
    (fun _ _ _ _ => trivial) iter
  rw [List.length_nil] at hrun
  have hone : positions.length = 1 := hcount.trans hlength
  rw [cellAt, robotsAt, hseed, Option.bind_some, List.length_nil, hrun]
  refine List.filter_eq_self.mpr fun p _ => decide_eq_true ?_
  have hlt := (nearest_isFirstNearest (List.ne_nil_of_length_pos (hone ▸ Nat.one_pos)) p).lt_length
  exact Nat.lt_one_iff.mp (hone ▸ hlt)

/-- **A robot on its own ends up outside the circle exactly if all the samples together send it
there.** -/
theorem spread_outside_alone_iff (hsamples : samples length width circleRadius ≠ []) :
    (∃ positions, spreadInHalf [] 1 length width circleRadius = some positions
        ∧ ∀ p ∈ positions, Outside circleRadius p)
      ↔ ClearsCircle circleRadius (samples length width circleRadius) := by
  have hcell : lastCell (cellAt [] 1 length width circleRadius 0) 100
      = samples length width circleRadius := by
    rw [lastCell, cellAt_alone hsamples, if_neg hsamples]
  rw [spread_outside_iff [] 1 hsamples]
  refine ⟨fun hall => ?_, fun h => ⟨.inr Nat.one_pos, fun r hr => .inr ?_⟩⟩
  · have hclears := hall.2 0 Nat.one_pos
    rw [List.length_nil, Nat.zero_add, hcell] at hclears
    exact hclears.resolve_left hsamples
  · obtain rfl := Nat.lt_one_iff.mp hr
    rw [List.length_nil, Nat.zero_add, hcell]
    exact h

end Config

end K1Sim
