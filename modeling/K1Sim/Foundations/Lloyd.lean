import Mathlib.Algebra.BigOperators.Group.Finset.Basic
import Mathlib.Algebra.Module.BigOperators
import Mathlib.Algebra.Order.BigOperators.Group.Finset
import Mathlib.Algebra.Order.BigOperators.Group.List
import Mathlib.Algebra.Order.Field.Basic
import Mathlib.LinearAlgebra.BilinearForm.Basic
import Mathlib.Tactic.LinearCombination
import Mathlib.Tactic.Linarith
import Mathlib.Tactic.Module

/-!
# Foundations/Lloyd — relaxing sites to the centroids of their cells

Points live in a module over an ordered field, with squared distances from a positive form.  The
difference of the squared distances to two sites, `side`, is affine: its value at the centroid of
some points is its mean over them (`sum_side`).  That is all that Lloyd's relaxation rests on.  The
centroid minimises the squared distances of its points (`sum_sqDist`), and cells on the two sides of
a bisector have their centroids on the two sides (`side_relocate_nonpos`, `side_relocate_pos`).
-/

namespace Foundations

variable {K E : Type*} [Field K] [AddCommGroup E] [Module K E]

/-- The centroid of some points. -/
def centroid (K : Type*) [Field K] [Module K E] (l : List E) : E := (l.length : K)⁻¹ • l.sum

section Mean

variable [LinearOrder K] [IsStrictOrderedRing K]

theorem length_smul_centroid {l : List E} (hl : l ≠ []) :
    (l.length : K) • centroid K l = l.sum := by
  have hlength : (l.length : K) ≠ 0 := by
    rw [Nat.cast_ne_zero, ne_eq, List.length_eq_zero_iff]
    exact hl
  rw [centroid, smul_smul, mul_inv_cancel₀ hlength, one_smul]

/-- **A linear form at the centroid is its mean.** -/
theorem length_mul_map_centroid (φ : E →ₗ[K] K) {l : List E} (hl : l ≠ []) :
    l.length * φ (centroid K l) = (l.map φ).sum := by
  rw [← smul_eq_mul, ← map_smul, length_smul_centroid hl, map_list_sum]

theorem map_centroid_lt {φ : E →ₗ[K] K} {c : K} {l : List E} (hl : l ≠ [])
    (h : ∀ p ∈ l, φ p < c) : φ (centroid K l) < c := by
  have hsum : (l.map φ).sum < (l.map fun _ => c).sum := by
    obtain ⟨p, hp⟩ := List.exists_mem_of_ne_nil l hl
    exact List.sum_lt_sum _ _ (fun q hq => (h q hq).le) ⟨p, hp, h p hp⟩
  rw [List.map_const', List.sum_replicate, nsmul_eq_mul, ← length_mul_map_centroid φ hl] at hsum
  exact lt_of_mul_lt_mul_left hsum (Nat.cast_nonneg _)

end Mean

section Distance

variable (B : LinearMap.BilinForm K E)

/-- The square of the distance. -/
def sqDist (p q : E) : K := B (p - q) (p - q)

/-- How much farther a point is from `a` than from `b`, in squares. -/
def side (a b p : E) : K := sqDist B p a - sqDist B p b

@[simp] theorem sqDist_self (p : E) : sqDist B p p = 0 := by simp [sqDist]

theorem sqDist_comm (p q : E) : sqDist B p q = sqDist B q p := by
  have hneg : p - q = -(q - p) := (neg_sub q p).symm
  rw [sqDist, sqDist, hneg, LinearMap.map_neg₂, map_neg, neg_neg]

/-- A form that is symmetric and positive. -/
structure Euclidean [LinearOrder K] : Prop where
  symm : ∀ p q, B p q = B q p
  pos : ∀ p, p ≠ 0 → 0 < B p p

variable {B} [LinearOrder K] (hB : Euclidean B)

include hB

theorem Euclidean.sqDist_pos {p q : E} (h : p ≠ q) : 0 < sqDist B p q :=
  hB.pos _ (sub_ne_zero.mpr h)

theorem Euclidean.sqDist_nonneg (p q : E) : 0 ≤ sqDist B p q := by
  by_cases h : p = q
  · rw [h, sqDist_self]
  · exact (hB.sqDist_pos h).le

theorem Euclidean.sqDist_eq_zero_iff {p q : E} : sqDist B p q = 0 ↔ p = q :=
  ⟨fun h => by_contra fun hne => (hB.sqDist_pos hne).ne' h, fun h => by rw [h, sqDist_self]⟩

/-- The difference of the squared distances is affine. -/
theorem Euclidean.side_eq (a b p : E) : side B a b p = 2 * B p (b - a) + (B a a - B b b) := by
  have hpa := hB.symm a p
  have hpb := hB.symm b p
  simp only [side, sqDist, map_sub, LinearMap.sub_apply]
  linear_combination hpb - hpa

variable [IsStrictOrderedRing K]

/-- **The side of the centroid is the mean of the sides.** -/
theorem Euclidean.sum_side (a b : E) {l : List E} (hl : l ≠ []) :
    (l.map (side B a b)).sum = l.length * side B a b (centroid K l) := by
  have hlinear := length_mul_map_centroid (LinearMap.flip B (b - a)) hl
  have hsplit : (l.map (side B a b)).sum
      = 2 * (l.map (LinearMap.flip B (b - a))).sum + l.length * (B a a - B b b) := by
    rw [← List.sum_map_mul_left, ← nsmul_eq_mul, ← List.sum_replicate, ← List.map_const',
      ← List.sum_map_add]
    exact congrArg List.sum (List.map_congr_left fun p _ => hB.side_eq a b p)
  rw [hsplit, ← hlinear, hB.side_eq, LinearMap.flip_apply]
  ring

/-- **The centroid minimises the squared distances**: those to any other site exceed them by the
number of points times the squared distance of the site. -/
theorem Euclidean.sum_sqDist (r : E) {l : List E} (hl : l ≠ []) :
    (l.map (sqDist B · r)).sum
      = (l.map (sqDist B · (centroid K l))).sum + l.length * sqDist B r (centroid K l) := by
  have hside := hB.sum_side r (centroid K l) hl
  have hsplit : (l.map (side B r (centroid K l))).sum
      = (l.map (sqDist B · r)).sum - (l.map (sqDist B · (centroid K l))).sum := by
    rw [eq_sub_iff_add_eq, ← List.sum_map_add]
    exact congrArg List.sum (List.map_congr_left fun p _ => sub_add_cancel _ _)
  rw [hsplit, side, sqDist_self, sub_zero, sqDist_comm B] at hside
  linear_combination hside

/-- **A ball has the centroids of its points.** -/
theorem Euclidean.sqDist_centroid_le {c : E} {ballSq : K} {l : List E} (hl : l ≠ [])
    (h : ∀ p ∈ l, sqDist B p c ≤ ballSq) : sqDist B (centroid K l) c ≤ ballSq := by
  have hlength : (0 : K) < l.length := Nat.cast_pos.mpr (List.length_pos_of_ne_nil hl)
  have hscatter : 0 ≤ (l.map (sqDist B · (centroid K l))).sum :=
    List.sum_nonneg fun x hx => by
      obtain ⟨p, -, rfl⟩ := List.mem_map.mp hx
      exact hB.sqDist_nonneg _ _
  have hsum : (l.map (sqDist B · c)).sum ≤ l.length * ballSq := by
    rw [← nsmul_eq_mul]
    refine (List.sum_le_card_nsmul _ ballSq fun x hx => ?_).trans_eq (by rw [List.length_map])
    obtain ⟨p, hp, rfl⟩ := List.mem_map.mp hx
    exact h p hp
  rw [hB.sum_sqDist c hl, sqDist_comm] at hsum
  exact le_of_mul_le_mul_left ((le_add_of_nonneg_left hscatter).trans hsum) hlength

/-- **The scatter of some points**, pair by pair, against that about their centroid. -/
theorem Euclidean.sum_sum_sqDist (l : List E) :
    (l.map fun q => (l.map (sqDist B · q)).sum).sum
      = 2 * l.length * (l.map (sqDist B · (centroid K l))).sum := by
  rcases eq_or_ne l [] with rfl | hl
  · simp
  have hrow : (l.map fun q => (l.map (sqDist B · q)).sum)
      = l.map fun q => (l.map (sqDist B · (centroid K l))).sum
        + l.length * sqDist B q (centroid K l) :=
    List.map_congr_left fun q _ => hB.sum_sqDist q hl
  rw [hrow, List.sum_map_add, List.map_const', List.sum_replicate, nsmul_eq_mul,
    List.sum_map_mul_left]
  ring

/-- **The centroid's squared distance**, from those of the points and their scatter. -/
theorem Euclidean.sqDist_centroid (o : E) {l : List E} (hl : l ≠ []) :
    2 * l.length * l.length * sqDist B (centroid K l) o
      = 2 * l.length * (l.map (sqDist B · o)).sum
        - (l.map fun q => (l.map (sqDist B · q)).sum).sum := by
  rw [hB.sum_sum_sqDist, hB.sum_sqDist o hl, sqDist_comm B o]
  ring

end Distance

/-! ## Relocating the sites -/

variable {ι : Type*} [DecidableEq ι]

/-- The samples that belong to a site. -/
def cell (assign : E → ι) (samples : List E) (i : ι) : List E :=
  samples.filter fun p => assign p = i

/-- Where a site goes: to the centroid of its cell, if it may move and its cell is not empty. -/
def relocate (K : Type*) [Field K] [Module K E] (movable : ι → Prop) [DecidablePred movable]
    (assign : E → ι) (samples : List E) (sites : ι → E) (i : ι) : E :=
  if movable i ∧ cell assign samples i ≠ [] then centroid K (cell assign samples i) else sites i

omit [AddCommGroup E] in
theorem mem_cell {assign : E → ι} {samples : List E} {i : ι} {p : E} :
    p ∈ cell assign samples i ↔ p ∈ samples ∧ assign p = i := by
  simp [cell]

omit [AddCommGroup E] in
/-- **A sum over the samples is the sum of those over the cells.** -/
theorem sum_map_eq_sum_cells {M : Type*} [AddCommMonoid M] {assign : E → ι} (f : ι → E → M)
    {samples : List E} {s : Finset ι} (h : ∀ p ∈ samples, assign p ∈ s) :
    (samples.map fun p => f (assign p) p).sum
      = ∑ i ∈ s, ((cell assign samples i).map (f i)).sum := by
  induction samples with
  | nil => simp [cell]
  | cons p samples ih =>
    obtain ⟨hp, hrest⟩ := List.forall_mem_cons.mp h
    have hcell (i : ι) : ((cell assign (p :: samples) i).map (f i)).sum
        = (if assign p = i then f i p else 0) + ((cell assign samples i).map (f i)).sum := by
      by_cases hi : assign p = i <;> simp [cell, hi]
    rw [List.map_cons, List.sum_cons, ih hrest, Finset.sum_congr rfl fun i _ => hcell i,
      Finset.sum_add_distrib, Finset.sum_ite_eq, if_pos hp]

section Relocate

variable {movable : ι → Prop} [DecidablePred movable] {assign : E → ι} {samples : List E}
  {sites : ι → E}

/-- **What holds of a site, and of the centroid of its cell unless that is empty**, holds of where
the site goes. -/
theorem relocate_induction {P : E → Prop} {i : ι} (hsite : P (sites i))
    (hcentroid : movable i → cell assign samples i ≠ [] → P (centroid K (cell assign samples i))) :
    P (relocate K movable assign samples sites i) := by
  rw [relocate]
  split_ifs with hmoves
  · exact hcentroid hmoves.1 hmoves.2
  · exact hsite

variable [LinearOrder K] [IsStrictOrderedRing K]

variable {B : LinearMap.BilinForm K E} (hB : Euclidean B)

include hB

/-- A site with no sample nearer to `b` stays on its own side of the bisector. -/
theorem Euclidean.side_relocate_nonpos {i : ι} {b : E}
    (h : ∀ p ∈ cell assign samples i, side B (sites i) b p ≤ 0) :
    side B (sites i) b (relocate K movable assign samples sites i) ≤ 0 := by
  refine relocate_induction (P := fun p => side B (sites i) b p ≤ 0) ?_ fun _ hcell => ?_
  · rw [side, sqDist_self, zero_sub]
    exact neg_nonpos.mpr (hB.sqDist_nonneg _ _)
  · have hsum := hB.sum_side (sites i) b hcell
    have hnonpos : ((cell assign samples i).map (side B (sites i) b)).sum ≤ 0 :=
      (List.sum_le_card_nsmul _ 0 fun x hx => by
        obtain ⟨p, hp, rfl⟩ := List.mem_map.mp hx
        exact h p hp).trans_eq (smul_zero _)
    have hlength : (0 : K) < (cell assign samples i).length :=
      Nat.cast_pos.mpr (List.length_pos_of_ne_nil hcell)
    exact nonpos_of_mul_nonpos_right (hsum ▸ hnonpos) hlength

/-- A site all of whose samples are nearer to it than to `a` stays clear of the bisector. -/
theorem Euclidean.side_relocate_pos {j : ι} {a : E} (hne : a ≠ sites j)
    (h : ∀ p ∈ cell assign samples j, 0 < side B a (sites j) p) :
    0 < side B a (sites j) (relocate K movable assign samples sites j) := by
  refine relocate_induction (P := fun p => 0 < side B a (sites j) p) ?_ fun _ hcell => ?_
  · rw [side, sqDist_self, sub_zero]
    exact hB.sqDist_pos hne.symm
  · have hsum := hB.sum_side a (sites j) hcell
    have hpos : 0 < ((cell assign samples j).map (side B a (sites j))).sum :=
      List.sum_pos _ (fun x hx => by
        obtain ⟨p, hp, rfl⟩ := List.mem_map.mp hx
        exact h p hp) (by simpa using hcell)
    exact pos_of_mul_pos_right (hsum ▸ hpos) (Nat.cast_nonneg _)

/-- **Two sites go to different places**, when their cells are on the two sides of their
bisector. -/
theorem Euclidean.relocate_ne {i j : ι} (hne : sites i ≠ sites j)
    (hi : ∀ p ∈ cell assign samples i, side B (sites i) (sites j) p ≤ 0)
    (hj : ∀ p ∈ cell assign samples j, 0 < side B (sites i) (sites j) p) :
    relocate K movable assign samples sites i ≠ relocate K movable assign samples sites j := by
  intro heq
  have hfirst : side B (sites i) (sites j) (relocate K movable assign samples sites i) ≤ 0 :=
    hB.side_relocate_nonpos hi
  have hsecond : 0 < side B (sites i) (sites j) (relocate K movable assign samples sites j) :=
    hB.side_relocate_pos hne hj
  rw [heq] at hfirst
  exact absurd hsecond (not_lt_of_ge hfirst)

variable (movable sites)

/-- **What the relocation saves**: for each site the squared distance that it goes, once for every
sample of its cell. -/
theorem Euclidean.sum_relocate {s : Finset ι} (h : ∀ p ∈ samples, assign p ∈ s) :
    (samples.map fun p => sqDist B p (sites (assign p))).sum
      = (samples.map fun p =>
          sqDist B p (relocate K movable assign samples sites (assign p))).sum
        + ∑ i ∈ s, (cell assign samples i).length
          * sqDist B (sites i) (relocate K movable assign samples sites i) := by
  rw [sum_map_eq_sum_cells (fun i p => sqDist B p (sites i)) h,
    sum_map_eq_sum_cells (fun i p => sqDist B p (relocate K movable assign samples sites i)) h,
    ← Finset.sum_add_distrib]
  refine Finset.sum_congr rfl fun i _ => ?_
  rw [relocate]
  split_ifs with hmoves
  · exact hB.sum_sqDist (sites i) hmoves.2
  · rw [sqDist_self, mul_zero, add_zero]

/-- **Relocating brings the sites no farther from their samples.** -/
theorem Euclidean.sum_relocate_le {s : Finset ι} (h : ∀ p ∈ samples, assign p ∈ s) :
    (samples.map fun p => sqDist B p (relocate K movable assign samples sites (assign p))).sum
      ≤ (samples.map fun p => sqDist B p (sites (assign p))).sum := by
  rw [hB.sum_relocate movable sites h]
  exact le_add_of_nonneg_right
    (Finset.sum_nonneg fun i _ => mul_nonneg (Nat.cast_nonneg _) (hB.sqDist_nonneg _ _))

/-- **It brings them nearer unless none of them moves.** -/
theorem Euclidean.relocate_eq_of_le {s : Finset ι} (h : ∀ p ∈ samples, assign p ∈ s)
    (hle : (samples.map fun p => sqDist B p (sites (assign p))).sum
      ≤ (samples.map fun p =>
        sqDist B p (relocate K movable assign samples sites (assign p))).sum) {i : ι}
    (hi : i ∈ s) : relocate K movable assign samples sites i = sites i := by
  have hnonneg : ∀ i ∈ s, 0 ≤ (cell assign samples i).length
      * sqDist B (sites i) (relocate K movable assign samples sites i) :=
    fun i _ => mul_nonneg (Nat.cast_nonneg _) (hB.sqDist_nonneg _ _)
  have hzero := hB.sum_relocate movable sites h
  have hsum : ∑ i ∈ s, (cell assign samples i).length
      * sqDist B (sites i) (relocate K movable assign samples sites i) = 0 :=
    le_antisymm (by linarith) (Finset.sum_nonneg hnonneg)
  rcases mul_eq_zero.mp ((Finset.sum_eq_zero_iff_of_nonneg hnonneg).mp hsum i hi) with
    hempty | hsame
  · have hcell : cell assign samples i = [] :=
      List.length_eq_zero_iff.mp (Nat.cast_eq_zero.mp hempty)
    rw [relocate, if_neg fun hmoves => hmoves.2 hcell]
  · exact (hB.sqDist_eq_zero_iff.mp hsame).symm

end Relocate

end Foundations
