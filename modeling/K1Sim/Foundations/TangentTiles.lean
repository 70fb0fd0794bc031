import K1Sim.Foundations.Numerals
import Mathlib.Algebra.Order.ToIntervalMod
import Mathlib.Analysis.SpecialFunctions.Complex.Arg
import Mathlib.Analysis.SpecialFunctions.Trigonometric.Bounds

/-!
# Foundations/TangentTiles — a circle laid with rectangles along its tangents

A rectangle of half-sizes `ℓ` and `w` laid on the circle of radius `r` covers, for the directions
up to `δ` away from its own, the band of width `2 * w` around the circle but for what the tangent
cuts off the inside of it (`mem_tile_of_near`).  With rectangles at equal steps the directions that
are near one make up an arc (`exists_near_step`), or the whole circle (`exists_near_turn`).
-/

namespace Foundations

open Real

/-- The rectangle that lies on the circle about the origin in the direction `(c, s)`, as far as `ℓ`
along the tangent and `w` across. -/
def tile (r ℓ w c s : ℝ) : Set (ℝ × ℝ) :=
  {p | |p.2 * c - p.1 * s| ≤ ℓ ∧ |p.1 * c + p.2 * s - r| ≤ w}

variable {r ℓ w c s : ℝ}

/-- A sign. -/
theorem abs_eq_one_of_mul_self {a : ℝ} (ha : a * a = 1) : |a| = 1 := by
  obtain rfl | rfl := mul_self_eq_one_iff.mp ha
  · exact abs_one
  · rw [abs_neg, abs_one]

/-- **Tiles turn into tiles under reflections** along the axes. -/
theorem mem_tile_reflect {a b : ℝ} (ha : a * a = 1) (hb : b * b = 1) (p : ℝ × ℝ) :
    (a * p.1, b * p.2) ∈ tile r ℓ w (a * c) (b * s) ↔ p ∈ tile r ℓ w c s := by
  have halong : b * p.2 * (a * c) - a * p.1 * (b * s) = a * b * (p.2 * c - p.1 * s) := by ring
  have hacross : a * p.1 * (a * c) + b * p.2 * (b * s) = p.1 * c + p.2 * s := by
    linear_combination p.1 * c * ha + p.2 * s * hb
  change |b * p.2 * (a * c) - a * p.1 * (b * s)| ≤ ℓ
      ∧ |a * p.1 * (a * c) + b * p.2 * (b * s) - r| ≤ w
    ↔ |p.2 * c - p.1 * s| ≤ ℓ ∧ |p.1 * c + p.2 * s - r| ≤ w
  rw [halong, hacross, abs_mul, abs_mul, abs_eq_one_of_mul_self ha, abs_eq_one_of_mul_self hb,
    one_mul, one_mul]

/-- The band that the tiles of a circle fill: within `w` of it, but for what a tangent cuts off
inside it up to the angle `δ`. -/
def band (r w δ : ℝ) : Set (ℝ × ℝ) :=
  {p | r - w ≤ √(p.1 ^ 2 + p.2 ^ 2) * cos δ ∧ √(p.1 ^ 2 + p.2 ^ 2) ≤ r + w}

/-- **A tile covers the band in the directions near its own.** -/
theorem mem_tile_of_near {δ ρ θ φ : ℝ} (hδ : δ ≤ π) (hw : 0 ≤ r + w) (hℓ : (r + w) * δ ≤ ℓ)
    (hρ : 0 ≤ ρ) (hin : r - w ≤ ρ * cos δ) (hout : ρ ≤ r + w) (hnear : |φ - θ| ≤ δ) :
    (ρ * cos φ, ρ * sin φ) ∈ tile r ℓ w (cos θ) (sin θ) := by
  have halong : ρ * sin φ * cos θ - ρ * cos φ * sin θ = ρ * sin (φ - θ) := by
    rw [sin_sub]
    ring
  have hacross : ρ * cos φ * cos θ + ρ * sin φ * sin θ = ρ * cos (φ - θ) := by
    rw [cos_sub]
    ring
  have hcos : cos δ ≤ cos (φ - θ) := by
    rw [← cos_abs (φ - θ)]
    exact cos_le_cos_of_nonneg_of_le_pi (abs_nonneg _) hδ hnear
  constructor
  · calc |ρ * sin φ * cos θ - ρ * cos φ * sin θ|
        = ρ * |sin (φ - θ)| := by rw [halong, abs_mul, abs_of_nonneg hρ]
      _ ≤ (r + w) * δ := mul_le_mul hout (abs_sin_le_abs.trans hnear) (abs_nonneg _) hw
      _ ≤ ℓ := hℓ
  · rw [hacross, abs_le]
    have hlow : ρ * cos δ ≤ ρ * cos (φ - θ) := mul_le_mul_of_nonneg_left hcos hρ
    have hhigh : ρ * cos (φ - θ) ≤ ρ := mul_le_of_le_one_right hρ (cos_le_one _)
    constructor <;> linarith

/-- A tile stays within its diagonal's reach of the circle. -/
theorem dist_of_mem_tile {p : ℝ × ℝ} (hunit : c ^ 2 + s ^ 2 = 1) (hw : w ≤ r)
    (hp : p ∈ tile r ℓ w c s) :
    (r - w) ^ 2 ≤ p.1 ^ 2 + p.2 ^ 2 ∧ p.1 ^ 2 + p.2 ^ 2 ≤ (r + w) ^ 2 + ℓ ^ 2 := by
  obtain ⟨halong, hacross⟩ := hp
  have hsplit : p.1 ^ 2 + p.2 ^ 2 = (p.1 * c + p.2 * s) ^ 2 + (p.2 * c - p.1 * s) ^ 2 := by
    linear_combination -(p.1 ^ 2 + p.2 ^ 2) * hunit
  obtain ⟨hlow, hhigh⟩ := abs_le.mp hacross
  have hin : (r - w) ^ 2 ≤ (p.1 * c + p.2 * s) ^ 2 :=
    pow_le_pow_left₀ (sub_nonneg.mpr hw) (by linarith) 2
  have hout : (p.1 * c + p.2 * s) ^ 2 ≤ (r + w) ^ 2 :=
    pow_le_pow_left₀ (by linarith) (by linarith) 2
  have htangent : (p.2 * c - p.1 * s) ^ 2 ≤ ℓ ^ 2 :=
    sq_le_sq' (abs_le.mp halong).1 (abs_le.mp halong).2
  rw [hsplit]
  exact ⟨hin.trans (le_add_of_nonneg_right (sq_nonneg _)), add_le_add hout htangent⟩

/-! ## Equal steps -/

/-- **The steps of an arc are near every point of it.** -/
theorem exists_near_step {step x : ℝ} {n : ℕ} (hn : 0 < n)
    (hlow : -(step / 2) ≤ x) (hhigh : x ≤ n * step - step / 2) :
    ∃ i < n, |x - i * step| ≤ step / 2 := by
  induction n, hn using Nat.le_induction with
  | base => exact ⟨0, one_pos, abs_le.mpr ⟨by simpa using hlow, by push_cast at *; linarith⟩⟩
  | succ n hn ih =>
    obtain hle | hlt := le_or_gt x (n * step - step / 2)
    · obtain ⟨i, hi, hnear⟩ := ih hle
      exact ⟨i, hi.trans n.lt_succ_self, hnear⟩
    · refine ⟨n, n.lt_succ_self, abs_le.mpr ⟨by linarith, ?_⟩⟩
      push_cast at hhigh
      linarith

/-- **The steps of a full turn are near every angle**, some turns away. -/
theorem exists_near_turn {step : ℝ} {n : ℕ} (hn : 0 < n) (hturn : n * step = 2 * π) (x : ℝ) :
    ∃ i < n, ∃ turns : ℤ, |x - turns * (2 * π) - i * step| ≤ step / 2 := by
  obtain ⟨hlow, hhigh⟩ := toIcoMod_mem_Ico two_pi_pos (-(step / 2)) x
  have hmod : x - toIcoDiv two_pi_pos (-(step / 2)) x * (2 * π)
      = toIcoMod two_pi_pos (-(step / 2)) x := by
    rw [← self_sub_toIcoDiv_zsmul, zsmul_eq_mul]
  obtain ⟨i, hi, hnear⟩ := exists_near_step hn hlow (by linarith)
  exact ⟨i, hi, _, hmod ▸ hnear⟩

/-- **Whole steps come round to the steps of one turn.** -/
theorem exists_step_eq {step : ℝ} {n : ℕ} (hn : 0 < n) (hturn : n * step = 2 * π) (k : ℤ) :
    ∃ i < n, cos (i * step) = cos (k * step) ∧ sin (i * step) = sin (k * step) := by
  have hn' : (0 : ℤ) < n := Int.natCast_pos.mpr hn
  have hmod : ((k % n).toNat : ℝ) * step = k * step - (k / n : ℤ) * (2 * π) := by
    have hcast : ((k % n).toNat : ℤ) = k % n := Int.toNat_of_nonneg (Int.emod_nonneg k hn'.ne')
    have hk : (k : ℝ) = n * (k / n : ℤ) + (k % n : ℤ) := by
      exact_mod_cast (Int.mul_ediv_add_emod k n).symm
    rw [← Int.cast_natCast, hcast, ← hturn, hk]
    ring
  refine ⟨(k % n).toNat, (Int.toNat_lt' hn).mpr (Int.emod_lt_of_pos k hn'), ?_, ?_⟩
  · rw [hmod, cos_sub_int_mul_two_pi]
  · rw [hmod, sin_sub_int_mul_two_pi]

/-! ## Arcs -/

/-- A point by its distance and its angle. -/
theorem polar (p : ℝ × ℝ) :
    (√(p.1 ^ 2 + p.2 ^ 2) * cos (Complex.arg ⟨p.1, p.2⟩),
      √(p.1 ^ 2 + p.2 ^ 2) * sin (Complex.arg ⟨p.1, p.2⟩)) = p := by
  have hnorm : ‖(⟨p.1, p.2⟩ : ℂ)‖ = √(p.1 ^ 2 + p.2 ^ 2) := by
    rw [Complex.norm_def, Complex.normSq_mk, sq, sq]
  rw [← hnorm, Complex.norm_mul_cos_arg, Complex.norm_mul_sin_arg]

/-- **A full turn of tiles covers the band.** -/
theorem band_subset_tiles {step : ℝ} {n : ℕ} (hn : 2 ≤ n) (hturn : n * step = 2 * π)
    (hw : 0 ≤ r + w) (hℓ : (r + w) * (step / 2) ≤ ℓ) {p : ℝ × ℝ} (hp : p ∈ band r w (step / 2)) :
    ∃ i < n, p ∈ tile r ℓ w (cos (i * step)) (sin (i * step)) := by
  obtain ⟨i, hi, turns, hnear⟩ := exists_near_turn (two_pos.trans_le hn) hturn
    (Complex.arg ⟨p.1, p.2⟩)
  have hn' : (2 : ℝ) ≤ n := by exact_mod_cast hn
  have hδ : step / 2 ≤ π := by nlinarith [pi_pos]
  refine ⟨i, hi, ?_⟩
  have hmem := mem_tile_of_near hδ hw hℓ (sqrt_nonneg _) hp.1 hp.2 hnear
  rwa [cos_sub_int_mul_two_pi, sin_sub_int_mul_two_pi, polar] at hmem

/-- **A quarter turn of tiles covers the band in a quadrant.** -/
theorem quadrant_subset_tiles {step : ℝ} {n : ℕ} (hn : 0 < n) (hquarter : n * step = π / 2)
    (hw : 0 ≤ r + w) (hℓ : (r + w) * (step / 2) ≤ ℓ) {p : ℝ × ℝ} (hp : p ∈ band r w (step / 2))
    (hx : 0 ≤ p.1) (hy : 0 ≤ p.2) :
    ∃ i < n, p ∈ tile r ℓ w (cos ((i + 1 / 2) * step)) (sin ((i + 1 / 2) * step)) := by
  have hlow : 0 ≤ Complex.arg ⟨p.1, p.2⟩ := Complex.arg_nonneg_iff.mpr hy
  have hhigh : Complex.arg ⟨p.1, p.2⟩ ≤ π / 2 := Complex.arg_le_pi_div_two_iff.mpr (.inl hx)
  have hn' : (1 : ℝ) ≤ n := by exact_mod_cast hn
  obtain ⟨i, hi, hnear⟩ := exists_near_step hn
    (show -(step / 2) ≤ Complex.arg ⟨p.1, p.2⟩ - step / 2 by linarith)
    (show _ ≤ n * step - step / 2 by linarith)
  have hδ : step / 2 ≤ π := by nlinarith [pi_pos]
  have hnear' : |Complex.arg ⟨p.1, p.2⟩ - (i + 1 / 2) * step| ≤ step / 2 := by
    rwa [add_mul, one_div_mul_eq_div, add_comm, ← sub_sub]
  have hmem := mem_tile_of_near hδ hw hℓ (sqrt_nonneg _) hp.1 hp.2 hnear'
  rw [polar] at hmem
  exact ⟨i, hi, hmem⟩

end Foundations
