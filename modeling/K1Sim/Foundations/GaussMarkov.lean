import K1Sim.Foundations.Numerals
import Mathlib.Probability.Distributions.Gaussian.Real
import Mathlib.Probability.Independence.InfinitePi
import Mathlib.Probability.Moments.Variance

/-!
# Foundations/GaussMarkov — noise sampled at irregular times

Two processes driven by standard draws and sampled at the times `t 0 < t 1 < …`.  The
**Gauss-Markov process** is stationary and forgets exponentially, and the **random walk** of a noise
density spreads with the square root of the time passed, whatever the times in between
(`covariance_gaussMarkov`, `variance_walk`).
-/

namespace Foundations

open MeasureTheory ProbabilityTheory

variable {Ω : Type*} {mΩ : MeasurableSpace Ω} {μ : Measure Ω}

/-- Standard draws: of mean `0` and variance `1`, any two of them independent. -/
structure StandardDraws (z : ℕ → Ω → ℝ) (μ : Measure Ω) : Prop where
  aestronglyMeasurable : ∀ n, AEStronglyMeasurable (z n) μ
  mean : ∀ n, ∫ ω, z n ω ∂μ = 0
  variance : ∀ n, Var[z n; μ] = 1
  independent : Pairwise fun i j => IndepFun (z i) (z j) μ

/-- The outcomes of a stream of standard normal draws. -/
noncomputable def normalStream : Measure (ℕ → ℝ) := Measure.infinitePi fun _ => gaussianReal 0 1

noncomputable instance : IsProbabilityMeasure normalStream :=
  inferInstanceAs (IsProbabilityMeasure (Measure.infinitePi fun _ => gaussianReal 0 1))

/-- The draws of such a stream are standard draws. -/
theorem standardDraws_normalStream : StandardDraws (fun n (ω : ℕ → ℝ) => ω n) normalStream := by
  have heval (n : ℕ) : MeasurePreserving (Function.eval n) normalStream (gaussianReal 0 1) :=
    measurePreserving_eval_infinitePi (fun _ : ℕ => gaussianReal 0 1) n
  refine ⟨fun n => (measurable_pi_apply n).aestronglyMeasurable, fun n => ?_, fun n => ?_, ?_⟩
  · calc ∫ ω, Function.eval n ω ∂normalStream
        = ∫ x, x ∂(normalStream.map (Function.eval n)) :=
          (integral_map (heval n).aemeasurable measurable_id.aestronglyMeasurable).symm
      _ = 0 := by rw [(heval n).map_eq, integral_id_gaussianReal]
  · rw [← NNReal.coe_one, ← variance_id_gaussianReal (μ := 0)]
    exact (heval n).variance_fun_comp measurable_id.aemeasurable
  · intro i j hij
    exact (iIndepFun_infinitePi (P := fun _ : ℕ => gaussianReal 0 1) (X := fun _ x => x)
      fun _ => measurable_id).indepFun hij

/-- The Gauss-Markov process of standard deviation `σ` and time constant `τ`. -/
noncomputable def gaussMarkov (σ τ : ℝ) (t : ℕ → ℝ) (z : ℕ → Ω → ℝ) : ℕ → Ω → ℝ
  | 0 => fun ω => σ * z 0 ω
  | n + 1 => fun ω =>
    let a := Real.exp (-(t (n + 1) - t n) / τ)
    a * gaussMarkov σ τ t z n ω + σ * √(1 - a * a) * z (n + 1) ω

/-- The random walk of the noise density `s`: each step is a sample of standard deviation
`s / √dt`, over `dt`. -/
noncomputable def walk (s : ℝ) (t : ℕ → ℝ) (z : ℕ → Ω → ℝ) : ℕ → Ω → ℝ
  | 0 => fun _ => 0
  | n + 1 => fun ω =>
    let dt := t (n + 1) - t n
    walk s t z n ω + dt * (s / √dt) * z n ω

/-- Without spread, the process stays at zero. -/
theorem gaussMarkov_zero (τ : ℝ) (t : ℕ → ℝ) (z : ℕ → Ω → ℝ) (n : ℕ) (ω : Ω) :
    gaussMarkov 0 τ t z n ω = 0 := by
  induction n with
  | zero => exact zero_mul _
  | succ n ih =>
    change _ * gaussMarkov 0 τ t z n ω + 0 * _ * _ = 0
    rw [ih, mul_zero, zero_mul, zero_mul, add_zero]

theorem walk_succ (s : ℝ) (t : ℕ → ℝ) (z : ℕ → Ω → ℝ) (n : ℕ) (ω : Ω) :
    walk s t z (n + 1) ω = walk s t z n ω
      + (t (n + 1) - t n) * (s / √(t (n + 1) - t n)) * z n ω :=
  rfl

namespace StandardDraws

variable {z : ℕ → Ω → ℝ} (hz : StandardDraws z μ)

include hz

/-- Draws taken out of standard draws, none of them twice. -/
theorem comp {f : ℕ → ℕ} (hf : Function.Injective f) :
    StandardDraws (fun n => z (f n)) μ where
  aestronglyMeasurable n := hz.aestronglyMeasurable (f n)
  mean n := hz.mean (f n)
  variance n := hz.variance (f n)
  independent _ _ hij := hz.independent (hf.ne hij)

variable [IsProbabilityMeasure μ]

theorem memLp (n : ℕ) : MemLp (z n) 2 μ :=
  memLp_two_of_variance_ne_zero (hz.aestronglyMeasurable n) (by rw [hz.variance]; exact one_ne_zero)

theorem covariance_eq (i j : ℕ) : cov[z i, z j; μ] = if i = j then 1 else 0 := by
  split_ifs with h
  · rw [← h, covariance_self (hz.aestronglyMeasurable i).aemeasurable, hz.variance]
  · exact (hz.independent h).covariance_eq_zero (hz.memLp i) (hz.memLp j)

/-! ## The Gauss-Markov process -/

section Stationary

variable (σ τ : ℝ) (t : ℕ → ℝ)

theorem memLp_gaussMarkov (n : ℕ) : MemLp (gaussMarkov σ τ t z n) 2 μ := by
  induction n with
  | zero => exact (hz.memLp 0).const_mul σ
  | succ n ih => exact (ih.const_mul _).add ((hz.memLp (n + 1)).const_mul _)

/-- The process knows nothing of the draws to come. -/
theorem covariance_gaussMarkov_draw {n k : ℕ} (h : n < k) :
    cov[gaussMarkov σ τ t z n, z k; μ] = 0 := by
  induction n with
  | zero =>
    rw [gaussMarkov, covariance_const_mul_left, hz.covariance_eq, if_neg h.ne, mul_zero]
  | succ n ih =>
    refine (covariance_add_left ((hz.memLp_gaussMarkov σ τ t n).const_mul _)
      ((hz.memLp (n + 1)).const_mul _) (hz.memLp k)).trans ?_
    rw [covariance_const_mul_left, covariance_const_mul_left, ih (Nat.lt_of_succ_lt h),
      hz.covariance_eq, if_neg h.ne, mul_zero, mul_zero, add_zero]

/-- A value that the process has had is forgotten by the factor of each step. -/
theorem covariance_gaussMarkov_succ {i j : ℕ} (h : i ≤ j) :
    cov[gaussMarkov σ τ t z i, gaussMarkov σ τ t z (j + 1); μ]
      = Real.exp (-(t (j + 1) - t j) / τ)
        * cov[gaussMarkov σ τ t z i, gaussMarkov σ τ t z j; μ] := by
  refine (covariance_add_right (hz.memLp_gaussMarkov σ τ t i)
    ((hz.memLp_gaussMarkov σ τ t j).const_mul _) ((hz.memLp (j + 1)).const_mul _)).trans ?_
  rw [covariance_const_mul_right, covariance_const_mul_right,
    hz.covariance_gaussMarkov_draw σ τ t (Nat.lt_succ_of_le h), mul_zero, add_zero]

variable {τ t} (hτ : 0 < τ) (ht : StrictMono t)

include hτ ht

/-- **The process is stationary**: what a step forgets of the variance, its draw makes up for. -/
theorem variance_gaussMarkov (n : ℕ) : Var[gaussMarkov σ τ t z n; μ] = σ ^ 2 := by
  induction n with
  | zero => rw [gaussMarkov, variance_const_mul, hz.variance, mul_one]
  | succ n ih =>
    have hdt : -(t (n + 1) - t n) / τ ≤ 0 :=
      div_nonpos_of_nonpos_of_nonneg (neg_nonpos.mpr (sub_nonneg.mpr (ht.monotone n.le_succ))) hτ.le
    have hle := Real.exp_le_one_iff.mpr hdt
    have hnonneg := (Real.exp_pos (-(t (n + 1) - t n) / τ)).le
    have hrest := sub_nonneg.mpr (mul_le_one₀ hle hnonneg hle)
    refine (variance_fun_add ((hz.memLp_gaussMarkov σ τ t n).const_mul _)
      ((hz.memLp (n + 1)).const_mul _)).trans ?_
    rw [variance_const_mul, variance_const_mul, covariance_const_mul_left,
      covariance_const_mul_right, hz.covariance_gaussMarkov_draw σ τ t n.lt_succ_self, ih,
      hz.variance, mul_pow, Real.sq_sqrt hrest]
    ring

/-- **The process forgets exponentially**, whatever the times between. -/
theorem covariance_gaussMarkov {i j : ℕ} (h : i ≤ j) :
    cov[gaussMarkov σ τ t z i, gaussMarkov σ τ t z j; μ]
      = σ ^ 2 * Real.exp (-(t j - t i) / τ) := by
  induction j, h using Nat.le_induction with
  | base =>
    rw [covariance_self (hz.memLp_gaussMarkov σ τ t i).aemeasurable,
      hz.variance_gaussMarkov σ hτ ht, sub_self, neg_zero, zero_div, Real.exp_zero, mul_one]
  | succ j h ih =>
    rw [hz.covariance_gaussMarkov_succ σ τ t h, ih, mul_left_comm, ← Real.exp_add, ← add_div]
    ring_nf

end Stationary

/-! ## The random walk -/

section Walk

variable (s : ℝ) (t : ℕ → ℝ)

theorem memLp_walk (n : ℕ) : MemLp (walk s t z n) 2 μ := by
  induction n with
  | zero => exact memLp_const 0
  | succ n ih => exact ih.add ((hz.memLp n).const_mul _)

theorem covariance_walk_draw {n k : ℕ} (h : n ≤ k) : cov[walk s t z n, z k; μ] = 0 := by
  induction n with
  | zero => exact covariance_const_left 0
  | succ n ih =>
    refine (covariance_add_left (hz.memLp_walk s t n) ((hz.memLp n).const_mul _)
      (hz.memLp k)).trans ?_
    rw [covariance_const_mul_left, ih (Nat.le_of_succ_le h), hz.covariance_eq,
      if_neg (Nat.ne_of_lt h), mul_zero, add_zero]

/-- **A random walk spreads with the time passed**, however that is divided. -/
theorem variance_walk {t : ℕ → ℝ} (ht : StrictMono t) (n : ℕ) :
    Var[walk s t z n; μ] = s ^ 2 * (t n - t 0) := by
  induction n with
  | zero =>
    rw [sub_self, mul_zero]
    exact variance_zero μ
  | succ n ih =>
    have hdt : 0 < t (n + 1) - t n := sub_pos.mpr (ht n.lt_succ_self)
    have hsample : ((t (n + 1) - t n) * (s / √(t (n + 1) - t n))) ^ 2
        = s ^ 2 * (t (n + 1) - t n) := by
      rw [mul_pow, div_pow, Real.sq_sqrt hdt.le]
      field_simp
    refine (variance_fun_add (hz.memLp_walk s t n) ((hz.memLp n).const_mul _)).trans ?_
    rw [variance_const_mul, covariance_const_mul_right, hz.covariance_walk_draw s t le_rfl, ih,
      hz.variance, hsample]
    ring

end Walk

end StandardDraws

end Foundations
