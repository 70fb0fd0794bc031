import Mathlib.Data.Rat.Floor
import Mathlib.Data.Rat.Sqrt

/-!
# Shared/Libc — the C library functions the simulator calls on doubles

A double is an element of a linearly ordered field `K`; what the field operations do not give
(`std::sqrt`, `std::acos`, the printf conversion `%.3f`, …) comes from `Libc K`.
-/

namespace K1Sim

/-- The functions of `<cmath>` and `<cstdio>` that the simulator uses. -/
class Libc (K : Type*) where
  sqrt : K → K
  acos : K → K
  cos : K → K
  sin : K → K
  exp : K → K
  atan2 : K → K → K
  /-- `std::remainder`: the quotient rounded to the nearest integer, ties to even. -/
  remainder : K → K → K
  /-- `std::numbers::pi_v`. -/
  pi : K
  /-- The cast to `float`. -/
  toFloat : K → K
  /-- The conversion `%.3f`. -/
  fixed3 : K → String

/-- `std::cos` and `std::sin` are the coordinates of the unit circle, from `(1, 0)` on. -/
structure Libc.Circular (K : Type*) [Field K] [Libc K] : Prop where
  cos_zero : Libc.cos (0 : K) = 1
  sin_zero : Libc.sin (0 : K) = 0
  normSq_eq_one : ∀ a : K, Libc.cos a * Libc.cos a + Libc.sin a * Libc.sin a = 1

/-- The nearest integer, ties to even. -/
def roundHalfEven (q : ℚ) : ℤ :=
  let below := ⌊q⌋
  if q - below < 1 / 2 then below
  else if 1 / 2 < q - below then below + 1
  else if below % 2 = 0 then below else below + 1

/-- The double nearest to `π`. -/
def piRat : ℚ := 884279719003555 / 281474976710656

/-- **The library at rational points**, to evaluate the model there: `sqrt` on squares,
`remainder` and `%.3f` everywhere, the cast to `float` at its own values, and the transcendental
functions at the arguments where their value is rational — `acos 1`, `cos` and `sin` at `0` and at
a quarter turn, `exp 0`, `atan2 0 x` with `0 < x`. -/
instance : Libc ℚ where
  sqrt := Rat.sqrt
  acos _ := 0
  cos a := if a = 1 / 2 * piRat then 0 else 1
  sin a := if a = 1 / 2 * piRat then 1 else 0
  exp _ := 1
  atan2 _ _ := 0
  remainder x y := x - roundHalfEven (x / y) * y
  pi := piRat
  toFloat q := q
  fixed3 q :=
    let thousandths := (roundHalfEven (|q| * 1000)).toNat
    let digits := toString (thousandths % 1000)
    (if q < 0 then "-" else "") ++ toString (thousandths / 1000) ++ "."
      ++ String.ofList (List.replicate (3 - digits.length) '0') ++ digits

theorem circular_rat : Libc.Circular ℚ where
  cos_zero := by decide +kernel
  sin_zero := by decide +kernel
  normSq_eq_one a := by
    simp only [Libc.cos, Libc.sin]
    split_ifs
    · decide +kernel
    · decide +kernel

end K1Sim
