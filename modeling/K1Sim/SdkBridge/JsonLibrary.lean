import K1Sim.Foundations.Fallible
import K1Sim.Foundations.StaticCast
import Mathlib.Data.UInt

/-!
# SdkBridge/JsonLibrary — what the bridge uses of nlohmann::json

The library is not part of the repository: `JsonLibrary` is what the bridge calls of it, and
`JsonLibrary.Documented` what its documentation promises about which values a conversion takes and
which exceptions leave the parser.  A string is its bytes.
-/

namespace K1Sim

open Foundations

/-- A `std::string`. -/
abbrev Bytes := List UInt8

/-- A `json` value. -/
inductive Json (K : Type*) where
  | null
  | boolean (b : Bool)
  | integer (n : ℤ)
  | real (x : K)
  | string (s : String)
  | array (elements : List (Json K))
  | object (fields : List (String × Json K))

namespace Json

variable {K : Type*}

/-- `is_number`. -/
def isNumber : Json K → Bool
  | .integer _ | .real _ => true
  | _ => false

/-- `is_boolean`. -/
def isBoolean : Json K → Bool
  | .boolean _ => true
  | _ => false

/-- `contains` with `operator[]`: only an object contains anything. -/
def find? (value : Json K) (key : String) : Option (Json K) :=
  match value with
  | .object fields => fields.lookup key
  | _ => none

end Json

/-- The classes of `json::exception` that reach the bridge. -/
inductive JsonException where
  | parseError | typeError | outOfRange
  deriving DecidableEq, Repr

/-- `json::parse`, `get<int64_t>`, `get<int>`, `get<double>`, `get<bool>` and `dump`. -/
structure JsonLibrary (K : Type*) where
  parse : Bytes → Except JsonException (Json K)
  getAsInt64 : Json K → Except JsonException ℤ
  getAsInt : Json K → Except JsonException ℤ
  getAsDouble : Json K → Except JsonException K
  getAsBool : Json K → Except JsonException Bool
  dump : Json K → Bytes

/-- A conversion takes the values of its kinds and throws a `type_error` at any other. -/
structure Converts {K α : Type*} (get : Json K → Except JsonException α) (kinds : Json K → Bool) :
    Prop where
  ok : ∀ value, kinds value = true → Returns (get value)
  error : ∀ value, kinds value = false → get value = .error .typeError

theorem Converts.returns_iff {K α : Type*} {get : Json K → Except JsonException α}
    {kinds : Json K → Bool} (h : Converts get kinds) (value : Json K) :
    Returns (get value) ↔ kinds value = true := by
  refine ⟨fun hget => ?_, h.ok value⟩
  by_contra hkind
  rw [h.error value (by simpa using hkind)] at hget
  exact not_returns_error _ hget

theorem Converts.of_forall {K α : Type*} {get : Json K → Except JsonException α}
    {kinds : Json K → Bool} (h : ∀ value, (kinds value = true ∧ Returns (get value))
      ∨ (kinds value = false ∧ get value = .error .typeError)) : Converts get kinds where
  ok value hkind := by
    rcases h value with ⟨-, hget⟩ | ⟨hother, -⟩
    · exact hget
    · exact absurd (hother.symm.trans hkind) Bool.false_ne_true
  error value hkind := by
    rcases h value with ⟨hother, -⟩ | ⟨-, hget⟩
    · exact absurd (hkind.symm.trans hother) Bool.false_ne_true
    · exact hget

namespace JsonLibrary

variable {K : Type*}

/-- The documented behaviour.  `get<int>` takes a boolean as well, `int` not being one of the types
a `json` stores. -/
structure Documented (lib : JsonLibrary K) : Prop where
  parse : ∀ text e, lib.parse text = .error e → e = .parseError ∨ e = .outOfRange
  int64 : Converts lib.getAsInt64 Json.isNumber
  int : Converts lib.getAsInt fun value => value.isNumber || value.isBoolean
  double : Converts lib.getAsDouble Json.isNumber
  bool : Converts lib.getAsBool Json.isBoolean

end JsonLibrary

/-! ## Numbers made integers -/

section Casts

variable {K : Type*}

/-- The value is the number `k`. -/
def Json.HasValue [IntCast K] : Json K → ℤ → Prop
  | .integer n, k => n = k
  | .real x, k => x = k
  | _, _ => False

instance [IntCast K] [DecidableEq K] (value : Json K) (k : ℤ) : Decidable (value.HasValue k) :=
  match value with
  | .integer n => inferInstanceAs (Decidable (n = k))
  | .real x => inferInstanceAs (Decidable (x = k))
  | .null | .boolean _ | .string _ | .array _ | .object _ => inferInstanceAs (Decidable False)

theorem Json.HasValue.isNumber [IntCast K] {value : Json K} {k : ℤ} (h : value.HasValue k) :
    value.isNumber = true := by
  rcases value with - | b | n | x | s | elements | fields
  case integer => rfl
  case real => rfl
  all_goals exact h.elim

variable [Ring K] [LinearOrder K] [FloorRing K]

/-- A conversion to integers of `w` bits by `static_cast`: an integer wraps, and a real is truncated
toward zero where the bits hold the result.  Where they do not, C++ leaves the cast undefined. -/
structure StaticCasts (w : ℕ) (get : Json K → Except JsonException ℤ) : Prop where
  integer : ∀ n, get (.integer n) = .ok (n.bmod (2 ^ w))
  real : ∀ x, InWidth w (truncate x) → get (.real x) = .ok (truncate x)

/-- The number is not `k`, and cast to `w` bits it comes out at `k`: an integer that is a multiple
of the modulus away, a real that has `k` before its fraction, or a real out of the width whose
undefined cast is `k`. -/
def Json.Aliases (w : ℕ) (get : Json K → Except JsonException ℤ) : Json K → ℤ → Prop
  | .integer n, k => n ≠ k ∧ (2 ^ w : ℤ) ∣ n - k
  | .real x, k => if InWidth w (truncate x) then x ≠ k ∧ truncate x = k else get (.real x) = .ok k
  | _, _ => False

variable {w : ℕ} {get : Json K → Except JsonException ℤ} {value : Json K} {k : ℤ}

/-- **A number is cast to what it is, or to what it aliases.** -/
theorem StaticCasts.get_eq_ok_iff [IsStrictOrderedRing K] (hcast : StaticCasts w get)
    (hk : InWidth w k) (hnumber : value.isNumber = true) :
    get value = .ok k ↔ value.HasValue k ∨ value.Aliases w get k := by
  rcases value with - | b | n | x | s | elements | fields
  case integer =>
    rw [hcast.integer, Except.ok.injEq, bmod_two_pow_eq_iff hk, Json.HasValue, Json.Aliases]
    by_cases hn : n = k
    · simp [hn]
    · simp [hn]
  case real =>
    rw [Json.HasValue, Json.Aliases]
    by_cases hx : x = k
    · have htrunc : truncate x = k := by rw [hx, truncate_intCast]
      have hwidth : InWidth w (truncate x) := htrunc.symm ▸ hk
      rw [hcast.real x hwidth, htrunc]
      simp [hx]
    · by_cases hwidth : InWidth w (truncate x)
      · rw [hcast.real x hwidth, if_pos hwidth]
        simp [hx]
      · rw [if_neg hwidth]
        simp [hx]
  all_goals exact absurd hnumber Bool.false_ne_true

theorem StaticCasts.get_of_hasValue [IsStrictOrderedRing K] (hcast : StaticCasts w get)
    (hk : InWidth w k) (h : value.HasValue k) : get value = .ok k :=
  (hcast.get_eq_ok_iff hk h.isNumber).mpr (.inl h)

theorem Json.Aliases.isNumber (h : value.Aliases w get k) : value.isNumber = true := by
  rcases value with - | b | n | x | s | elements | fields
  case integer => rfl
  case real => rfl
  all_goals exact h.elim

theorem StaticCasts.get_of_aliases [IsStrictOrderedRing K] (hcast : StaticCasts w get)
    (hk : InWidth w k) (h : value.Aliases w get k) : get value = .ok k :=
  (hcast.get_eq_ok_iff hk h.isNumber).mpr (.inr h)

theorem Json.Aliases.not_hasValue [IsStrictOrderedRing K] (hk : InWidth w k)
    (h : value.Aliases w get k) : ¬ value.HasValue k := by
  rcases value with - | b | n | x | s | elements | fields
  case integer => exact h.1
  case real =>
    rintro (rfl : x = k)
    rw [Json.Aliases, truncate_intCast, if_pos hk] at h
    exact h.1 rfl
  all_goals exact h.elim

end Casts

end K1Sim
