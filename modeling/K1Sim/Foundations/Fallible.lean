import Mathlib.Logic.Basic

/-!
# Foundations/Fallible — computations that return or throw

`Returns x` says that a computation in `Except` throws nothing.  It is read off the structure of the
computation: a bind returns when both its parts do (`returns_bind_iff`).  `Ensures x P` says that
whatever it returns satisfies `P`.
-/

namespace Foundations

universe u

variable {ε : Type*} {α β : Type u}

/-- The computation throws nothing. -/
def Returns (x : Except ε α) : Prop := ∃ a, x = .ok a

@[simp] theorem exists_eq_ok_iff {x : Except ε α} : (∃ a, x = .ok a) ↔ Returns x := Iff.rfl

@[simp] theorem returns_ok (a : α) : Returns (.ok a : Except ε α) := ⟨a, rfl⟩

@[simp] theorem returns_pure (a : α) : Returns (pure a : Except ε α) := ⟨a, rfl⟩

@[simp] theorem not_returns_error (e : ε) : ¬ Returns (.error e : Except ε α) := by
  rintro ⟨a, h⟩
  exact nomatch h

theorem bind_eq_ok_iff {x : Except ε α} {f : α → Except ε β} {b : β} :
    x >>= f = .ok b ↔ ∃ a, x = .ok a ∧ f a = .ok b := by
  rcases x with e | a
  · constructor
    · intro h
      have hthrown : (.error e : Except ε β) = .ok b := h
      exact nomatch hthrown
    · rintro ⟨a, h, -⟩
      exact nomatch h
  · refine ⟨fun h => ⟨a, rfl, h⟩, ?_⟩
    rintro ⟨a', h, hf⟩
    obtain rfl := Except.ok.inj h
    exact hf

/-- **A bind returns when both its parts do.** -/
theorem returns_bind_iff {x : Except ε α} {f : α → Except ε β} :
    Returns (x >>= f) ↔ ∃ a, x = .ok a ∧ Returns (f a) := by
  constructor
  · rintro ⟨b, h⟩
    obtain ⟨a, hx, hf⟩ := bind_eq_ok_iff.mp h
    exact ⟨a, hx, b, hf⟩
  · rintro ⟨a, hx, b, hf⟩
    exact ⟨b, bind_eq_ok_iff.mpr ⟨a, hx, hf⟩⟩

@[simp] theorem returns_map_iff {x : Except ε α} (f : α → β) : Returns (f <$> x) ↔ Returns x := by
  rcases x with e | a
  · exact ⟨fun h => absurd h (not_returns_error e), fun h => absurd h (not_returns_error e)⟩
  · exact ⟨fun _ => returns_ok a, fun _ => returns_ok (f a)⟩

/-- Whatever the computation returns satisfies `P`. -/
def Ensures (x : Except ε α) (P : α → Prop) : Prop := ∀ a, x = .ok a → P a

theorem Ensures.pure {P : α → Prop} {a : α} (h : P a) : Ensures (pure a : Except ε α) P := by
  intro a' ha
  obtain rfl := Except.ok.inj ha
  exact h

theorem Ensures.bind {P : β → Prop} {x : Except ε α} {f : α → Except ε β}
    (h : ∀ a, Ensures (f a) P) : Ensures (x >>= f) P := by
  intro b hb
  obtain ⟨a, -, hf⟩ := bind_eq_ok_iff.mp hb
  exact h a b hf

end Foundations
