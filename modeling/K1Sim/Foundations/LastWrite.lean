import Mathlib.Data.List.Basic

/-!
# Foundations/LastWrite — the last write of a word

A letter may write a value (`f e = some a`) or leave what was written before alone.  `lastWrite`
is the value of the last letter that writes; a register all of whose changes are writes holds it
(`register_foldl`).
-/

namespace Foundations

variable {ε α σ : Type*}

/-- The value written by the last letter that writes one. -/
def lastWrite (f : ε → Option α) (es : List ε) : Option α := (es.filterMap f).getLast?

@[simp] theorem lastWrite_nil (f : ε → Option α) : lastWrite f [] = none := rfl

/-- **A later write wins.** -/
theorem lastWrite_append (f : ε → Option α) (es fs : List ε) :
    lastWrite f (es ++ fs) = (lastWrite f fs).or (lastWrite f es) := by
  rw [lastWrite, List.filterMap_append, List.getLast?_append]
  rfl

theorem lastWrite_cons (f : ε → Option α) (e : ε) (es : List ε) :
    lastWrite f (e :: es) = (lastWrite f es).or (f e) := by
  have h : lastWrite f [e] = f e := by
    rcases he : f e with - | a <;> simp [lastWrite, he]
  rw [← h, ← lastWrite_append, List.singleton_append]

theorem lastWrite_snoc (f : ε → Option α) (es : List ε) (e : ε) :
    lastWrite f (es ++ [e]) = (f e).or (lastWrite f es) := by
  rw [lastWrite_append, lastWrite_cons, lastWrite_nil, Option.none_or]

/-- A word whose last letter writes has that letter's value as its last write. -/
theorem lastWrite_of_getLast? {f : ε → Option α} {es : List ε} {e : ε} {a : α}
    (hlast : es.getLast? = some e) (he : f e = some a) : lastWrite f es = some a := by
  obtain ⟨init, rfl⟩ := List.getLast?_eq_some_iff.mp hlast
  rw [lastWrite_snoc, he, Option.some_or]

/-- **Last writer wins**: what a register holds after a word is its last write, or what it held
before when nothing was written. -/
theorem register_foldl {next : σ → ε → σ} {read : σ → α} {f : ε → Option α}
    (hread : ∀ s e, read (next s e) = (f e).getD (read s)) (es : List ε) (s : σ) :
    read (es.foldl next s) = (lastWrite f es).getD (read s) := by
  induction es generalizing s with
  | nil => rfl
  | cons e es ih =>
    rw [List.foldl_cons, ih (next s e), hread, lastWrite_cons]
    rcases lastWrite f es with - | a <;> rfl

end Foundations
