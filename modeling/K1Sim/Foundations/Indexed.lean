import Mathlib.Data.List.Basic

/-!
# Foundations/Indexed — a pass over a list that tags what it yields by place

A pass that may yield something for each entry of a list, tagged by the entry's place, yields at
most once for each place; looking a place up finds what its own entry yielded.
-/

namespace Foundations

variable {α β : Type*}

/-- The results of a pass over the entries from place `k` on. -/
def taggedFrom (f : α → Option β) (l : List α) (k : ℕ) : List (ℕ × β) :=
  (l.zipIdx k).filterMap fun e => (f e.1).map (e.2, ·)

theorem taggedFrom_cons (f : α → Option β) (a : α) (l : List α) (k : ℕ) :
    taggedFrom f (a :: l) k = ((f a).map (k, ·)).toList ++ taggedFrom f l (k + 1) := by
  rw [taggedFrom, List.zipIdx_cons, List.filterMap_cons]
  rcases f a with - | b <;> rfl

/-- No result is tagged with a place before the first. -/
theorem lookup_taggedFrom_of_lt (f : α → Option β) (l : List α) {k j : ℕ} (h : j < k) :
    (taggedFrom f l k).lookup j = none := by
  induction l generalizing k with
  | nil => rfl
  | cons a l ih =>
    have hrest := ih (Nat.lt_succ_of_lt h)
    rw [taggedFrom_cons]
    rcases f a with - | b
    · exact hrest
    · have hne : (j == k) = false := beq_false_of_ne (Nat.ne_of_lt h)
      simpa [List.lookup_cons, hne] using hrest

/-- **Looking up a place** finds what its own entry yielded. -/
theorem lookup_taggedFrom (f : α → Option β) (l : List α) (k i : ℕ) :
    (taggedFrom f l k).lookup (k + i) = l[i]?.bind f := by
  induction l generalizing k i with
  | nil => rfl
  | cons a l ih =>
    rw [taggedFrom_cons]
    rcases i with - | i
    case zero =>
      rcases hf : f a with - | b
      · simpa [hf] using lookup_taggedFrom_of_lt f l k.lt_succ_self
      · simp [hf]
    case succ =>
      have hrest := ih (k + 1) i
      rw [show k + 1 + i = k + (i + 1) by omega] at hrest
      rcases f a with - | b
      · simpa using hrest
      · have hne : (k + (i + 1) == k) = false := beq_false_of_ne (by omega)
        simpa [List.lookup_cons, hne] using hrest

end Foundations
