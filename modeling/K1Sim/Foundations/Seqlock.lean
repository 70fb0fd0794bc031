import Mathlib.Logic.Function.Basic
import Mathlib.Logic.Relation
import Mathlib.Tactic.Ring

/-!
# Foundations/Seqlock — one writer, a sequence counter and readers without a lock

The writer makes the counter odd, stores a version place by place and makes the counter even; it
does so for version `1`, version `2` and so on.  The counter only grows and an even counter means a
whole version, so what a reader finds between two reads of one even counter is of one version
(`mem_eq_of_between`).
-/

namespace Foundations

/-- The counter and the places that it guards. -/
structure Seqlock (L V : Type*) where
  seq : ℕ
  mem : L → V

namespace Seqlock

variable {L V : Type*} [DecidableEq L] (version : ℕ → L → V)

/-- The writer's steps. -/
inductive Step : Seqlock L V → Seqlock L V → Prop where
  | start (n : ℕ) (mem : L → V) : Step ⟨2 * n, mem⟩ ⟨2 * n + 1, mem⟩
  | store (n : ℕ) (mem : L → V) (l : L) :
    Step ⟨2 * n + 1, mem⟩ ⟨2 * n + 1, Function.update mem l (version (n + 1) l)⟩
  | finish (n : ℕ) : Step ⟨2 * n + 1, version (n + 1)⟩ ⟨2 * (n + 1), version (n + 1)⟩

/-- An even counter, once a version is published, means that version. -/
def Whole (s : Seqlock L V) : Prop := ∀ k, 0 < k → s.seq = 2 * k → s.mem = version k

variable {version}

/-- The counter only grows. -/
theorem Step.seq_le {s t : Seqlock L V} (h : Step version s t) : s.seq ≤ t.seq := by
  cases h <;> dsimp only <;> omega

theorem Step.whole {s t : Seqlock L V} (h : Step version s t) (hs : Whole version s) :
    Whole version t := by
  intro k hk hseq
  cases h with
  | start n mem =>
    dsimp only at hseq
    omega
  | store n mem l =>
    dsimp only at hseq
    omega
  | finish n =>
    obtain rfl : n + 1 = k := Nat.eq_of_mul_eq_mul_left two_pos hseq
    rfl

theorem seq_le_of_steps {s t : Seqlock L V} (h : Relation.ReflTransGen (Step version) s t) :
    s.seq ≤ t.seq := by
  induction h with
  | refl => exact le_rfl
  | tail _ hstep ih => exact ih.trans hstep.seq_le

theorem whole_of_steps {s t : Seqlock L V} (h : Relation.ReflTransGen (Step version) s t)
    (hs : Whole version s) : Whole version t := by
  induction h with
  | refl => exact hs
  | tail _ hstep ih => exact hstep.whole ih

/-- **Nothing torn between two reads of one even counter.** -/
theorem mem_eq_of_between {s t u : Seqlock L V} (hs : Whole version s)
    (hst : Relation.ReflTransGen (Step version) s t)
    (htu : Relation.ReflTransGen (Step version) t u) {k : ℕ} (hk : 0 < k)
    (hfirst : s.seq = 2 * k) (hsecond : u.seq = 2 * k) : t.mem = version k := by
  have hlow := seq_le_of_steps hst
  have hhigh := seq_le_of_steps htu
  exact whole_of_steps hst hs k hk (by omega)

end Seqlock

end Foundations
