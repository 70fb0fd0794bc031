import Mathlib.Data.List.Nodup
import Mathlib.Logic.Function.Basic

/-!
# Foundations/Writes — a loop of writes into an array

`writeAll` runs a loop that writes `val i` at position `idx i`, for the `i` of a list in turn.  A
position no iteration writes is untouched; when no two iterations write one position, each position
written ends up with its own value.
-/

namespace Foundations

variable {ι α : Type*}

/-- The array after writing `val i` at `idx i` for each `i` of the list, in order. -/
def writeAll (idx : ι → ℕ) (val : ι → α) (is : List ι) (a : ℕ → α) : ℕ → α :=
  is.foldl (fun a i => Function.update a (idx i) (val i)) a

theorem writeAll_cons (idx : ι → ℕ) (val : ι → α) (i : ι) (is : List ι) (a : ℕ → α) :
    writeAll idx val (i :: is) a
      = writeAll idx val is (Function.update a (idx i) (val i)) := rfl

/-- **A position no iteration writes is untouched.** -/
theorem writeAll_of_notMem (idx : ι → ℕ) (val : ι → α) {k : ℕ} (is : List ι) (a : ℕ → α)
    (h : ∀ i ∈ is, idx i ≠ k) : writeAll idx val is a k = a k := by
  induction is generalizing a with
  | nil => rfl
  | cons i is ih =>
    obtain ⟨hfirst, hrest⟩ := List.forall_mem_cons.mp h
    rw [writeAll_cons, ih _ hrest, Function.update_of_ne hfirst.symm]

/-- **A written position holds its own value**, when no two iterations write one position. -/
theorem writeAll_of_mem (idx : ι → ℕ) (val : ι → α) {i : ι} (is : List ι) (a : ℕ → α)
    (hnd : (is.map idx).Nodup) (hi : i ∈ is) : writeAll idx val is a (idx i) = val i := by
  induction is generalizing a with
  | nil => exact absurd hi List.not_mem_nil
  | cons j is ih =>
    rw [List.map_cons, List.nodup_cons] at hnd
    rw [writeAll_cons]
    rcases List.mem_cons.mp hi with rfl | hmem
    · have hother : ∀ j ∈ is, idx j ≠ idx i := by
        intro j hj heq
        exact hnd.1 (heq ▸ List.mem_map_of_mem hj)
      rw [writeAll_of_notMem idx val is _ hother, Function.update_self]
    · exact ih _ hnd.2 hmem

/-- **What one iteration establishes and no other destroys** holds after the loop. -/
theorem foldl_of_mem {σ : Type*} {f : σ → ι → σ} {P : σ → Prop} {i : ι} {is : List ι}
    (hset : ∀ s, P (f s i)) (hkeep : ∀ s, ∀ j ∈ is, P s → P (f s j)) (hi : i ∈ is) (s : σ) :
    P (is.foldl f s) := by
  have hrest (js : List ι) (hjs : ∀ j ∈ js, j ∈ is) (s : σ) (hs : P s) : P (js.foldl f s) := by
    induction js generalizing s with
    | nil => exact hs
    | cons j js ih =>
      obtain ⟨hj, hjs⟩ := List.forall_mem_cons.mp hjs
      exact ih hjs _ (hkeep s j hj hs)
  obtain ⟨before, after, rfl⟩ := List.append_of_mem hi
  rw [List.foldl_append, List.foldl_cons]
  refine hrest after (fun j hj => ?_) _ (hset _)
  exact List.mem_append_right before (List.mem_cons_of_mem i hj)

/-! ## A loop over two lists in step -/

variable {μ : Type*}

theorem map_fst_zip_sublist : ∀ (is : List ι) (ms : List μ),
    ((is.zip ms).map Prod.fst).Sublist is
  | [], _ => by simp
  | _ :: _, [] => by simp
  | i :: is, m :: ms => (map_fst_zip_sublist is ms).cons_cons i

/-- **A loop over two lists in step** writes, at the position of the `n`-th index, the value of the
`n`-th pair. -/
theorem writeAll_zip_of_getElem? (idx : ι → ℕ) (val : ι × μ → α) {is : List ι} {ms : List μ}
    {n : ℕ} {i : ι} {m : μ} (a : ℕ → α) (hnd : (is.map idx).Nodup) (hi : is[n]? = some i)
    (hm : ms[n]? = some m) :
    writeAll (fun p : ι × μ => idx p.1) val (is.zip ms) a (idx i) = val (i, m) := by
  have hmem : (i, m) ∈ is.zip ms :=
    List.mem_of_getElem? (List.getElem?_zip_eq_some.mpr ⟨hi, hm⟩)
  have hnd' : ((is.zip ms).map fun p => idx p.1).Nodup := by
    have h := ((map_fst_zip_sublist is ms).map idx).nodup hnd
    rwa [List.map_map] at h
  exact writeAll_of_mem (fun p : ι × μ => idx p.1) val _ a hnd' hmem

/-- **Positions past the shorter list are untouched.** -/
theorem writeAll_zip_of_getElem?_none (idx : ι → ℕ) (val : ι × μ → α) {is : List ι} {ms : List μ}
    {n : ℕ} {i : ι} (a : ℕ → α) (hnd : (is.map idx).Nodup) (hi : is[n]? = some i)
    (hm : ms[n]? = none) :
    writeAll (fun p : ι × μ => idx p.1) val (is.zip ms) a (idx i) = a (idx i) := by
  refine writeAll_of_notMem (fun p : ι × μ => idx p.1) val _ a fun p hp heq => ?_
  obtain ⟨k, hk⟩ := List.mem_iff_getElem?.mp hp
  obtain ⟨hki, hkm⟩ := List.getElem?_zip_eq_some.mp hk
  obtain ⟨hkl, hkval⟩ := List.getElem?_eq_some_iff.mp hki
  obtain ⟨hnl, hnval⟩ := List.getElem?_eq_some_iff.mp hi
  -- one index for two places of the list: the places are one
  have hkl' : k < (is.map idx).length := by simpa using hkl
  have hnl' : n < (is.map idx).length := by simpa using hnl
  have hsame : (is.map idx)[k] = (is.map idx)[n] := by
    simp only [List.getElem_map, hkval, hnval, heq]
  have hplace : k = n := hnd.getElem_inj_iff.mp hsame
  rw [hplace, hm] at hkm
  exact absurd hkm (by simp)

end Foundations
