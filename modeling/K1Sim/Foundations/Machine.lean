import Mathlib.Data.List.Basic
import Mathlib.Data.List.Chain
import Mathlib.Data.List.Forall2
import Mathlib.Logic.Basic

/-!
# Foundations/Machine — deterministic machines driven by a word of inputs

A `Machine` reads a word of inputs letter by letter; some letters show an output.  What is proved
about a run is always one of five things, each with its rule here:

* a state predicate kept by every letter (`run_induction`);
* a property of every letter read, `Always`, traded for an equivalent one along a run whose states
  carry an invariant only as long as the property has held (`always_iff_always`);
* two words that differ in hidden letters only (`run_rel_of_view_eq`) and what they show afterwards
  (`trace_map_eq_of_rel`);
* a word and the same word with extra letters inserted (`trace_eq_of_inserted`);
* a word and what it stands for in another machine (`refines`).
-/

namespace Foundations

/-- A deterministic machine: an input moves the state and may show an output. -/
structure Machine (σ ε ο : Type*) where
  next : σ → ε → σ
  out : σ → ε → Option ο

namespace Machine

variable {σ ε ο γ : Type*} (M : Machine σ ε ο)

/-- The state a word leads to. -/
def run (s : σ) (es : List ε) : σ := es.foldl M.next s

/-- The outputs a word shows, in order. -/
def trace : σ → List ε → List ο
  | _, [] => []
  | s, e :: es => (M.out s e).toList ++ trace (M.next s e) es

@[simp] theorem run_nil (s : σ) : M.run s [] = s := rfl

@[simp] theorem run_cons (s : σ) (e : ε) (es : List ε) :
    M.run s (e :: es) = M.run (M.next s e) es := rfl

theorem run_append (s : σ) (es fs : List ε) : M.run s (es ++ fs) = M.run (M.run s es) fs :=
  List.foldl_append

/-- A letter that leaves a state alone does so however often it is read. -/
theorem run_replicate {s : σ} {e : ε} (h : M.next s e = s) (n : ℕ) :
    M.run s (List.replicate n e) = s := by
  induction n with
  | zero => rfl
  | succ n ih => rw [List.replicate_succ, run_cons, h, ih]

@[simp] theorem trace_nil (s : σ) : M.trace s [] = [] := rfl

@[simp] theorem trace_cons (s : σ) (e : ε) (es : List ε) :
    M.trace s (e :: es) = (M.out s e).toList ++ M.trace (M.next s e) es := rfl

theorem trace_append (s : σ) (es fs : List ε) :
    M.trace s (es ++ fs) = M.trace s es ++ M.trace (M.run s es) fs := by
  induction es generalizing s with
  | nil => rfl
  | cons e es ih =>
    rw [List.cons_append, trace_cons, trace_cons, run_cons, ih (M.next s e), List.append_assoc]

/-- What a trace shows was shown by a letter, at the state that the letters before it lead to. -/
theorem exists_of_mem_trace {s : σ} {es : List ε} {o : ο} (h : o ∈ M.trace s es) :
    ∃ pre e post, es = pre ++ e :: post ∧ M.out (M.run s pre) e = some o := by
  induction es generalizing s with
  | nil => exact absurd h List.not_mem_nil
  | cons e es ih =>
    rcases List.mem_append.mp h with hfirst | hrest
    · exact ⟨[], e, es, rfl, Option.mem_toList.mp hfirst⟩
    · obtain ⟨pre, f, post, rfl, hout⟩ := ih hrest
      exact ⟨e :: pre, f, post, rfl, hout⟩

/-! ## Invariants of a run -/

/-- **Inductive invariance**, over the words whose letters are all allowed. -/
theorem run_induction_of {P : σ → Prop} {A : ε → Prop}
    (hstep : ∀ s e, A e → P s → P (M.next s e)) (es : List ε) (s : σ) (hok : ∀ e ∈ es, A e)
    (hs : P s) : P (M.run s es) := by
  induction es generalizing s with
  | nil => exact hs
  | cons e es ih =>
    obtain ⟨hfirst, hrest⟩ := List.forall_mem_cons.mp hok
    exact ih (M.next s e) hrest (hstep s e hfirst hs)

/-- **Inductive invariance.** -/
theorem run_induction {P : σ → Prop} (hstep : ∀ s e, P s → P (M.next s e)) (es : List ε) (s : σ)
    (hs : P s) : P (M.run s es) :=
  M.run_induction_of (A := fun _ => True) (fun s e _ => hstep s e) es s (fun _ _ => trivial) hs

/-- `P` holds of every state a word passes through, together with the letter read there. -/
def Always (P : σ → ε → Prop) : σ → List ε → Prop
  | _, [] => True
  | s, e :: es => P s e ∧ Always P (M.next s e) es

@[simp] theorem always_nil (P : σ → ε → Prop) (s : σ) : M.Always P s [] := trivial

@[simp] theorem always_cons (P : σ → ε → Prop) (s : σ) (e : ε) (es : List ε) :
    M.Always P s (e :: es) ↔ P s e ∧ M.Always P (M.next s e) es := Iff.rfl

theorem always_append (P : σ → ε → Prop) (s : σ) (es fs : List ε) :
    M.Always P s (es ++ fs) ↔ M.Always P s es ∧ M.Always P (M.run s es) fs := by
  induction es generalizing s with
  | nil => simp
  | cons e es ih => rw [List.cons_append, always_cons, always_cons, run_cons, ih, and_assoc]

/-- An invariant need survive only the letters at which a property of the run holds. -/
theorem run_induction_always {P : σ → Prop} {E : σ → ε → Prop}
    (hstep : ∀ s e, E s e → P s → P (M.next s e)) (es : List ε) (s : σ) (hE : M.Always E s es)
    (hs : P s) : P (M.run s es) := by
  induction es generalizing s with
  | nil => exact hs
  | cons e es ih => exact ih (M.next s e) hE.2 (hstep s e hE.1 hs)

instance decidableAlways {P : σ → ε → Prop} [∀ s e, Decidable (P s e)] :
    (s : σ) → (es : List ε) → Decidable (M.Always P s es)
  | _, [] => .isTrue trivial
  | s, e :: es => @instDecidableAnd _ _ _ (decidableAlways (M.next s e) es)

theorem always_and {P Q : σ → ε → Prop} (s : σ) (es : List ε) :
    M.Always (fun s e => P s e ∧ Q s e) s es ↔ M.Always P s es ∧ M.Always Q s es := by
  induction es generalizing s with
  | nil => simp
  | cons e es ih =>
    rw [always_cons, always_cons, always_cons, ih]
    exact and_and_and_comm

/-- A property that every invariant state grants holds along the run, if the invariant survives
the letters that are allowed. -/
theorem always_of_invariant_of {Inv : σ → Prop} {P : σ → ε → Prop} {A : ε → Prop}
    (hP : ∀ s e, Inv s → P s e) (hstep : ∀ s e, A e → Inv s → Inv (M.next s e)) (es : List ε)
    (s : σ) (hok : ∀ e ∈ es, A e) (hs : Inv s) : M.Always P s es := by
  induction es generalizing s with
  | nil => trivial
  | cons e es ih =>
    obtain ⟨hfirst, hrest⟩ := List.forall_mem_cons.mp hok
    exact ⟨hP s e hs, ih (M.next s e) hrest (hstep s e hfirst hs)⟩

/-- A property that every invariant state grants holds along the run. -/
theorem always_of_invariant {Inv : σ → Prop} {P : σ → ε → Prop}
    (hP : ∀ s e, Inv s → P s e) (hstep : ∀ s e, Inv s → Inv (M.next s e)) (es : List ε) (s : σ)
    (hs : Inv s) : M.Always P s es :=
  M.always_of_invariant_of (A := fun _ => True) hP (fun s e _ => hstep s e) es s
    (fun _ _ => trivial) hs

/-- **Trading one property of a run for another**, over the words whose letters are all allowed.
The two need agree only where the invariant holds, and the invariant need survive only the letters
at which the property holds: the first letter that breaks one breaks the other. -/
theorem always_iff_always_of {Inv : σ → Prop} {P Q : σ → ε → Prop} {A : ε → Prop}
    (hiff : ∀ s e, Inv s → (P s e ↔ Q s e))
    (hstep : ∀ s e, A e → Inv s → P s e → Inv (M.next s e)) (es : List ε) (s : σ)
    (hok : ∀ e ∈ es, A e) (hs : Inv s) : M.Always P s es ↔ M.Always Q s es := by
  induction es generalizing s with
  | nil => exact Iff.rfl
  | cons e es ih =>
    obtain ⟨hfirst, hrest⟩ := List.forall_mem_cons.mp hok
    rw [always_cons, always_cons, ← hiff s e hs]
    exact and_congr_right fun hp => ih (M.next s e) hrest (hstep s e hfirst hs hp)

/-- **Trading one property of a run for another.** -/
theorem always_iff_always {Inv : σ → Prop} {P Q : σ → ε → Prop}
    (hiff : ∀ s e, Inv s → (P s e ↔ Q s e))
    (hstep : ∀ s e, Inv s → P s e → Inv (M.next s e)) (es : List ε) (s : σ) (hs : Inv s) :
    M.Always P s es ↔ M.Always Q s es :=
  M.always_iff_always_of (A := fun _ => True) hiff (fun s e _ => hstep s e) es s
    (fun _ _ => trivial) hs

/-! ## History variables -/

/-- The machine that also keeps a history variable, which no transition reads. -/
def withHistory (note : γ → σ → ε → γ) : Machine (σ × γ) ε ο where
  next s e := (M.next s.1 e, note s.2 s.1 e)
  out s e := M.out s.1 e

/-- A run goes the same way with a history variable beside it. -/
theorem fst_run_withHistory (note : γ → σ → ε → γ) (g : γ) (s : σ) (es : List ε) :
    ((M.withHistory note).run (s, g) es).1 = M.run s es := by
  induction es generalizing s g with
  | nil => rfl
  | cons e es ih => exact ih (note g s e) (M.next s e)

/-- A run shows the same with a history variable beside it. -/
theorem trace_withHistory (note : γ → σ → ε → γ) (g : γ) (s : σ) (es : List ε) :
    (M.withHistory note).trace (s, g) es = M.trace s es := by
  induction es generalizing s g with
  | nil => rfl
  | cons e es ih =>
    rw [trace_cons, trace_cons]
    exact congrArg _ (ih (note g s e) (M.next s e))

/-- A property that takes no notice of a history variable holds along a run whether or not the
variable is kept. -/
theorem always_withHistory (note : γ → σ → ε → γ) {P : σ → ε → Prop} (g : γ) (s : σ)
    (es : List ε) :
    (M.withHistory note).Always (fun p e => P p.1 e) (s, g) es ↔ M.Always P s es := by
  induction es generalizing s g with
  | nil => exact Iff.rfl
  | cons e es ih => exact and_congr_right fun _ => ih (note g s e) (M.next s e)

/-- The history variable of the output shown last. -/
def lastOut (last : Option ο) (s : σ) (e : ε) : Option ο := (M.out s e).or last

/-- **A trace is sorted exactly when each output follows on from the one shown last.** -/
theorem pairwise_trace_iff (R : ο → ο → Prop) [IsTrans ο R] (s : σ) (es : List ε) :
    (M.trace s es).Pairwise R ↔
      (M.withHistory M.lastOut).Always
        (fun p e => ∀ o ∈ M.out p.1 e, ∀ l ∈ p.2, R l o) (s, none) es := by
  suffices h : ∀ last : Option ο, (last.toList ++ M.trace s es).IsChain R ↔
      (M.withHistory M.lastOut).Always
        (fun p e => ∀ o ∈ M.out p.1 e, ∀ l ∈ p.2, R l o) (s, last) es from
    List.isChain_iff_pairwise.symm.trans (h none)
  intro last
  induction es generalizing s last with
  | nil => cases last <;> simp
  | cons e es ih =>
    have hrest := ih (M.next s e) (M.lastOut last s e)
    rw [always_cons, trace_cons]
    refine Iff.trans ?_ (and_congr_right' hrest)
    rcases hout : M.out s e with - | o
    case none => simp [lastOut, hout]
    case some => cases last <;> simp [lastOut, hout]

/-! ## Machines in series -/

/-- The machine whose outputs are read by another. -/
def feed {τ ω : Type*} (N : Machine τ ο ω) : Machine (σ × τ) ε ω where
  next s e := (M.next s.1 e, match M.out s.1 e with
    | none => s.2
    | some o => N.next s.2 o)
  out s e := (M.out s.1 e).bind (N.out s.2)

/-! ## Two runs -/

/-- **Lockstep.**  States related by a relation that every pair of like letters keeps, and at which
such a pair shows the same as far as `g` goes, show the same as far as `g` goes along like words. -/
theorem trace_map_eq_of_rel {ω : Type*} (g : ο → ω) {R : σ → σ → Prop} {E : ε → ε → Prop}
    (hout : ∀ s t e f, E e f → R s t → (M.out s e).map g = (M.out t f).map g)
    (hnext : ∀ s t e f, E e f → R s t → R (M.next s e) (M.next t f)) {es fs : List ε}
    (hlike : List.Forall₂ E es fs) {s t : σ} (h : R s t) :
    (M.trace s es).map g = (M.trace t fs).map g := by
  induction hlike generalizing s t with
  | nil => rfl
  | cons hef _ ih =>
    rw [trace_cons, trace_cons, List.map_append, List.map_append, ih (hnext s t _ _ hef h),
      ← Option.toList_map, ← Option.toList_map, hout s t _ _ hef h]

/-- **Unwinding.**  Letters with no view keep the relation on either side alone; letters with one
view keep it when both sides read them.  Then two words of one view lead related states to related
states. -/
theorem run_rel_of_view_eq {ν : Type*} (view : ε → Option ν) {R : σ → σ → Prop}
    (hleft : ∀ s t e, view e = none → R s t → R (M.next s e) t)
    (hright : ∀ s t e, view e = none → R s t → R s (M.next t e))
    (hboth : ∀ s t e f v, view e = some v → view f = some v → R s t → R (M.next s e) (M.next t f))
    (es fs : List ε) (s t : σ) (hview : es.filterMap view = fs.filterMap view) (h : R s t) :
    R (M.run s es) (M.run t fs) := by
  induction es generalizing fs s t with
  | nil =>
    -- what is left of the other word is hidden
    have hhidden : ∀ f ∈ fs, view f = none := List.filterMap_eq_nil_iff.mp hview.symm
    exact M.run_induction_of (P := R s) (fun t f hf ht => hright s t f hf ht) fs t hhidden h
  | cons e es ih =>
    rcases hv : view e with - | v
    case none =>
      rw [List.filterMap_cons_none hv] at hview
      exact ih fs (M.next s e) t hview (hleft s t e hv h)
    case some =>
      rw [List.filterMap_cons_some hv] at hview
      obtain ⟨hid, f, rest, rfl, hhid, hf, hrest⟩ := List.filterMap_eq_cons_iff.mp hview.symm
      have hR : R s (M.run t hid) :=
        M.run_induction_of (P := R s) (fun t f hf ht => hright s t f hf ht) hid t hhid h
      rw [run_append, run_cons, run_cons]
      exact ih rest _ _ hrest.symm (hboth s _ e f v hv hf hR)

/-! ## A word and the same word with letters inserted

A word with marked letters `Sum ε ε` names both: the letters on the left are common, those on the
right are inserted. -/

/-- The word without the inserted letters. -/
def base : List (ε ⊕ ε) → List ε := List.filterMap Sum.getLeft?

/-- The word with the inserted letters. -/
def full : List (ε ⊕ ε) → List ε := List.map (Sum.elim id id)

/-- Both words at once, on a pair of states: an inserted letter moves the second state alone. -/
def paired : Machine (σ × σ) (ε ⊕ ε) ο where
  next s e := (e.elim (M.next s.1) fun _ => s.1, e.elim (M.next s.2) (M.next s.2))
  out s e := e.elim (M.out s.2) (M.out s.2)

/-- **Harmless insertions.**  If inserted letters show nothing and the relation is kept wherever
the side condition `Q` holds, then a word and its extension by letters of a kind `A` show the same
along every run whose letters all meet `Q`. -/
theorem trace_eq_of_inserted {R : σ → σ → Prop} {A : ε → Prop} {Q : σ × σ → ε ⊕ ε → Prop}
    (hcommon : ∀ s t e, R s t → Q (s, t) (.inl e) →
      M.out s e = M.out t e ∧ R (M.next s e) (M.next t e))
    (hextra : ∀ s t e, A e → R s t → M.out t e = none ∧ R s (M.next t e)) (w : List (ε ⊕ ε))
    (s t : σ) (hA : ∀ e, .inr e ∈ w → A e) (h : R s t) (hQ : M.paired.Always Q (s, t) w) :
    M.trace s (base w) = M.trace t (full w) := by
  induction w generalizing s t with
  | nil => rfl
  | cons e w ih =>
    have hrest : ∀ a, .inr a ∈ w → A a := fun a ha => hA a (List.mem_cons_of_mem _ ha)
    rcases e with e | e
    · obtain ⟨hout, hR⟩ := hcommon s t e h hQ.1
      change (M.out s e).toList ++ M.trace (M.next s e) (base w)
        = (M.out t e).toList ++ M.trace (M.next t e) (full w)
      rw [hout, ih (M.next s e) (M.next t e) hrest hR hQ.2]
    · obtain ⟨hout, hR⟩ := hextra s t e (hA e List.mem_cons_self) h
      change M.trace s (base w) = (M.out t e).toList ++ M.trace (M.next t e) (full w)
      rw [hout, ih s (M.next t e) hrest hR hQ.2]
      rfl

/-! ## One machine behind another -/

/-- The word of another machine that a word stands for: some letters stand for a letter of it, the
others for nothing. -/
def word {κ : Type*} (letter : σ → ε → Option κ) : σ → List ε → List κ
  | _, [] => []
  | s, e :: es => (letter s e).toList ++ word letter (M.next s e) es

theorem word_cons_of_none {κ : Type*} {letter : σ → ε → Option κ} {s : σ} {e : ε}
    (h : letter s e = none) (es : List ε) :
    M.word letter s (e :: es) = M.word letter (M.next s e) es := by
  rw [word, h]
  rfl

theorem word_cons_of_some {κ : Type*} {letter : σ → ε → Option κ} {s : σ} {e : ε} {k : κ}
    (h : letter s e = some k) (es : List ε) :
    M.word letter s (e :: es) = k :: M.word letter (M.next s e) es := by
  rw [word, h]
  rfl

/-- A letter and what stands behind it: nothing, and then it shows nothing; or a letter that shows
the same and leads to states related again. -/
def StandsBehind {τ κ : Type*} (N : Machine τ κ ο) (R : σ → τ → Prop) (s : σ) (t : τ) (e : ε) :
    Option κ → Prop
  | none => M.out s e = none ∧ R (M.next s e) t
  | some k => N.out t k = M.out s e ∧ R (M.next s e) (N.next t k)

/-- **Refinement.**  If every letter has one machine's letter, or nothing, behind it, then a word
shows what the word behind it shows, and leads to a state related to where that one leads. -/
theorem refines {τ κ : Type*} {N : Machine τ κ ο} {R : σ → τ → Prop} {letter : σ → ε → Option κ}
    (h : ∀ s t e, R s t → M.StandsBehind N R s t e (letter s e)) (es : List ε) {s : σ} {t : τ}
    (hst : R s t) : R (M.run s es) (N.run t (M.word letter s es))
      ∧ N.trace t (M.word letter s es) = M.trace s es := by
  induction es generalizing s t with
  | nil => exact ⟨hst, rfl⟩
  | cons e es ih =>
    have hbehind := h s t e hst
    rcases hletter : letter s e with - | k
    case none =>
      rw [hletter] at hbehind
      obtain ⟨hout, hnext⟩ := hbehind
      rw [M.word_cons_of_none hletter, run_cons, trace_cons, hout]
      exact ih hnext
    case some =>
      rw [hletter] at hbehind
      obtain ⟨hout, hnext⟩ := hbehind
      obtain ⟨hrun, htrace⟩ := ih hnext
      rw [M.word_cons_of_some hletter, run_cons, run_cons, trace_cons, trace_cons, hout, htrace]
      exact ⟨hrun, rfl⟩

end Machine

end Foundations
