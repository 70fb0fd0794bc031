import K1Sim.Foundations.Machine

/-!
# Foundations/CriticalSection — operations under one lock

A `Guarded` program has a part that a lock protects and a part that it does not.  An operation
holds the lock from its first access of the protected part to its last; a move takes no lock, does
not touch the protected part, and may fall between any two accesses.  `interleaved` runs the
program access by access, `atomic` runs an operation as one letter.

`interleaved_refines`: whatever the accesses and the moves do in between, a word shows what the
operations show when each is run whole where it releases the lock.  `run_of_acquire`: an operation
that has the lock comes off.
-/

namespace Foundations

variable {π υ ω φ ℓ ο : Type*}

/-- A program whose operations share one lock: the protected part `π`, the rest `υ`, the operations
`ω` with their local variables `ℓ`, and the moves `φ`. -/
structure Guarded (π υ ω φ ℓ ο : Type*) where
  /-- Some thread is about to ask for the lock for this operation. -/
  ready : υ → ω → Bool
  locals : ω → ℓ
  accesses : ω → List (π × ℓ → π × ℓ)
  /-- What the release leaves in the rest, from what the operation has read. -/
  finish : υ → ω → ℓ → υ
  shows : υ → ω → ℓ → Option ο
  move : υ → φ → υ
  moveShows : υ → φ → Option ο
  /-- The move is of the thread that runs the operation, or waits for it. -/
  waits : ω → φ → Bool
  ready_move : ∀ u o f, waits o f = false → ready u o = true → ready (move u f) o = true

/-- Who holds the lock: its operation, the local variables, and the accesses still to come. -/
structure Holder (π ω ℓ : Type*) where
  op : ω
  vars : ℓ
  left : List (π × ℓ → π × ℓ)

/-- The program with the lock in it. -/
structure Locked (π υ ω ℓ : Type*) where
  shared : π
  rest : υ
  holder : Option (Holder π ω ℓ) := none

/-- One thread's next step. -/
inductive LockStep (ω φ : Type*) where
  | acquire (o : ω)
  | access
  | release
  | move (f : φ)

/-- The thread that holds the lock does an access. -/
def LockStep.isAccess : LockStep ω φ → Bool
  | .access => true
  | _ => false

/-- A thread asks for the lock, or the one that holds it does an access. -/
def LockStep.Keeps : LockStep ω φ → Prop
  | .acquire _ | .access => True
  | .release | .move _ => False

namespace Guarded

variable (G : Guarded π υ ω φ ℓ ο)

/-- Accesses one after another. -/
def perform (fs : List (π × ℓ → π × ℓ)) (x : π × ℓ) : π × ℓ := fs.foldl (fun x f => f x) x

/-- An operation from beginning to end, with nothing in between. -/
def whole (o : ω) (p : π) : π × ℓ := perform (G.accesses o) (p, G.locals o)

/-- **Whole operations.** -/
def atomic : Machine (π × υ) (ω ⊕ φ) ο where
  next s
    | .inl o =>
      if G.ready s.2 o then ((G.whole o s.1).1, G.finish s.2 o (G.whole o s.1).2) else s
    | .inr f => (s.1, G.move s.2 f)
  out s
    | .inl o => if G.ready s.2 o then G.shows s.2 o (G.whole o s.1).2 else none
    | .inr f => G.moveShows s.2 f

/-- **Accesses of operations, and moves in between.**  A step that the lock forbids does nothing:
its thread is still waiting. -/
def interleaved : Machine (Locked π υ ω ℓ) (LockStep ω φ) ο where
  next s
    | .acquire o =>
      match s.holder with
      | none =>
        if G.ready s.rest o then { s with holder := some ⟨o, G.locals o, G.accesses o⟩ } else s
      | some _ => s
    | .access =>
      match s.holder with
      | some ⟨o, l, f :: fs⟩ =>
        { s with shared := (f (s.shared, l)).1, holder := some ⟨o, (f (s.shared, l)).2, fs⟩ }
      | _ => s
    | .release =>
      match s.holder with
      | some ⟨o, l, []⟩ => { s with rest := G.finish s.rest o l, holder := none }
      | _ => s
    | .move f =>
      match s.holder with
      | none => { s with rest := G.move s.rest f }
      | some h => if G.waits h.op f then s else { s with rest := G.move s.rest f }
  out s
    | .release =>
      match s.holder with
      | some ⟨o, l, []⟩ => G.shows s.rest o l
      | _ => none
    | .move f =>
      match s.holder with
      | none => G.moveShows s.rest f
      | some h => if G.waits h.op f then none else G.moveShows s.rest f
    | _ => none

/-- What a step stands for: a release for its whole operation, a move that need not wait for
itself. -/
def letter (s : Locked π υ ω ℓ) : LockStep ω φ → Option (ω ⊕ φ)
  | .release =>
    match s.holder with
    | some ⟨o, _, []⟩ => some (.inl o)
    | _ => none
  | .move f =>
    match s.holder with
    | none => some (.inr f)
    | some h => if G.waits h.op f then none else some (.inr f)
  | _ => none

/-- The whole operations behind a word, each where it released the lock, and the moves. -/
def linearization (s : Locked π υ ω ℓ) (es : List (LockStep ω φ)) : List (ω ⊕ φ) :=
  G.interleaved.word G.letter s es

/-- The protected part of the whole operations: as it was when the lock was taken, and what is left
to do there leads to where the whole operation leads. -/
def Pending (p : π) (s : Locked π υ ω ℓ) : Option (Holder π ω ℓ) → Prop
  | none => p = s.shared
  | some h => G.ready s.rest h.op = true ∧ perform h.left (s.shared, h.vars) = G.whole h.op p

/-- The two machines side by side. -/
def Linearized (s : Locked π υ ω ℓ) (t : π × υ) : Prop := t.2 = s.rest ∧ G.Pending t.1 s s.holder

variable {G}

theorem standsBehind_acquire {s : Locked π υ ω ℓ} {t : π × υ} (h : G.Linearized s t) (o : ω) :
    G.interleaved.StandsBehind G.atomic G.Linearized s t (.acquire o) none := by
  refine ⟨rfl, ?_⟩
  obtain ⟨p, u, holder⟩ := s
  obtain ⟨hrest, hpending⟩ := h
  cases holder with
  | some => exact ⟨hrest, hpending⟩
  | none =>
    by_cases hready : G.ready u o = true
    · simp only [interleaved, hready, if_true]
      obtain rfl : t.1 = p := hpending
      exact ⟨hrest, hready, rfl⟩
    · simp only [interleaved, hready, Bool.false_eq_true, if_false]
      exact ⟨hrest, hpending⟩

theorem standsBehind_access {s : Locked π υ ω ℓ} {t : π × υ} (h : G.Linearized s t) :
    G.interleaved.StandsBehind G.atomic G.Linearized s t .access none := by
  refine ⟨rfl, ?_⟩
  obtain ⟨p, u, holder⟩ := s
  match holder, h with
  | none, h => exact h
  | some ⟨o, l, []⟩, h => exact h
  | some ⟨o, l, f :: fs⟩, ⟨hrest, hready, hwhole⟩ => exact ⟨hrest, hready, hwhole⟩

theorem standsBehind_release {s : Locked π υ ω ℓ} {t : π × υ} (h : G.Linearized s t) :
    G.interleaved.StandsBehind G.atomic G.Linearized s t .release (G.letter s .release) := by
  obtain ⟨p, u, holder⟩ := s
  match holder, h with
  | none, h => exact ⟨rfl, h⟩
  | some ⟨o, l, f :: fs⟩, h => exact ⟨rfl, h⟩
  | some ⟨o, l, []⟩, ⟨hrest, hready, hwhole⟩ =>
    -- nothing is left to do, so the operation has done all of what it does whole
    have hdone : (p, l) = G.whole o t.1 := hwhole
    obtain ⟨q, v⟩ := t
    obtain rfl : v = u := hrest
    have hready : G.ready v o = true := hready
    simp only [Machine.StandsBehind, letter, atomic, interleaved, hready, if_true, ← hdone]
    exact ⟨trivial, rfl, rfl⟩

theorem standsBehind_move {s : Locked π υ ω ℓ} {t : π × υ} (h : G.Linearized s t) (f : φ) :
    G.interleaved.StandsBehind G.atomic G.Linearized s t (.move f) (G.letter s (.move f)) := by
  obtain ⟨p, u, holder⟩ := s
  obtain ⟨q, v⟩ := t
  obtain ⟨hrest, hpending⟩ := h
  obtain rfl : v = u := hrest
  cases holder with
  | none => exact ⟨rfl, rfl, hpending⟩
  | some h =>
    obtain ⟨hready, hwhole⟩ := hpending
    cases hwaits : G.waits h.op f with
    | true =>
      simp only [Machine.StandsBehind, letter, interleaved, hwaits, if_true]
      exact ⟨trivial, rfl, hready, hwhole⟩
    | false =>
      simp only [Machine.StandsBehind, letter, atomic, interleaved, hwaits, Bool.false_eq_true,
        if_false]
      exact ⟨trivial, rfl, G.ready_move v h.op f hwaits hready, hwhole⟩

/-- **Mutual exclusion makes operations whole.**  Every interleaving of accesses shows what its
operations, run whole in the order they released the lock, show among the same moves; and the two
stay side by side. -/
theorem interleaved_refines (es : List (LockStep ω φ)) {s : Locked π υ ω ℓ} {t : π × υ}
    (h : G.Linearized s t) :
    G.Linearized (G.interleaved.run s es) (G.atomic.run t (G.linearization s es))
      ∧ G.atomic.trace t (G.linearization s es) = G.interleaved.trace s es := by
  refine G.interleaved.refines (fun s t e h => ?_) es h
  cases e with
  | acquire o => exact standsBehind_acquire h o
  | access => exact standsBehind_access h
  | release => exact standsBehind_release h
  | move f => exact standsBehind_move h f

/-! ## Holding the lock -/

/-- A thread that holds the lock goes through its accesses, whoever else asks for the lock. -/
theorem run_of_holder {es : List (LockStep ω φ)} (hes : ∀ e ∈ es, e.Keeps) (p : π) (u : υ) (o : ω)
    (l : ℓ) (fs : List (π × ℓ → π × ℓ)) (hcount : fs.length ≤ es.countP LockStep.isAccess) :
    G.interleaved.run ⟨p, u, some ⟨o, l, fs⟩⟩ es
        = ⟨(perform fs (p, l)).1, u, some ⟨o, (perform fs (p, l)).2, []⟩⟩
      ∧ G.interleaved.trace ⟨p, u, some ⟨o, l, fs⟩⟩ es = [] := by
  induction es generalizing p l fs with
  | nil =>
    obtain rfl := List.length_eq_zero_iff.mp (Nat.le_zero.mp hcount)
    exact ⟨rfl, rfl⟩
  | cons e es ih =>
    obtain ⟨he, hrest⟩ := List.forall_mem_cons.mp hes
    cases e with
    | acquire o' =>
      rw [List.countP_cons_of_neg Bool.false_ne_true] at hcount
      exact ih hrest p l fs hcount
    | access =>
      rw [List.countP_cons_of_pos rfl] at hcount
      cases fs with
      | nil => exact ih hrest p l [] (Nat.zero_le _)
      | cons f fs => exact ih hrest _ _ fs (Nat.le_of_succ_le_succ hcount)
    | release => exact he.elim
    | move f => exact he.elim

/-- **An operation that takes the lock and is given its accesses comes off whole**, whoever else
asks for the lock meanwhile. -/
theorem run_of_acquire {s : Locked π υ ω ℓ} (hfree : s.holder = none) {o : ω}
    (hready : G.ready s.rest o = true) {es : List (LockStep ω φ)} (hes : ∀ e ∈ es, e.Keeps)
    (hcount : (G.accesses o).length ≤ es.countP LockStep.isAccess) :
    G.interleaved.run s (.acquire o :: es ++ [.release])
        = ⟨(G.whole o s.shared).1, G.finish s.rest o (G.whole o s.shared).2, none⟩
      ∧ G.interleaved.trace s (.acquire o :: es ++ [.release])
        = (G.shows s.rest o (G.whole o s.shared).2).toList := by
  obtain ⟨p, u, holder⟩ := s
  obtain rfl : holder = none := hfree
  have hacquire : G.interleaved.next ⟨p, u, none⟩ (.acquire o)
      = ⟨p, u, some ⟨o, G.locals o, G.accesses o⟩⟩ := if_pos hready
  obtain ⟨hrun, htrace⟩ := run_of_holder hes p u o (G.locals o) (G.accesses o) hcount
  rw [List.cons_append, Machine.run_cons, Machine.trace_cons, hacquire, Machine.run_append,
    Machine.trace_append, hrun, htrace]
  exact ⟨rfl, List.append_nil _⟩

/-- With the lock free the two machines are in one state. -/
theorem Linearized.eq_of_free {s : Locked π υ ω ℓ} {t : π × υ} (h : G.Linearized s t)
    (hfree : s.holder = none) : t = (s.shared, s.rest) := by
  obtain ⟨hrest, hpending⟩ := h
  rw [hfree] at hpending
  exact Prod.ext hpending hrest

theorem linearized_of_free (p : π) (u : υ) : G.Linearized ⟨p, u, none⟩ (p, u) := ⟨rfl, rfl⟩

end Guarded

end Foundations
