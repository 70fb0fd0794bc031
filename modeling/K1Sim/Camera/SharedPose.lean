import K1Sim.Foundations.CriticalSection
import K1Sim.Shared.HeadPose
import Mathlib.Data.Fin.VecNotation
import Mathlib.Data.List.FinRange
import Mathlib.Tactic.FinCases

/-!
# Camera/SharedPose — the head-pose segment and its readers

`SharedPoseWriter::publish` stores a pose number by number and counts it, under the mutex in the
segment; a reader takes the same mutex and loads what it likes, in any order.  `copies_whole`: what
a reader loads under one hold of the mutex is the pose published last, with its number; and
`published_of_free`: a pose is published once the render thread has the mutex.
-/

namespace K1Sim

open Foundations

/-- A place of the pose in the header. -/
inductive PosePlace where
  | position (i : Fin 3)
  | orientation (i : Fin 4)

/-- `SharedPoseHeader`, without its mutex and its condition.  The orientation is `x y z w`. -/
structure SharedPose (K : Type*) [Zero K] [One K] where
  magic : UInt32 := 0x4E42504F
  version : UInt32 := 1
  sequence : UInt64 := 0
  position : Fin 3 → K := ![0, 0, 0]
  orientation : Fin 4 → K := ![0, 0, 0, 1]

/-- The arguments of a call of `publish`. -/
structure PoseCall (K : Type*) where
  position : Fin 3 → K
  orientation : Fin 4 → K

/-- What the render thread publishes of a head pose: the quaternion goes from `w x y z` to
`x y z w`. -/
def PoseCall.ofHeadPose {K : Type*} (p : HeadPose K) : PoseCall K where
  position := ![p.position.x, p.position.y, p.position.z]
  orientation := ![p.quat.x, p.quat.y, p.quat.z, p.quat.w]

/-- What a call has at a place. -/
def PoseCall.value {K : Type*} (c : PoseCall K) : PosePlace → K
  | .position i => c.position i
  | .orientation i => c.orientation i

/-- What a reader loads: the sequence number, or a place. -/
inductive PoseField where
  | sequence
  | place (p : PosePlace)

/-- What it has loaded. -/
inductive PoseSeen (K : Type*) where
  | sequence (v : UInt64)
  | place (p : PosePlace) (x : K)

/-- The `k`-th call of `publish` and a reader's critical section. -/
inductive PoseOp where
  | publish (k : ℕ)
  | copy (fields : List PoseField)

/-- The local variables of the two: the register that `++sequence` goes through, and what a reader
has loaded. -/
structure PoseLocals (K : Type*) where
  register : UInt64 := 0
  seen : List (PoseSeen K) := []

/-- What happens: a call returns, a reader lets go of the mutex. -/
inductive PoseShown (K : Type*) where
  | published (k : ℕ)
  | copied (seen : List (PoseSeen K))

namespace SharedPose

variable {K : Type*} [Zero K] [One K]

/-- What the header holds at a place. -/
def read (h : SharedPose K) : PosePlace → K
  | .position i => h.position i
  | .orientation i => h.orientation i

/-- The loops of `publish`, and its count. -/
def publish (c : PoseCall K) :
    List (SharedPose K × PoseLocals K → SharedPose K × PoseLocals K) :=
  (List.finRange 3).map (fun i x =>
      ({ x.1 with position := Function.update x.1.position i (c.position i) }, x.2))
    ++ (List.finRange 4).map (fun i x =>
      ({ x.1 with orientation := Function.update x.1.orientation i (c.orientation i) }, x.2))
    ++ [fun x => (x.1, { x.2 with register := x.1.sequence }),
      fun x => ({ x.1 with sequence := x.2.register + 1 }, x.2)]

/-- What a load finds. -/
def see (h : SharedPose K) : PoseField → PoseSeen K
  | .sequence => .sequence h.sequence
  | .place p => .place p (h.read p)

/-- A reader's loads. -/
def copy (fields : List PoseField) :
    List (SharedPose K × PoseLocals K → SharedPose K × PoseLocals K) :=
  fields.map fun f x => (x.1, { x.2 with seen := x.2.seen ++ [x.1.see f] })

/-- The segment with its mutex, the render thread making the calls `poses` in turn. -/
def segment (poses : List (PoseCall K)) :
    Guarded (SharedPose K) ℕ PoseOp Empty (PoseLocals K) (PoseShown K) where
  ready
    | done, .publish k => done = k ∧ k < poses.length
    | _, .copy _ => true
  locals _ := {}
  accesses
    | .publish k => match poses[k]? with
      | some c => publish c
      | none => []
    | .copy fields => copy fields
  finish
    | done, .publish _, _ => done + 1
    | done, .copy _, _ => done
  shows
    | _, .publish k, _ => some (.published k)
    | _, .copy _, l => some (.copied l.seen)
  move _ f := f.elim
  moveShows _ f := f.elim
  waits _ f := f.elim
  ready_move _ _ f := f.elim

/-! ## What a reader should see -/

/-- What the segment holds once `n` poses are published: the last of them, or what it is
constructed with. -/
def latest (poses : List (PoseCall K)) : ℕ → PosePlace → K
  | 0 => ({} : SharedPose K).read
  | n + 1 => match poses[n]? with
    | some c => c.value
    | none => fun _ => 0

/-- The number of poses published, or their last. -/
def PoseSeen.OfVersion (poses : List (PoseCall K)) (n : ℕ) : PoseSeen K → Prop
  | .sequence v => v.toNat = n
  | .place p x => x = latest poses n p

/-- **A history that tells the truth**, `n` poses having been published before: the calls return in
turn, and a reader has loaded the pose of the last one and its number. -/
def Truthful (poses : List (PoseCall K)) : ℕ → List (PoseShown K) → Prop
  | _, [] => True
  | n, .published k :: rest => k = n ∧ Truthful poses (n + 1) rest
  | n, .copied seen :: rest =>
    (∀ x ∈ seen, PoseSeen.OfVersion poses n x) ∧ Truthful poses n rest

/-! ## The operations run whole -/

/-- **A call, store by store, puts its pose in place and counts it.** -/
theorem perform_publish (c : PoseCall K) (h : SharedPose K) (l : PoseLocals K) :
    (Guarded.perform (publish c) (h, l)).1
      = { h with
          sequence := h.sequence + 1
          position := c.position
          orientation := c.orientation } := by
  have hposition : Function.update (Function.update (Function.update h.position 0 (c.position 0))
      1 (c.position 1)) 2 (c.position 2) = c.position := by
    funext i
    fin_cases i <;> rfl
  have horientation : Function.update (Function.update (Function.update (Function.update
      h.orientation 0 (c.orientation 0)) 1 (c.orientation 1)) 2 (c.orientation 2)) 3
      (c.orientation 3) = c.orientation := by
    funext i
    fin_cases i <;> rfl
  rw [← hposition, ← horientation]
  rfl

theorem perform_copy (fields : List PoseField) (h : SharedPose K) (l : PoseLocals K) :
    Guarded.perform (copy fields) (h, l)
      = (h, { l with seen := l.seen ++ fields.map h.see }) := by
  induction fields generalizing l with
  | nil => simp [copy, Guarded.perform]
  | cons f fields ih =>
    refine (ih { l with seen := l.seen ++ [h.see f] }).trans ?_
    rw [List.append_assoc, List.map_cons]
    rfl

/-- The segment holds the pose published last, and its number. -/
structure Holds (poses : List (PoseCall K)) (h : SharedPose K) (n : ℕ) : Prop where
  le : n ≤ poses.length
  sequence : h.sequence.toNat = n
  read : h.read = latest poses n

variable {poses : List (PoseCall K)}

/-- What is loaded of such a segment is of that version. -/
theorem Holds.see {h : SharedPose K} {n : ℕ} (hholds : Holds poses h n) (f : PoseField) :
    PoseSeen.OfVersion poses n (h.see f) := by
  cases f with
  | sequence => exact hholds.sequence
  | place p => exact congrFun hholds.read p

/-- **The next call leaves the next version.** -/
theorem Holds.publish (hfew : poses.length < 2 ^ 64) {h : SharedPose K} {n : ℕ}
    (hholds : Holds poses h n) {c : PoseCall K} (hc : poses[n]? = some c) (l : PoseLocals K) :
    Holds poses (Guarded.perform (SharedPose.publish c) (h, l)).1 (n + 1) := by
  obtain ⟨hlt, -⟩ := List.getElem?_eq_some_iff.mp hc
  rw [perform_publish]
  refine ⟨hlt, ?_, ?_⟩
  · have hnowrap : h.sequence.toNat + 1 < 2 ^ 64 := by
      rw [hholds.sequence]
      omega
    change (h.sequence + 1).toNat = n + 1
    rw [UInt64.toNat_add, hholds.sequence]
    rw [hholds.sequence] at hnowrap
    exact Nat.mod_eq_of_lt hnowrap
  · funext p
    simp only [latest, hc]
    cases p <;> rfl

/-- A reader's turn, run whole. -/
theorem trace_copy (fields : List PoseField) (h : SharedPose K) (n : ℕ)
    (os : List (PoseOp ⊕ Empty)) :
    (segment poses).atomic.trace (h, n) (.inl (.copy fields) :: os)
      = .copied (fields.map h.see) :: (segment poses).atomic.trace (h, n) os := by
  have hwhole : (segment poses).whole (.copy fields) h = (h, { seen := fields.map h.see }) :=
    perform_copy fields h {}
  rw [Machine.trace_cons]
  simp only [Guarded.atomic, hwhole]
  rfl

/-- A call that comes next, run whole. -/
theorem trace_publish {n : ℕ} {c : PoseCall K} (hc : poses[n]? = some c) (h : SharedPose K)
    (os : List (PoseOp ⊕ Empty)) :
    (segment poses).atomic.trace (h, n) (.inl (.publish n) :: os)
      = .published n :: (segment poses).atomic.trace
        ((Guarded.perform (SharedPose.publish c) (h, {})).1, n + 1) os := by
  obtain ⟨hlt, -⟩ := List.getElem?_eq_some_iff.mp hc
  have hready : (segment poses).ready n (.publish n) = true := decide_eq_true ⟨rfl, hlt⟩
  have hwhole : (segment poses).whole (.publish n) h
      = Guarded.perform (SharedPose.publish c) (h, {}) := by
    change Guarded.perform
      (match poses[n]? with | some c => SharedPose.publish c | none => []) _ = _
    rw [hc]
    rfl
  rw [Machine.trace_cons]
  simp only [Guarded.atomic, hready, hwhole]
  rfl

/-- A call that is not next does not come. -/
theorem trace_publish_of_not {n k : ℕ} (hk : ¬ (n = k ∧ k < poses.length)) (h : SharedPose K)
    (os : List (PoseOp ⊕ Empty)) :
    (segment poses).atomic.trace (h, n) (.inl (.publish k) :: os)
      = (segment poses).atomic.trace (h, n) os := by
  have hready : (segment poses).ready n (.publish k) = false := decide_eq_false hk
  rw [Machine.trace_cons]
  simp only [Guarded.atomic, hready]
  rfl

/-- **Whole operations tell the truth.** -/
theorem truthful_atomic (hfew : poses.length < 2 ^ 64) (os : List (PoseOp ⊕ Empty))
    {h : SharedPose K} {n : ℕ} (hholds : Holds poses h n) :
    Truthful poses n ((segment poses).atomic.trace (h, n) os) := by
  induction os generalizing h n with
  | nil => trivial
  | cons o os ih =>
    match o with
    | .inl (.copy fields) =>
      rw [trace_copy]
      refine ⟨fun x hx => ?_, ih hholds⟩
      obtain ⟨f, -, rfl⟩ := List.mem_map.mp hx
      exact hholds.see f
    | .inl (.publish k) =>
      by_cases hk : n = k ∧ k < poses.length
      · obtain ⟨rfl, hlt⟩ := hk
        have hc := List.getElem?_eq_getElem hlt
        rw [trace_publish hc]
        exact ⟨rfl, ih (hholds.publish hfew hc {})⟩
      · rw [trace_publish_of_not hk]
        exact ih hholds

/-- **A reader never sees half a pose**: in every interleaving of the stores of `publish` with the
loads of the readers, what is loaded under one hold of the mutex is the pose published last and its
number. -/
theorem copies_whole (hfew : poses.length < 2 ^ 64) (es : List (LockStep PoseOp Empty)) :
    Truthful poses 0 ((segment poses).interleaved.trace ⟨{}, 0, none⟩ es) := by
  obtain ⟨-, htrace⟩ := Guarded.interleaved_refines es
    (Guarded.linearized_of_free (G := segment poses) {} 0)
  rw [← htrace]
  exact truthful_atomic hfew _ ⟨Nat.zero_le _, rfl, rfl⟩

/-! ## Publication -/

/-- An operation leaves the next version, or the one that it found. -/
theorem Holds.next (hfew : poses.length < 2 ^ 64) {s : SharedPose K × ℕ}
    (hholds : Holds poses s.1 s.2) (o : PoseOp ⊕ Empty) :
    Holds poses ((segment poses).atomic.next s o).1 ((segment poses).atomic.next s o).2 := by
  obtain ⟨h, n⟩ := s
  match o with
  | .inl (.copy fields) =>
    have hwhole : ((segment poses).whole (.copy fields) h).1 = h :=
      congrArg Prod.fst (perform_copy fields h {})
    change Holds poses ((segment poses).whole (.copy fields) h).1 n
    rw [hwhole]
    exact hholds
  | .inl (.publish k) =>
    by_cases hk : n = k ∧ k < poses.length
    · obtain ⟨rfl, hlt⟩ := hk
      have hc := List.getElem?_eq_getElem hlt
      have hready : (segment poses).ready n (.publish n) = true := decide_eq_true ⟨rfl, hlt⟩
      have haccesses : (segment poses).accesses (.publish n) = SharedPose.publish poses[n] := by
        change (match poses[n]? with | some c => SharedPose.publish c | none => []) = _
        rw [hc]
      simp only [Guarded.atomic, hready, Guarded.whole, haccesses, if_true]
      exact hholds.publish hfew hc {}
    · have hready : (segment poses).ready n (.publish k) = false := decide_eq_false hk
      simp only [Guarded.atomic, hready]
      exact hholds

/-- Whenever nobody holds the mutex the segment holds the pose published last. -/
theorem holds_of_free (hfew : poses.length < 2 ^ 64) (es : List (LockStep PoseOp Empty))
    (hfree : ((segment poses).interleaved.run ⟨{}, 0, none⟩ es).holder = none) :
    Holds poses ((segment poses).interleaved.run ⟨{}, 0, none⟩ es).shared
      ((segment poses).interleaved.run ⟨{}, 0, none⟩ es).rest := by
  obtain ⟨hlinear, -⟩ := Guarded.interleaved_refines es
    (Guarded.linearized_of_free (G := segment poses) {} 0)
  have hatomic := (segment poses).atomic.run_induction (P := fun s => Holds poses s.1 s.2)
    (fun s o hs => hs.next hfew o)
    ((segment poses).linearization ⟨{}, 0, none⟩ es) ({}, 0) ⟨Nat.zero_le _, rfl, rfl⟩
  rwa [hlinear.eq_of_free hfree] at hatomic

/-- **The next pose is published** once the render thread has the mutex, whoever else asks for it
meanwhile: the segment then holds that pose and its number. -/
theorem published_of_free (hfew : poses.length < 2 ^ 64) (before : List (LockStep PoseOp Empty))
    {n : ℕ} {c : PoseCall K} (hc : poses[n]? = some c) {es : List (LockStep PoseOp Empty)}
    (hes : ∀ e ∈ es, e.Keeps) (hcount : 9 ≤ es.countP LockStep.isAccess) :
    let s := (segment poses).interleaved.run ⟨{}, 0, none⟩ before
    let s' := (segment poses).interleaved.run s (.acquire (.publish n) :: es ++ [.release])
    s.holder = none → s.rest = n →
      s'.holder = none ∧ s'.rest = n + 1 ∧ s'.shared.sequence.toNat = n + 1
        ∧ s'.shared.read = c.value := by
  intro s s' hfree hrest
  obtain ⟨hlt, -⟩ := List.getElem?_eq_some_iff.mp hc
  have hready : (segment poses).ready s.rest (.publish n) = true :=
    decide_eq_true ⟨hrest, hlt⟩
  have hlength : ((segment poses).accesses (.publish n)).length = 9 := by
    change (match poses[n]? with | some c => SharedPose.publish c | none => []).length = 9
    rw [hc]
    rfl
  obtain ⟨hrun, -⟩ := Guarded.run_of_acquire hfree hready hes (hlength ▸ hcount)
  have hfree' : s'.holder = none := congrArg Locked.holder hrun
  have hrest' : s'.rest = n + 1 := by
    rw [← hrest]
    exact congrArg Locked.rest hrun
  have hall : s' = (segment poses).interleaved.run ⟨{}, 0, none⟩
      (before ++ (.acquire (.publish n) :: es ++ [.release])) :=
    ((segment poses).interleaved.run_append _ _ _).symm
  have hholds : Holds poses s'.shared s'.rest := by
    rw [hall] at hfree' ⊢
    exact holds_of_free hfew _ hfree'
  rw [hrest'] at hholds
  refine ⟨hfree', hrest', hholds.sequence, hholds.read.trans ?_⟩
  funext p
  simp only [latest, hc]

end SharedPose

end K1Sim
