import K1Sim.Foundations.Machine
import K1Sim.Foundations.Seqlock
import Mathlib.Data.List.Perm.Basic

/-!
# Camera/SharedImage — the image segment and an observer of it

`SharedImageWriter::publish` is the list of its stores, one atomic store after the other; an
observer loads from the segment at any time in between.  Seen as a counter and the places it guards,
the segment is a seqlock whose versions are the frames of the right size (`step_of_writer`), so no
frame is seen torn (`frames_never_torn`), and every frame gets there (`published`).
-/

namespace K1Sim

open Foundations

/-- The intrinsics in the header. -/
inductive Intrinsic where
  | focalLength | fov | centreX | centreY | k1 | k2
  deriving DecidableEq

/-- `SharedImageHeader` and the pixels after it.  `F` is `float`. -/
structure SharedImage (F : Type*) where
  magic : UInt32 := 0x4E42494D
  version : UInt32 := 2
  seqlock : UInt64 := 0
  dataSize : UInt32 := 0
  width : UInt32 := 0
  height : UInt32 := 0
  encoding : String := ""
  intrinsics : Intrinsic → F
  pixels : ℕ → UInt8

/-- An atomic store to the segment. -/
inductive Store (F : Type*) where
  | seqlock (v : UInt64)
  | pixel (i : ℕ) (b : UInt8)
  | intrinsic (j : Intrinsic) (x : F)

/-- A call of `publish`, and the order that `std::memcpy` stores the bytes in. -/
structure PublishCall (F : Type*) where
  rgb : ℕ → UInt8
  rgbSize : ℕ
  focalLength : F
  fov : F
  centreX : F
  centreY : F
  order : List ℕ
  order_perm : order.Perm (List.range rgbSize)

namespace SharedImage

variable {F : Type*}

/-- `SharedImageWriter`: the segment on construction. -/
def create [Zero F] (width height : ℤ) : Except String (SharedImage F) :=
  if width ≤ 0 ∨ height ≤ 0 then
    .error "SharedImageWriter: width/height must be positive"
  else
    .ok
      { dataSize := UInt32.ofNat (width.toNat * height.toNat * 3)
        width := UInt32.ofNat width.toNat
        height := UInt32.ofNat height.toNat
        encoding := "rgb8"
        intrinsics := fun _ => 0
        pixels := fun _ => 0 }

/-- A store done. -/
def apply (seg : SharedImage F) : Store F → SharedImage F
  | .seqlock v => { seg with seqlock := v }
  | .pixel i b => { seg with pixels := Function.update seg.pixels i b }
  | .intrinsic j x => { seg with intrinsics := Function.update seg.intrinsics j x }

end SharedImage

namespace PublishCall

variable {F : Type*} [Zero F] (c : PublishCall F)

/-- What a call writes into the intrinsics. -/
def intrinsics : Intrinsic → F
  | .focalLength => c.focalLength
  | .fov => c.fov
  | .centreX => c.centreX
  | .centreY => c.centreY
  | .k1 => 0
  | .k2 => 0

/-- The stores of the frame itself. -/
def body : List (Store F) :=
  c.order.map (fun i => .pixel i (c.rgb i))
    ++ [.intrinsic .focalLength c.focalLength, .intrinsic .fov c.fov,
      .intrinsic .centreX c.centreX, .intrinsic .centreY c.centreY, .intrinsic .k1 0,
      .intrinsic .k2 0]

/-- `publish`, as its stores. -/
def publish (seg : SharedImage F) : List (Store F) :=
  if c.rgbSize ≠ seg.dataSize.toNat then []
  else
    let s := seg.seqlock
    .seqlock (s + 1) :: (c.body ++ [.seqlock (s + 2)])

end PublishCall

/-- The segment, what is left of the call under way, and the calls to come. -/
structure CameraRun (F : Type*) where
  segment : SharedImage F
  stores : List (Store F) := []
  calls : List (PublishCall F)

/-- A place of a segment of `n` data bytes that frames are written to. -/
inductive Place (n : ℕ) where
  | pixel (i : Fin n)
  | intrinsic (j : Intrinsic)
  deriving DecidableEq

/-- What such a place holds. -/
inductive Held (F : Type*) where
  | byte (b : UInt8)
  | float (x : F)

/-- What a segment holds at a place. -/
def SharedImage.read {F : Type*} {n : ℕ} (seg : SharedImage F) : Place n → Held F
  | .pixel i => .byte (seg.pixels i)
  | .intrinsic j => .float (seg.intrinsics j)

/-- What happens: the render thread goes on by a store, or to its next call, and the observer loads
the sequence or a place. -/
inductive ImageEvent (n : ℕ) where
  | writer
  | loadSeqlock
  | load (p : Place n)

/-- The render thread goes on. -/
def ImageEvent.isWriter {n : ℕ} : ImageEvent n → Bool
  | .writer => true
  | _ => false

/-- What the observer has read. -/
inductive Loaded (F : Type*) (n : ℕ) where
  | seqlock (v : UInt64)
  | place (p : Place n) (x : Held F)

namespace CameraRun

variable {F : Type*} [Zero F]

/-- The render thread goes on. -/
def goOn (s : CameraRun F) : CameraRun F :=
  match s.stores, s.calls with
  | store :: stores, _ => { s with segment := s.segment.apply store, stores := stores }
  | [], c :: calls => { s with stores := c.publish s.segment, calls := calls }
  | [], [] => s

/-- The render thread and the observer, interleaved. -/
def machine (n : ℕ) : Machine (CameraRun F) (ImageEvent n) (Loaded F n) where
  next s
    | .writer => s.goOn
    | .loadSeqlock | .load _ => s
  out s
    | .writer => none
    | .loadSeqlock => some (.seqlock s.segment.seqlock)
    | .load p => some (.place p (s.segment.read p))

end CameraRun

/-! ## A frame and its stores -/

namespace PublishCall

variable {F : Type*} [Zero F] {n : ℕ} (c : PublishCall F)

/-- What the frame of a call has at a place. -/
def value : Place n → Held F
  | .pixel i => .byte (c.rgb i)
  | .intrinsic j => .float (c.intrinsics j)

/-- The store that puts it there. -/
def storeAt : Place n → Store F
  | .pixel i => .pixel i (c.rgb i)
  | .intrinsic j => .intrinsic j (c.intrinsics j)

/-- The call is of the segment's size. -/
def Accepted (n : ℕ) : Prop := c.rgbSize = n

instance : Decidable (c.Accepted n) := inferInstanceAs (Decidable (_ = _))

theorem storeAt_injective : Function.Injective (c.storeAt (n := n)) := by
  intro p q h
  rcases p with i | i <;> rcases q with j | j
  · exact congrArg Place.pixel (Fin.ext (Store.pixel.inj h).1)
  · exact absurd h (by simp [storeAt])
  · exact absurd h (by simp [storeAt])
  · exact congrArg Place.intrinsic (Store.intrinsic.inj h).1

/-- **The stores of a frame are one for each place.** -/
theorem mem_body_iff (h : c.Accepted n) (st : Store F) :
    st ∈ c.body ↔ ∃ p : Place n, st = c.storeAt p := by
  rw [body, List.mem_append, List.mem_map]
  constructor
  · rintro (⟨i, hi, rfl⟩ | hst)
    · have hlt : i < n := h ▸ List.mem_range.mp (c.order_perm.mem_iff.mp hi)
      exact ⟨.pixel ⟨i, hlt⟩, rfl⟩
    · simp only [List.mem_cons, List.not_mem_nil, or_false] at hst
      rcases hst with rfl | rfl | rfl | rfl | rfl | rfl
      exacts [⟨.intrinsic .focalLength, rfl⟩, ⟨.intrinsic .fov, rfl⟩, ⟨.intrinsic .centreX, rfl⟩,
        ⟨.intrinsic .centreY, rfl⟩, ⟨.intrinsic .k1, rfl⟩, ⟨.intrinsic .k2, rfl⟩]
  · rintro ⟨p, rfl⟩
    rcases p with i | j
    · exact .inl ⟨i, c.order_perm.mem_iff.mpr (List.mem_range.mpr (h.symm ▸ i.isLt)), rfl⟩
    · right
      cases j <;> simp [storeAt, intrinsics]

end PublishCall

/-- A store of a frame puts its value at its place. -/
theorem SharedImage.read_apply_storeAt {F : Type*} [Zero F] {n : ℕ} (seg : SharedImage F)
    (c : PublishCall F) (p : Place n) :
    (seg.apply (c.storeAt p)).read = Function.update seg.read p (c.value p) := by
  funext q
  by_cases hq : q = p
  · subst hq
    rw [Function.update_self]
    rcases q with i | j
    · exact congrArg Held.byte (Function.update_self _ _ _)
    · exact congrArg Held.float (Function.update_self _ _ _)
  · rw [Function.update_of_ne hq]
    rcases p with i | i <;> rcases q with j | j
    · exact congrArg Held.byte (Function.update_of_ne (fun h => hq (congrArg _ (Fin.ext h))) _ _)
    · rfl
    · rfl
    · exact congrArg Held.float (Function.update_of_ne (fun h => hq (congrArg _ h)) _ _)

/-! ## The segment as a seqlock -/

namespace CameraRun

variable {F : Type*} [Zero F] {n : ℕ}

/-- The `k`-th frame of the calls accepted. -/
def frame (accepted : List (PublishCall F)) (k : ℕ) (p : Place n) : Held F :=
  match accepted[k - 1]? with
  | some c => c.value p
  | none => .byte 0

/-- The calls of the segment's size, in order. -/
def accepted (n : ℕ) (calls : List (PublishCall F)) : List (PublishCall F) :=
  calls.filter fun c => c.Accepted n

omit [Zero F] in
theorem accepted_cons (c : PublishCall F) (calls : List (PublishCall F)) :
    accepted n (c :: calls)
      = if c.Accepted n then c :: accepted n calls else accepted n calls := by
  simp [accepted, List.filter_cons]

/-- The segment as a counter and the places it guards. -/
def view (n : ℕ) (s : CameraRun F) : Seqlock (Place n) (Held F) :=
  ⟨s.segment.seqlock.toNat, s.segment.read⟩

/-- How far the render thread is with the frames `all`. -/
inductive Phase (all : List (PublishCall F)) (s : CameraRun F) : Prop where
  /-- Between two calls. -/
  | idle (k : ℕ) (hk : k ≤ all.length) (hseq : s.segment.seqlock.toNat = 2 * k)
    (hstores : s.stores = []) (hcalls : accepted n s.calls = all.drop k)
  /-- About to make the counter odd. -/
  | starting (k : ℕ) (c : PublishCall F) (hc : all[k]? = some c)
    (hseq : s.segment.seqlock.toNat = 2 * k)
    (hstores : s.stores = .seqlock (s.segment.seqlock + 1)
      :: (c.body ++ [.seqlock (s.segment.seqlock + 2)]))
    (hcalls : accepted n s.calls = all.drop (k + 1))
  /-- Writing the frame: each place holds its part of the frame or is still to be stored. -/
  | writing (k : ℕ) (c : PublishCall F) (left : List (Store F)) (v : UInt64)
    (hc : all[k]? = some c) (hseq : s.segment.seqlock.toNat = 2 * k + 1)
    (hstores : s.stores = left ++ [.seqlock v]) (hv : v.toNat = 2 * (k + 1))
    (hleft : ∀ st ∈ left, ∃ p : Place n, st = c.storeAt p)
    (hdone : ∀ p : Place n, s.segment.read p = c.value p ∨ c.storeAt p ∈ left)
    (hcalls : accepted n s.calls = all.drop (k + 1))

/-- The invariant of a run. -/
structure Inv (n : ℕ) (all : List (PublishCall F)) (s : CameraRun F) : Prop where
  dataSize : s.segment.dataSize.toNat = n
  phase : Phase (n := n) all s

omit [Zero F] in
/-- A store leaves the size alone. -/
theorem dataSize_apply (seg : SharedImage F) (st : Store F) :
    (seg.apply st).dataSize = seg.dataSize := by
  cases st <;> rfl

theorem seqlock_apply_storeAt (seg : SharedImage F) (c : PublishCall F) (p : Place n) :
    (seg.apply (c.storeAt p)).seqlock = seg.seqlock := by
  cases p <;> rfl

theorem toNat_add_of_lt {s d : UInt64} (h : s.toNat + d.toNat < 2 ^ 64) :
    (s + d).toNat = s.toNat + d.toNat := by
  rw [UInt64.toNat_add, Nat.mod_eq_of_lt h]

/-- The frame of a call under way is the next one. -/
theorem frame_succ {all : List (PublishCall F)} {k : ℕ} {c : PublishCall F}
    (hc : all[k]? = some c) : frame (n := n) all (k + 1) = c.value := by
  funext p
  rw [frame, Nat.add_sub_cancel, hc]

/-- Taking the next call shows nothing: a call of another size is over at once. -/
theorem phase_of_idle {all calls : List (PublishCall F)} {seg : SharedImage F}
    (hsize : seg.dataSize.toNat = n) {k : ℕ} (hk : k ≤ all.length)
    (hseq : seg.seqlock.toNat = 2 * k) (hcalls : accepted n calls = all.drop k) :
    Phase (n := n) all (goOn ⟨seg, [], calls⟩) ∧ (goOn ⟨seg, [], calls⟩).segment = seg := by
  rcases calls with - | ⟨c, calls⟩
  case nil => exact ⟨.idle k hk hseq rfl hcalls, rfl⟩
  case cons =>
    refine ⟨?_, rfl⟩
    by_cases haccepted : c.Accepted n
    · have hpublish : c.publish seg
          = .seqlock (seg.seqlock + 1) :: (c.body ++ [.seqlock (seg.seqlock + 2)]) :=
        if_neg (not_not.mpr (haccepted.trans hsize.symm))
      rw [accepted_cons, if_pos haccepted] at hcalls
      refine .starting k c ?_ hseq hpublish ?_
      · rw [← List.head?_drop, ← hcalls]
        rfl
      · rw [← List.tail_drop, ← hcalls]
        rfl
    · have hpublish : c.publish seg = [] := if_pos fun h => haccepted (h.trans hsize)
      rw [accepted_cons, if_neg haccepted] at hcalls
      exact .idle k hk hseq hpublish hcalls

/-- **Every step of the render thread is a step of the seqlock's writer**, or none that shows. -/
theorem step_of_writer {all : List (PublishCall F)} (hfew : all.length < 2 ^ 63)
    (hall : ∀ c ∈ all, c.Accepted n) {s : CameraRun F} (h : Inv n all s) : Inv n all s.goOn
      ∧ Relation.ReflTransGen (Seqlock.Step (frame all)) (s.view n) (s.goOn.view n) := by
  obtain ⟨seg, stores, calls⟩ := s
  obtain ⟨hsize, hphase⟩ := h
  cases hphase with
  | idle k hk hseq hstores hcalls =>
    obtain rfl : stores = [] := hstores
    obtain ⟨hphase, hsegment⟩ := phase_of_idle hsize hk hseq hcalls
    refine ⟨⟨hsegment ▸ hsize, hphase⟩, ?_⟩
    rw [view, view, hsegment]
  | starting k c hc hseq hstores hcalls =>
    dsimp only at hsize hseq hstores hcalls
    subst hstores
    obtain ⟨hlt, -⟩ := List.getElem?_eq_some_iff.mp hc
    have hodd : (seg.seqlock + 1).toNat = 2 * k + 1 := by
      rw [toNat_add_of_lt (by rw [hseq]; change _ + 1 < _; omega), hseq]
      rfl
    have heven : (seg.seqlock + 2).toNat = 2 * (k + 1) := by
      rw [toNat_add_of_lt (by rw [hseq]; change _ + 2 < _; omega), hseq]
      rfl
    have hbody := c.mem_body_iff (hall c (List.mem_of_getElem? hc))
    refine ⟨⟨hsize, ?_⟩, ?_⟩
    · exact .writing k c c.body _ hc hodd rfl heven (fun st hst => (hbody st).mp hst)
        (fun p => .inr ((hbody _).mpr ⟨p, rfl⟩)) hcalls
    · change Relation.ReflTransGen _ (Seqlock.mk seg.seqlock.toNat seg.read)
        (Seqlock.mk (seg.seqlock + 1).toNat seg.read)
      rw [hseq, hodd]
      exact .single (.start k seg.read)
  | writing k c left v hc hseq hstores hv hleft hdone hcalls =>
    dsimp only at hsize hseq hstores hdone hcalls
    subst hstores
    obtain ⟨hlt, -⟩ := List.getElem?_eq_some_iff.mp hc
    rcases left with - | ⟨st, left⟩
    case nil =>
      -- the frame is whole, and the counter becomes even
      have hwhole : seg.read = frame (n := n) all (k + 1) := by
        rw [frame_succ hc]
        exact funext fun p => (hdone p).resolve_right List.not_mem_nil
      refine ⟨⟨hsize, .idle (k + 1) hlt hv rfl hcalls⟩, ?_⟩
      change Relation.ReflTransGen _ (Seqlock.mk seg.seqlock.toNat seg.read)
        (Seqlock.mk v.toNat seg.read)
      rw [hseq, hv, hwhole]
      exact .single (.finish k)
    case cons =>
      obtain ⟨p, rfl⟩ := hleft st List.mem_cons_self
      have hread := seg.read_apply_storeAt c p
      have hcounter := seqlock_apply_storeAt seg c p
      refine ⟨⟨(dataSize_apply seg _).symm ▸ hsize, ?_⟩, ?_⟩
      · refine .writing k c left v hc (hcounter.symm ▸ hseq) rfl hv
          (fun st hst => hleft st (List.mem_cons_of_mem _ hst)) (fun q => ?_) hcalls
        change (seg.apply (c.storeAt p)).read q = _ ∨ _
        rw [hread]
        by_cases hq : q = p
        · left
          rw [hq, Function.update_self]
        · rw [Function.update_of_ne hq]
          exact (hdone q).imp_right fun hmem =>
            (List.mem_cons.mp hmem).resolve_left fun hst => hq (c.storeAt_injective hst)
      · change Relation.ReflTransGen _ (Seqlock.mk seg.seqlock.toNat seg.read)
          (Seqlock.mk (seg.apply (c.storeAt p)).seqlock.toNat (seg.apply (c.storeAt p)).read)
        rw [hcounter, hread, hseq, ← frame_succ hc]
        exact .single (.store k seg.read p)

/-! ## A run -/

/-- **A run of render thread and observer** is a run of the seqlock's writer. -/
theorem steps_of_run {all : List (PublishCall F)} (hfew : all.length < 2 ^ 63)
    (hall : ∀ c ∈ all, c.Accepted n) (es : List (ImageEvent n)) {s : CameraRun F}
    (h : Inv n all s) : Inv n all ((machine n).run s es)
      ∧ Relation.ReflTransGen (Seqlock.Step (frame all)) (s.view n)
        (((machine n).run s es).view n) := by
  induction es generalizing s with
  | nil => exact ⟨h, .refl⟩
  | cons e es ih =>
    rcases e with - | - | p
    case writer =>
      obtain ⟨hinv, hstep⟩ := step_of_writer hfew hall h
      obtain ⟨hrun, hsteps⟩ := ih hinv
      exact ⟨hrun, hstep.trans hsteps⟩
    case loadSeqlock => exact ih h
    case load => exact ih h

/-- The frame that an even counter names has been published. -/
theorem le_length_of_even {all : List (PublishCall F)} {s : CameraRun F} (h : Inv n all s) {k : ℕ}
    (hseq : s.segment.seqlock.toNat = 2 * k) : k ≤ all.length := by
  cases h.phase with
  | idle j hj hj' => omega
  | starting j c hc hj =>
    obtain ⟨hlt, -⟩ := List.getElem?_eq_some_iff.mp hc
    omega
  | writing j c left v hc hj => omega

/-- The start: the segment constructed, and the calls to come. -/
def start (seg : SharedImage F) (calls : List (PublishCall F)) : CameraRun F :=
  { segment := seg, calls := calls }

/-- **The segment never shows a torn frame.** -/
structure NeverTorn (n : ℕ) (seg : SharedImage F) (calls : List (PublishCall F)) : Prop where
  /-- An observer that reads one even counter before and after has read its frame. -/
  reads : ∀ (before between : List (ImageEvent n)) (v w : UInt64) (k : ℕ), 0 < k →
    (machine n).out ((machine n).run (start seg calls) before) .loadSeqlock = some (.seqlock v) →
    (machine n).out ((machine n).run (start seg calls) (before ++ .loadSeqlock :: between))
      .loadSeqlock = some (.seqlock w) →
    v.toNat = 2 * k → w.toNat = 2 * k →
    ∃ c, (accepted n calls)[k - 1]? = some c
      ∧ ∀ p x, .place p x ∈ (machine n).trace ((machine n).run (start seg calls) before)
        (.loadSeqlock :: between) → x = c.value p
  /-- A call of another size changes nothing. -/
  ignores : ∀ (s : CameraRun F) (c : PublishCall F) (rest : List (PublishCall F)),
    s.segment.dataSize.toNat = n → s.stores = [] → s.calls = c :: rest → ¬ c.Accepted n →
    s.goOn = { s with calls := rest }

/-- What an observer reads between two reads of one even counter, from any state of a run on. -/
theorem read_eq_frame {all : List (PublishCall F)} (hfew : all.length < 2 ^ 63)
    (hall : ∀ c ∈ all, c.Accepted n) {s : CameraRun F} (h : Inv n all s)
    (hwhole : Seqlock.Whole (frame all) (s.view n)) {k : ℕ} (hk : 0 < k)
    (hfirst : s.segment.seqlock.toNat = 2 * k) {es : List (ImageEvent n)}
    (hsecond : ((machine n).run s es).segment.seqlock.toNat = 2 * k) {p : Place n} {x : Held F}
    (hread : .place p x ∈ (machine n).trace s es) : x = frame all k p := by
  obtain ⟨pre, e, post, rfl, hout⟩ := Machine.exists_of_mem_trace _ hread
  obtain ⟨hinv, hsteps⟩ := steps_of_run hfew hall pre h
  have hlater := (steps_of_run hfew hall (e :: post) hinv).2
  rw [Machine.run_append] at hsecond
  have hmem := Seqlock.mem_eq_of_between hwhole hsteps hlater hk hfirst hsecond
  rcases e with - | - | q
  case writer => exact absurd hout (by simp [machine])
  case loadSeqlock => exact absurd hout (by simp [machine])
  case load =>
    obtain ⟨rfl, rfl⟩ := Loaded.place.inj (Option.some.inj hout)
    exact congrFun hmem q

/-- The segment is constructed with no frame yet. -/
theorem seqlock_create {width height : ℤ} {seg : SharedImage F}
    (hcreate : SharedImage.create width height = .ok seg) : seg.seqlock = 0 := by
  rw [SharedImage.create] at hcreate
  split_ifs at hcreate
  obtain rfl := Except.ok.inj hcreate
  rfl

theorem frames_never_torn {width height : ℤ} {seg : SharedImage F}
    (hcreate : SharedImage.create width height = .ok seg) {calls : List (PublishCall F)}
    (hfew : (accepted seg.dataSize.toNat calls).length < 2 ^ 63) :
    NeverTorn seg.dataSize.toNat seg calls where
  reads before between v w k hk hfirst hsecond hv hw := by
    have hseq := seqlock_create hcreate
    have hall : ∀ c ∈ accepted seg.dataSize.toNat calls, c.Accepted seg.dataSize.toNat :=
      fun c hc => of_decide_eq_true (List.mem_filter.mp hc).2
    have hstart : Inv seg.dataSize.toNat (accepted seg.dataSize.toNat calls) (start seg calls) :=
      ⟨rfl, .idle 0 (Nat.zero_le _) (congrArg UInt64.toNat hseq) rfl rfl⟩
    have hnone : Seqlock.Whole (frame (accepted seg.dataSize.toNat calls))
        ((start seg calls).view seg.dataSize.toNat) := by
      intro j hj hzero
      change seg.seqlock.toNat = 2 * j at hzero
      rw [hseq] at hzero
      exact absurd hzero.symm (Nat.mul_ne_zero two_ne_zero hj.ne')
    obtain ⟨hinv, hsteps⟩ := steps_of_run hfew hall before hstart
    have hv' : ((machine _).run (start seg calls) before).segment.seqlock.toNat = 2 * k := by
      rw [← hv]
      exact congrArg UInt64.toNat (Loaded.seqlock.inj (Option.some.inj hfirst))
    rw [Machine.run_append] at hsecond
    have hw' : ((machine _).run ((machine _).run (start seg calls) before)
        (.loadSeqlock :: between)).segment.seqlock.toNat = 2 * k := by
      rw [← hw]
      exact congrArg UInt64.toNat (Loaded.seqlock.inj (Option.some.inj hsecond))
    have hle := le_length_of_even hinv hv'
    obtain ⟨c, hc⟩ : ∃ c, (accepted seg.dataSize.toNat calls)[k - 1]? = some c :=
      ⟨_, List.getElem?_eq_getElem (by omega)⟩
    refine ⟨c, hc, fun p x hread => ?_⟩
    have hwhole := Seqlock.whole_of_steps hsteps hnone
    rw [read_eq_frame hfew hall hinv hwhole hk hv' hw' hread, frame, hc]
  ignores s c rest hsize hstores hcalls hc := by
    obtain ⟨seg, stores, calls⟩ := s
    dsimp only at hsize hstores hcalls
    subst hstores hcalls
    have hpublish : c.publish seg = [] := if_pos fun h => hc (h.trans hsize)
    change CameraRun.mk seg (c.publish seg) rest = _
    rw [hpublish]

/-! ## Publication -/

/-- A run goes on as often as the render thread does. -/
theorem run_eq_iterate (es : List (ImageEvent n)) (s : CameraRun F) :
    (machine n).run s es = goOn^[es.countP ImageEvent.isWriter] s := by
  induction es generalizing s with
  | nil => rfl
  | cons e es ih =>
    rcases e with - | - | p
    case writer =>
      rw [List.countP_cons_of_pos rfl, Function.iterate_succ_apply]
      exact ih s.goOn
    case loadSeqlock =>
      rw [List.countP_cons_of_neg Bool.false_ne_true]
      exact ih s
    case load =>
      rw [List.countP_cons_of_neg Bool.false_ne_true]
      exact ih s

/-- The stores of a call under way are done one after the other. -/
theorem iterate_goOn_stores (stores : List (Store F)) (seg : SharedImage F)
    (calls : List (PublishCall F)) :
    goOn^[stores.length] ⟨seg, stores, calls⟩
      = ⟨stores.foldl SharedImage.apply seg, [], calls⟩ := by
  induction stores generalizing seg with
  | nil => rfl
  | cons store stores ih =>
    rw [List.length_cons, Function.iterate_succ_apply]
    exact ih (seg.apply store)

/-- The stores of a frame leave the counter and the size alone. -/
theorem foldl_apply_frame {c : PublishCall F} {stores : List (Store F)}
    (hstores : ∀ st ∈ stores, ∃ p : Place n, st = c.storeAt p) (seg : SharedImage F) :
    (stores.foldl SharedImage.apply seg).seqlock = seg.seqlock
      ∧ (stores.foldl SharedImage.apply seg).dataSize = seg.dataSize := by
  induction stores generalizing seg with
  | nil => exact ⟨rfl, rfl⟩
  | cons store stores ih =>
    obtain ⟨⟨p, rfl⟩, hrest⟩ := List.forall_mem_cons.mp hstores
    obtain ⟨hcounter, hsize⟩ := ih hrest (seg.apply (c.storeAt p))
    exact ⟨hcounter.trans (seqlock_apply_storeAt seg c p), hsize.trans (dataSize_apply seg _)⟩

/-- **A call takes so many steps**: the call itself, a store for each place and two for the
counter, which it moves on by two. -/
theorem iterate_goOn_call {seg : SharedImage F} (hsize : seg.dataSize.toNat = n)
    {c : PublishCall F} (hc : c.Accepted n) (calls : List (PublishCall F)) :
    ∃ seg', goOn^[n + 9] ⟨seg, [], c :: calls⟩ = ⟨seg', [], calls⟩
      ∧ seg'.seqlock = seg.seqlock + 2 ∧ seg'.dataSize = seg.dataSize := by
  have hpublish : c.publish seg
      = .seqlock (seg.seqlock + 1) :: (c.body ++ [.seqlock (seg.seqlock + 2)]) :=
    if_neg (not_not.mpr (hc.trans hsize.symm))
  have hlength : (c.publish seg).length = n + 8 := by
    have horder : c.order.length = n := by
      rw [c.order_perm.length_eq, List.length_range]
      exact hc
    rw [hpublish, PublishCall.body]
    simp [horder]
  have hfirst : goOn ⟨seg, [], c :: calls⟩ = ⟨seg, c.publish seg, calls⟩ := rfl
  have hsteps := iterate_goOn_stores (c.publish seg) seg calls
  rw [hlength] at hsteps
  refine ⟨_, (Function.iterate_succ_apply goOn (n + 8) _).trans ((congrArg _ hfirst).trans hsteps),
    ?_, ?_⟩
  · rw [hpublish, List.foldl_cons, List.foldl_append]
    rfl
  · have hbody := (foldl_apply_frame (n := n) (fun st hst => (c.mem_body_iff hc st).mp hst)
      (seg.apply (.seqlock (seg.seqlock + 1)))).2
    rw [hpublish, List.foldl_cons, List.foldl_append, List.foldl_cons, List.foldl_nil]
    exact (dataSize_apply _ _).trans (hbody.trans (dataSize_apply seg _))

theorem iterate_goOn_calls {seg : SharedImage F} (hsize : seg.dataSize.toNat = n)
    {calls : List (PublishCall F)} (hcalls : ∀ c ∈ calls, c.Accepted n) {k : ℕ}
    (hk : k ≤ calls.length) (hfew : seg.seqlock.toNat + 2 * k < 2 ^ 64) :
    (goOn^[k * (n + 9)] ⟨seg, [], calls⟩).segment.seqlock.toNat = seg.seqlock.toNat + 2 * k := by
  induction k generalizing seg calls with
  | zero => rw [Nat.zero_mul, Function.iterate_zero_apply, Nat.mul_zero, Nat.add_zero]
  | succ k ih =>
    obtain ⟨c, calls, rfl⟩ := List.exists_cons_of_length_pos (Nat.zero_lt_of_lt hk)
    obtain ⟨hc, hrest⟩ := List.forall_mem_cons.mp hcalls
    obtain ⟨seg', hcall, hcounter, hsize'⟩ := iterate_goOn_call hsize hc calls
    have htwo : seg'.seqlock.toNat = seg.seqlock.toNat + 2 := by
      rw [hcounter, toNat_add_of_lt (d := 2)]
      · rfl
      · change _ + 2 < _
        omega
    rw [Nat.succ_mul, Function.iterate_add_apply, hcall,
      ih (hsize' ▸ hsize) hrest (Nat.le_of_succ_le_succ hk) (by omega), htwo]
    omega

/-- **Every frame is published**: when the render thread has gone on for as many steps as its first
`k` calls take, whatever was loaded in between, the segment counts `k` frames and holds the last. -/
theorem published {seg : SharedImage F} {all : List (PublishCall F)} (hfew : all.length < 2 ^ 63)
    (hall : ∀ c ∈ all, c.Accepted n) (hzero : seg.seqlock = 0)
    (hstart : Inv n all (start seg all)) {k : ℕ} (hk : k ≤ all.length) {es : List (ImageEvent n)}
    (hsteps : es.countP ImageEvent.isWriter = k * (n + 9)) :
    ((machine n).run (start seg all) es).segment.seqlock.toNat = 2 * k
      ∧ (0 < k → ((machine n).run (start seg all) es).segment.read = frame (n := n) all k) := by
  have hcounter : ((machine n).run (start seg all) es).segment.seqlock.toNat = 2 * k := by
    have hnil : seg.seqlock.toNat = 0 := congrArg UInt64.toNat hzero
    have hsize : seg.dataSize.toNat = n := hstart.dataSize
    have hcalls := iterate_goOn_calls hsize hall hk (by omega)
    rw [hnil, Nat.zero_add] at hcalls
    rw [run_eq_iterate, hsteps]
    exact hcalls
  have hnone : Seqlock.Whole (frame all) ((start seg all).view n) := by
    intro j hj hseq
    change seg.seqlock.toNat = 2 * j at hseq
    rw [hzero] at hseq
    exact absurd hseq.symm (Nat.mul_ne_zero two_ne_zero hj.ne')
  have hwhole := Seqlock.whole_of_steps (steps_of_run hfew hall es hstart).2 hnone
  exact ⟨hcounter, fun hpos => hwhole k hpos hcounter⟩

/-- The segment of one pixel. -/
def onePixel : SharedImage ℚ where
  dataSize := 3
  width := 1
  height := 1
  encoding := "rgb8"
  intrinsics _ := 0
  pixels _ := 0

/-- A frame of one grey, stored back to front, and one of another size. -/
def greyCalls : List (PublishCall ℚ) :=
  [{ rgb := fun _ => 128, rgbSize := 3, focalLength := 1, fov := 1, centreX := 0, centreY := 0,
      order := [2, 1, 0], order_perm := by decide },
    { rgb := fun _ => 255, rgbSize := 1, focalLength := 1, fov := 1, centreX := 0, centreY := 0,
      order := [0], order_perm := by decide }]

theorem create_one_pixel : SharedImage.create 1 1 = .ok onePixel := rfl

theorem frames_never_torn_one_pixel : NeverTorn onePixel.dataSize.toNat onePixel greyCalls :=
  frames_never_torn create_one_pixel (by decide)

end CameraRun

end K1Sim
