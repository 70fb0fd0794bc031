import K1Sim.Camera.SharedImage
import K1Sim.Camera.SharedPose
import K1Sim.Foundations.Writes
import K1Sim.Shared.RealLibc
import Mathlib.Analysis.SpecialFunctions.Trigonometric.Arctan

/-!
# Camera/RenderLoop — from a frame of the simulation to the two segments

The render thread checks its configuration once, and then, frame by frame, takes the scene and the
head under the sim mutex, publishes the head pose, turns the rendered picture upside down and
publishes it.  `segments_showFrames`: every frame gets to the two segments, and what readers find
there under one number comes from one frame, whole, the picture right way up.
-/

namespace K1Sim

open Foundations

/-- `std::tan` and `std::atan`. -/
class LibcTan (K : Type*) where
  tan : K → K
  atan : K → K

noncomputable instance : LibcTan ℝ where
  tan := Real.tan
  atan := Real.arctan

namespace Camera

/-- `CameraConfig`. -/
structure CameraConfig (K : Type*) where
  segment : String
  poseSegment : String
  width : Int32
  height : Int32
  fps : K
  mjcfCamera : String

/-- The nodes of `config/camera.yaml`. -/
structure CameraYaml (K : Type*) where
  segment : Option String := none
  poseSegment : Option String := none
  width : Option Int32 := none
  height : Option Int32 := none
  fps : Option K := none
  mjcfCamera : Option String := none

/-- `load_config`. -/
def loadConfig {K : Type*} [Field K] (root : CameraYaml K) : CameraConfig K where
  segment := root.segment.getD "_boostercamera_head_rgb"
  poseSegment := root.poseSegment.getD "_head_pose"
  width := root.width.getD 640
  height := root.height.getD 480
  fps := root.fps.getD 30
  mjcfCamera := root.mjcfCamera.getD "head"

/-- What the camera reads of the model. -/
structure CameraModel (K : Type*) where
  cameraId : String → Option ℕ
  camFovy : ℕ → K
  offwidth : Int32
  offheight : Int32

/-- How the calls that leave the repository come out: the OpenGL context, and what the constructors
of the two segments throw, if they do. -/
structure CameraHost where
  contextValid : Bool := true
  imageThrows : Option String := none
  poseThrows : Option String := none

/-- What the render thread keeps from its start. -/
structure RenderLoop (K : Type*) where
  segment : SharedImage K
  publishesPose : Bool
  width : ℕ
  height : ℕ
  frameBytes : ℕ
  focalLengthNorm : K
  fovRad : K

/-- `kMaxImageBytes`. -/
def kMaxImageBytes : ℕ := 2 * 1024 * 1024

/-- A cast to `std::size_t`. -/
def sizeT (n : Int32) : ℕ := (n.toInt % 2 ^ 64).toNat

/-- The size of a frame, as `std::size_t` has it. -/
def frameBytes (width height : Int32) : ℕ := sizeT width * sizeT height % 2 ^ 64 * 3 % 2 ^ 64

section Start

variable {K : Type*} [Field K] [Libc K] [LibcTan K]

/-- The focal length in widths of the picture.  `kPi` is the double next to π. -/
def focalLengthNorm (fovy : K) (width height : Int32) : K :=
  let fovyRad := fovy * Libc.pi / 180
  (height.toInt : K) * (1 / 2) / LibcTan.tan (fovyRad * (1 / 2)) / (width.toInt : K)

/-- The angle between two opposite corners of the picture. -/
def fovRad (fovy : K) (width height : Int32) : K :=
  let aspect := (height.toInt : K) / (width.toInt : K)
  2 * LibcTan.atan
    (1 / 2 * Libc.sqrt (1 + aspect * aspect) / focalLengthNorm fovy width height)

/-- `render_loop`, up to its loop. -/
def start (host : CameraHost) (model : CameraModel K) (headBodyId : Option ℕ)
    (cfg : CameraConfig K) : Except String (RenderLoop K) :=
  let size := toString cfg.width ++ " x " ++ toString cfg.height
  let failed := "Camera: failed to create shared-memory segment " ++ cfg.segment ++ " : "
  if kMaxImageBytes < frameBytes cfg.width cfg.height then
    .error ("Camera: configured " ++ size
      ++ " rgb8 exceeds K1Camera's MAX_IMAGE_BYTES (2 MiB) -- the reader would drop every frame. "
      ++ "Lower width/height in config/camera.yaml.")
  else if !host.contextValid then
    .error ("Camera: offscreen OpenGL context creation failed -- no camera frames will be "
      ++ "published (need native macOS OpenGL or EGL + a GPU/mesa device)")
  else
    match SharedImage.create cfg.width.toInt cfg.height.toInt, host.imageThrows with
    | .error what, _ => .error (failed ++ what)
    | .ok _, some what => .error (failed ++ what)
    | .ok segment, none =>
      match model.cameraId cfg.mjcfCamera with
      | none =>
        .error ("Camera: mjcf camera " ++ cfg.mjcfCamera ++ " not found in the model -- check "
          ++ "config/camera.yaml's mjcf_camera against models/k1/K1_22dof.xml")
      | some camId =>
        if model.offwidth < cfg.width ∨ model.offheight < cfg.height then
          .error ("Camera: configured " ++ size ++ " exceeds the model's compiled offscreen buffer "
            ++ toString model.offwidth ++ " x " ++ toString model.offheight
            ++ " -- fix config/camera.yaml or the model's "
            ++ "<visual><global offwidth=.../offheight=.../></visual>")
        else
          .ok
            { segment := segment
              -- a pose segment that cannot be had is done without
              publishesPose := cfg.poseSegment ≠ "" && host.poseThrows.isNone && headBodyId.isSome
              width := cfg.width.toInt.toNat
              height := cfg.height.toInt.toNat
              frameBytes := frameBytes cfg.width cfg.height
              focalLengthNorm := focalLengthNorm (model.camFovy camId) cfg.width cfg.height
              fovRad := fovRad (model.camFovy camId) cfg.width cfg.height }

end Start

/-! ## The rows of a picture -/

/-- One row of the picture, copied to its place from the top. -/
def copyRow (width height : ℕ) (raw : ℕ → UInt8) (flipped : ℕ → UInt8) (row : ℕ) : ℕ → UInt8 :=
  writeAll (fun b => row * width * 3 + b) (fun b => raw ((height - 1 - row) * width * 3 + b))
    (List.range (width * 3)) flipped

/-- The loop over the rows. -/
def flipRows (width height : ℕ) (raw : ℕ → UInt8) (flipped : ℕ → UInt8) : ℕ → UInt8 :=
  (List.range height).foldl (copyRow width height raw) flipped

/-- The byte that the flip puts at a place: of the row as far from the other end, and as far into
the row. -/
def mirror (width height i : ℕ) : ℕ :=
  (height - 1 - i / (width * 3)) * width * 3 + i % (width * 3)

theorem row_lt {width height i : ℕ} (hi : i < width * height * 3) : i / (width * 3) < height := by
  refine Nat.div_lt_of_lt_mul ?_
  calc i < width * height * 3 := hi
    _ = width * 3 * height := Nat.mul_right_comm _ _ _

theorem width_pos {width height i : ℕ} (hi : i < width * height * 3) : 0 < width * 3 := by
  rcases Nat.eq_zero_or_pos width with rfl | hpos
  · rw [Nat.zero_mul, Nat.zero_mul] at hi
    exact absurd hi (Nat.not_lt_zero i)
  · exact Nat.mul_pos hpos (by decide)

/-- The byte `b` of the row `row`. -/
theorem place_lt {width height row b : ℕ} (hrow : row < height) (hb : b < width * 3) :
    row * width * 3 + b < width * height * 3 := by
  calc row * width * 3 + b < row * width * 3 + width * 3 := Nat.add_lt_add_left hb _
    _ = (row + 1) * (width * 3) := by ring
    _ ≤ height * (width * 3) := Nat.mul_le_mul_right _ hrow
    _ = width * height * 3 := by ring

theorem place_div {width row b : ℕ} (hb : b < width * 3) :
    (row * width * 3 + b) / (width * 3) = row := by
  rw [Nat.mul_assoc, Nat.add_comm, Nat.add_mul_div_right _ _ (Nat.zero_lt_of_lt hb),
    Nat.div_eq_of_lt hb, Nat.zero_add]

theorem place_mod {width row b : ℕ} (hb : b < width * 3) :
    (row * width * 3 + b) % (width * 3) = b := by
  rw [Nat.mul_assoc, Nat.add_comm, Nat.add_mul_mod_self_right, Nat.mod_eq_of_lt hb]

theorem place_eq (width i : ℕ) : i / (width * 3) * width * 3 + i % (width * 3) = i := by
  rw [Nat.mul_assoc, Nat.mul_comm (i / (width * 3))]
  exact Nat.div_add_mod i (width * 3)

/-- **A flip reads inside the picture.** -/
theorem mirror_lt {width height i : ℕ} (hi : i < width * height * 3) :
    mirror width height i < width * height * 3 := by
  have hheight : height ≠ 0 := Nat.ne_zero_of_lt (row_lt hi)
  have hrow : height - 1 - i / (width * 3) < height :=
    Nat.lt_of_le_of_lt (Nat.sub_le _ _) (Nat.sub_one_lt hheight)
  exact place_lt hrow (Nat.mod_lt i (width_pos hi))

/-- **Flipped twice, a picture is as it was.** -/
theorem mirror_mirror {width height i : ℕ} (hi : i < width * height * 3) :
    mirror width height (mirror width height i) = i := by
  have hb := Nat.mod_lt i (width_pos hi)
  have hback : height - 1 - (height - 1 - i / (width * 3)) = i / (width * 3) :=
    Nat.sub_sub_self (Nat.le_sub_one_of_lt (row_lt hi))
  rw [mirror, mirror, place_div hb, place_mod hb, hback, place_eq]

/-- A row writes its own place only. -/
theorem copyRow_apply {width height : ℕ} (raw flipped : ℕ → UInt8) (row : ℕ) {i : ℕ}
    (hi : i < width * height * 3) :
    copyRow width height raw flipped row i
      = if i / (width * 3) = row then raw (mirror width height i) else flipped i := by
  have hb := Nat.mod_lt i (width_pos hi)
  split_ifs with hrow
  · have hnodup : ((List.range (width * 3)).map fun b => row * width * 3 + b).Nodup :=
      List.nodup_range.map fun a b hab => Nat.add_left_cancel hab
    have hwrite := writeAll_of_mem (fun b => row * width * 3 + b)
      (fun b => raw ((height - 1 - row) * width * 3 + b)) _ flipped hnodup (List.mem_range.mpr hb)
    rw [← hrow, place_eq] at hwrite
    rw [copyRow, ← hrow, hwrite, mirror]
  · refine writeAll_of_notMem _ _ _ _ fun b hb' heq => hrow ?_
    rw [← heq, place_div (List.mem_range.mp hb')]

/-- **The picture the right way up**, whatever was in the buffer before. -/
theorem flipRows_apply {width height : ℕ} (raw flipped : ℕ → UInt8) {i : ℕ}
    (hi : i < width * height * 3) :
    flipRows width height raw flipped i = raw (mirror width height i) := by
  refine foldl_of_mem (P := fun flipped => flipped i = raw (mirror width height i))
    (fun flipped => ?_) (fun flipped row _ h => ?_) (List.mem_range.mpr (row_lt hi)) flipped
  · rw [copyRow_apply raw flipped _ hi, if_pos rfl]
  · rw [copyRow_apply raw flipped row hi, h, ite_self]

/-! ## The loop -/

/-- What a frame gets: the head and the base under the sim mutex, the picture of that moment from
the bottom row up, and the order that `std::memcpy` stores its bytes in. -/
structure Frame (K : Type*) (n : ℕ) where
  reading : HeadReading K
  raw : ℕ → UInt8
  order : List ℕ
  order_perm : order.Perm (List.range n)

section Loop

variable {K : Type*} [Field K] [Libc K]

/-- The calls of `SharedImageWriter::publish` of the frames, the buffer for the flip kept from one
to the next. -/
def imageCalls (r : RenderLoop K) :
    (ℕ → UInt8) → List (Frame K r.frameBytes) → List (PublishCall K)
  | _, [] => []
  | flipped, f :: fs =>
    let flipped := flipRows r.width r.height f.raw flipped
    { rgb := flipped
      rgbSize := r.frameBytes
      focalLength := Libc.toFloat r.focalLengthNorm
      fov := Libc.toFloat r.fovRad
      centreX := 0
      centreY := 0
      order := f.order
      order_perm := f.order_perm } :: imageCalls r flipped fs

/-- The call of `SharedPoseWriter::publish` of a frame. -/
def poseCall [DecidableEq K] {n : ℕ} (f : Frame K n) : PoseCall K :=
  .ofHeadPose (headInFootprint f.reading)

/-- The calls of `SharedPoseWriter::publish` of the frames, if there are any. -/
def poseCalls [DecidableEq K] (r : RenderLoop K) (fs : List (Frame K r.frameBytes)) :
    List (PoseCall K) :=
  if r.publishesPose then fs.map poseCall else []

/-- What a reader should find of a frame. -/
def expected (r : RenderLoop K) {n : ℕ} (f : Frame K n) : Place n → Held K
  | .pixel i => .byte (f.raw (mirror r.width r.height i))
  | .intrinsic .focalLength => .float (Libc.toFloat r.focalLengthNorm)
  | .intrinsic .fov => .float (Libc.toFloat r.fovRad)
  | .intrinsic _ => .float 0

/-- **A call a frame**: of the segment's size, and with the frame's picture and lens. -/
theorem imageCalls_getElem? (r : RenderLoop K) (hbytes : r.frameBytes = r.width * r.height * 3)
    (fs : List (Frame K r.frameBytes)) (flipped : ℕ → UInt8) {k : ℕ} {c : PublishCall K}
    (hc : (imageCalls r flipped fs)[k]? = some c) :
    ∃ f, fs[k]? = some f ∧ c.Accepted r.frameBytes ∧ ∀ p, c.value p = expected r f p := by
  induction fs generalizing flipped k with
  | nil => exact absurd hc (by simp [imageCalls])
  | cons f fs ih =>
    cases k with
    | succ k => exact ih _ hc
    | zero =>
      refine ⟨f, rfl, ?_, fun p => ?_⟩
      · obtain rfl := Option.some.inj hc
        rfl
      · obtain rfl := Option.some.inj hc
        cases p with
        | pixel i => exact congrArg Held.byte (flipRows_apply f.raw flipped (hbytes ▸ i.isLt))
        | intrinsic j => cases j <;> rfl

theorem length_imageCalls (r : RenderLoop K) (fs : List (Frame K r.frameBytes))
    (flipped : ℕ → UInt8) : (imageCalls r flipped fs).length = fs.length := by
  induction fs generalizing flipped with
  | nil => rfl
  | cons f fs ih => exact congrArg Nat.succ (ih _)

end Loop

/-! ## What the start checks -/

theorem sizeT_of_pos {n : Int32} (hn : 0 < n.toInt) : sizeT n = n.toInt.toNat := by
  have hlt := n.toInt_lt
  rw [sizeT, Int.emod_eq_of_lt hn.le (by omega)]

/-- **A frame's size does not wrap.** -/
theorem frameBytes_of_pos {width height : Int32} (hwidth : 0 < width.toInt)
    (hheight : 0 < height.toInt) :
    frameBytes width height = width.toInt.toNat * height.toInt.toNat * 3 := by
  have hw : width.toInt.toNat < 2 ^ 31 := (Int.toNat_lt hwidth.le).mpr width.toInt_lt
  have hh : height.toInt.toNat < 2 ^ 31 := (Int.toNat_lt hheight.le).mpr height.toInt_lt
  have hpixels : width.toInt.toNat * height.toInt.toNat < 2 ^ 31 * 2 ^ 31 :=
    Nat.mul_lt_mul'' hw hh
  rw [frameBytes, sizeT_of_pos hwidth, sizeT_of_pos hheight,
    Nat.mod_eq_of_lt (hpixels.trans (by decide)), Nat.mod_eq_of_lt (by omega)]

variable {K : Type*} [Field K] [Libc K] [LibcTan K] {host : CameraHost} {model : CameraModel K}
  {headBodyId : Option ℕ} {cfg : CameraConfig K} {r : RenderLoop K}

/-- A start that comes through, and what it has checked. -/
theorem of_start (hstart : start host model headBodyId cfg = .ok r) :
    frameBytes cfg.width cfg.height ≤ kMaxImageBytes
      ∧ SharedImage.create cfg.width.toInt cfg.height.toInt = .ok r.segment
      ∧ r.width = cfg.width.toInt.toNat ∧ r.height = cfg.height.toInt.toNat
      ∧ r.frameBytes = frameBytes cfg.width cfg.height
      ∧ ∃ camId, model.cameraId cfg.mjcfCamera = some camId
        ∧ r.focalLengthNorm = focalLengthNorm (model.camFovy camId) cfg.width cfg.height
        ∧ r.fovRad = fovRad (model.camFovy camId) cfg.width cfg.height := by
  simp only [start] at hstart
  split at hstart
  · exact nomatch hstart
  next hbytes =>
    split at hstart
    · exact nomatch hstart
    split at hstart
    · exact nomatch hstart
    · exact nomatch hstart
    next hcreate _ =>
      split at hstart
      · exact nomatch hstart
      next camId hcam =>
        split at hstart
        · exact nomatch hstart
        · obtain rfl := Except.ok.inj hstart
          exact ⟨Nat.le_of_not_lt hbytes, hcreate, rfl, rfl, rfl, camId, hcam, rfl, rfl⟩

/-- **The segment is constructed for the frames to come.** -/
theorem dataSize_of_start (hstart : start host model headBodyId cfg = .ok r) :
    r.segment.dataSize.toNat = r.frameBytes ∧ r.frameBytes = r.width * r.height * 3
      ∧ r.segment.seqlock = 0 := by
  obtain ⟨hmax, hcreate, hwidth, hheight, hbytes, -⟩ := of_start hstart
  have hzero := CameraRun.seqlock_create hcreate
  rw [SharedImage.create] at hcreate
  split_ifs at hcreate with hpos
  obtain ⟨hw, hh⟩ := not_or.mp hpos
  have hsize := frameBytes_of_pos (not_le.mp hw) (not_le.mp hh)
  rw [hwidth, hheight, hbytes]
  refine ⟨?_, hsize, hzero⟩
  obtain hsegment := Except.ok.inj hcreate
  rw [← hsegment]
  change (UInt32.ofNat (cfg.width.toInt.toNat * cfg.height.toInt.toNat * 3)).toNat = _
  rw [UInt32.toNat_ofNat_of_lt', hsize]
  change _ < 2 ^ 32
  rw [← hsize]
  exact hmax.trans_lt (by decide)

/-- Every call of the render thread is of the segment's size. -/
theorem accepted_imageCalls (hstart : start host model headBodyId cfg = .ok r)
    (fs : List (Frame K r.frameBytes)) (flipped : ℕ → UInt8) :
    ∀ c ∈ imageCalls r flipped fs, c.Accepted r.frameBytes := by
  intro c hc
  obtain ⟨-, hbytes, -⟩ := dataSize_of_start hstart
  obtain ⟨j, hj⟩ := List.mem_iff_getElem?.mp hc
  obtain ⟨-, -, haccepted, -⟩ := imageCalls_getElem? r hbytes fs flipped hj
  exact haccepted

/-- The segment before its first frame. -/
theorem inv_start (hstart : start host model headBodyId cfg = .ok r)
    (fs : List (Frame K r.frameBytes)) (flipped : ℕ → UInt8) :
    CameraRun.Inv r.frameBytes (imageCalls r flipped fs)
      (CameraRun.start r.segment (imageCalls r flipped fs)) := by
  obtain ⟨hsize, -, hzero⟩ := dataSize_of_start hstart
  refine ⟨hsize, .idle 0 (Nat.zero_le _) (congrArg UInt64.toNat hzero) rfl ?_⟩
  exact List.filter_eq_self.mpr fun c hc =>
    decide_eq_true (accepted_imageCalls hstart fs flipped c hc)

theorem whole_start (hstart : start host model headBodyId cfg = .ok r)
    (fs : List (Frame K r.frameBytes)) (flipped : ℕ → UInt8) :
    Seqlock.Whole (CameraRun.frame (imageCalls r flipped fs))
      ((CameraRun.start r.segment (imageCalls r flipped fs)).view r.frameBytes) := by
  intro j hj hcounter
  change r.segment.seqlock.toNat = 2 * j at hcounter
  rw [(dataSize_of_start hstart).2.2] at hcounter
  exact absurd hcounter.symm (Nat.mul_ne_zero two_ne_zero hj.ne')

/-! ## The two segments -/

/-- **The segments show the frames.** -/
structure ShowsFrames [DecidableEq K] (r : RenderLoop K) (fs : List (Frame K r.frameBytes))
    (flipped : ℕ → UInt8) : Prop where
  /-- When the render thread has gone on for as many steps as `k + 1` frames take, whatever was
  loaded in between, the segment counts `k + 1` frames and holds the last of them. -/
  imagePublished : ∀ (es : List (ImageEvent r.frameBytes)) (k : ℕ) (f : Frame K r.frameBytes),
    fs[k]? = some f → es.countP ImageEvent.isWriter = (k + 1) * (r.frameBytes + 9) →
    let s := (CameraRun.machine (F := K) r.frameBytes).run
      (CameraRun.start r.segment (imageCalls r flipped fs)) es
    s.segment.seqlock.toNat = 2 * (k + 1) ∧ ∀ p, s.segment.read p = expected r f p
  /-- A reader that reads one even counter before and after has read the picture of the frame that
  it counts. -/
  image : ∀ (before between : List (ImageEvent r.frameBytes)) (v w : UInt64) (k : ℕ), 0 < k →
    let camera := CameraRun.machine (F := K) r.frameBytes
    let s := camera.run (CameraRun.start r.segment (imageCalls r flipped fs)) before
    camera.out s .loadSeqlock = some (.seqlock v) →
    camera.out (camera.run s (.loadSeqlock :: between)) .loadSeqlock = some (.seqlock w) →
    v.toNat = 2 * k → w.toNat = 2 * k →
    ∃ f, fs[k - 1]? = some f
      ∧ ∀ p x, .place p x ∈ camera.trace s (.loadSeqlock :: between) → x = expected r f p
  /-- Once the render thread has the mutex for the pose of a frame, and goes through its accesses
  while others may ask for it, the segment holds that pose and its number. -/
  posePublished : r.publishesPose = true →
    ∀ (before es : List (LockStep PoseOp Empty)) (k : ℕ) (f : Frame K r.frameBytes),
    fs[k]? = some f → (∀ e ∈ es, e.Keeps) → 9 ≤ es.countP LockStep.isAccess →
    let M := (SharedPose.segment (poseCalls r fs)).interleaved
    let s := M.run ⟨{}, 0, none⟩ before
    let s' := M.run s (.acquire (.publish k) :: es ++ [.release])
    s.holder = none → s.rest = k →
      s'.holder = none ∧ s'.rest = k + 1 ∧ s'.shared.sequence.toNat = k + 1
        ∧ s'.shared.read = (poseCall f).value
  /-- A reader of the poses has read that of the frame counted last. -/
  pose : r.publishesPose = true → ∀ es : List (LockStep PoseOp Empty),
    SharedPose.Truthful (poseCalls r fs) 0
      ((SharedPose.segment (poseCalls r fs)).interleaved.trace ⟨{}, 0, none⟩ es)

/-- **A reader's picture.**  Under one even counter a reader reads of one frame only. -/
theorem read_of_frame (hstart : start host model headBodyId cfg = .ok r)
    {fs : List (Frame K r.frameBytes)} (hfew : fs.length < 2 ^ 63) {flipped : ℕ → UInt8}
    (before between : List (ImageEvent r.frameBytes)) {v w : UInt64} {k : ℕ} (hk : 0 < k) :
    let camera := CameraRun.machine (F := K) r.frameBytes
    let s := camera.run (CameraRun.start r.segment (imageCalls r flipped fs)) before
    camera.out s .loadSeqlock = some (.seqlock v) →
    camera.out (camera.run s (.loadSeqlock :: between)) .loadSeqlock = some (.seqlock w) →
    v.toNat = 2 * k → w.toNat = 2 * k →
    ∃ f, fs[k - 1]? = some f
      ∧ ∀ p x, .place p x ∈ camera.trace s (.loadSeqlock :: between) → x = expected r f p := by
  intro camera s hfirst hsecond hv hw
  obtain ⟨-, hbytes, -⟩ := dataSize_of_start hstart
  have hlength := length_imageCalls r fs flipped
  have hall := accepted_imageCalls hstart fs flipped
  obtain ⟨hinv, hsteps⟩ := CameraRun.steps_of_run (hlength ▸ hfew) hall before
    (inv_start hstart fs flipped)
  have hwhole := Seqlock.whole_of_steps hsteps (whole_start hstart fs flipped)
  have hv' := (congrArg UInt64.toNat (Loaded.seqlock.inj (Option.some.inj hfirst))).trans hv
  have hw' := (congrArg UInt64.toNat (Loaded.seqlock.inj (Option.some.inj hsecond))).trans hw
  have hle := CameraRun.le_length_of_even hinv hv'
  obtain ⟨c, hc⟩ : ∃ c, (imageCalls r flipped fs)[k - 1]? = some c :=
    ⟨_, List.getElem?_eq_getElem (by omega)⟩
  obtain ⟨f, hf, -, hvalue⟩ := imageCalls_getElem? r hbytes fs flipped hc
  refine ⟨f, hf, fun p x hread => ?_⟩
  rw [CameraRun.read_eq_frame (hlength ▸ hfew) hall hinv hwhole hk hv' hw' hread,
    CameraRun.frame, hc]
  exact hvalue p

/-- **A frame's picture is published.** -/
theorem imagePublished_of_start (hstart : start host model headBodyId cfg = .ok r)
    {fs : List (Frame K r.frameBytes)} (hfew : fs.length < 2 ^ 63) {flipped : ℕ → UInt8}
    {es : List (ImageEvent r.frameBytes)} {k : ℕ} {f : Frame K r.frameBytes} (hf : fs[k]? = some f)
    (hsteps : es.countP ImageEvent.isWriter = (k + 1) * (r.frameBytes + 9)) :
    let s := (CameraRun.machine (F := K) r.frameBytes).run
      (CameraRun.start r.segment (imageCalls r flipped fs)) es
    s.segment.seqlock.toNat = 2 * (k + 1) ∧ ∀ p, s.segment.read p = expected r f p := by
  obtain ⟨-, hbytes, hzero⟩ := dataSize_of_start hstart
  have hlength := length_imageCalls r fs flipped
  obtain ⟨hlt, -⟩ := List.getElem?_eq_some_iff.mp hf
  obtain ⟨hcounter, hread⟩ := CameraRun.published (hlength ▸ hfew)
    (accepted_imageCalls hstart fs flipped) hzero (inv_start hstart fs flipped)
    (hlength.symm ▸ hlt : k + 1 ≤ (imageCalls r flipped fs).length) hsteps
  have hc := List.getElem?_eq_getElem (hlength.symm ▸ hlt : k < (imageCalls r flipped fs).length)
  obtain ⟨f', hf', -, hvalue⟩ := imageCalls_getElem? r hbytes fs flipped hc
  obtain rfl := Option.some.inj (hf.symm.trans hf')
  refine ⟨hcounter, fun p => ?_⟩
  rw [hread (Nat.succ_pos k), CameraRun.frame_succ hc]
  exact hvalue p

/-- Poses are published when there is a segment for them and a head to look at. -/
theorem publishesPose_of_start (hstart : start host model headBodyId cfg = .ok r) :
    r.publishesPose = (cfg.poseSegment ≠ "" && host.poseThrows.isNone && headBodyId.isSome) := by
  simp only [start] at hstart
  split at hstart
  · exact nomatch hstart
  split at hstart
  · exact nomatch hstart
  split at hstart
  · exact nomatch hstart
  · exact nomatch hstart
  split at hstart
  · exact nomatch hstart
  split at hstart
  · exact nomatch hstart
  · obtain rfl := Except.ok.inj hstart
    rfl

/-- **From frame to reader.**  Once the render thread has started, every frame reaches the image
segment, and the pose segment too if there is one and a head to look at; and what a reader finds
there under the number `k`, whenever it looks, is of the `k`-th frame: the picture with its rows
from the top, whole, and the head pose of the same moment. -/
theorem segments_showFrames [DecidableEq K] (hstart : start host model headBodyId cfg = .ok r)
    (fs : List (Frame K r.frameBytes)) (hfew : fs.length < 2 ^ 63) (flipped : ℕ → UInt8) :
    ShowsFrames r fs flipped
      ∧ r.publishesPose
        = (cfg.poseSegment ≠ "" && host.poseThrows.isNone && headBodyId.isSome) := by
  have hposes (hpublishes : r.publishesPose = true) : poseCalls r fs = fs.map poseCall :=
    if_pos hpublishes
  have hfewPoses (hpublishes : r.publishesPose = true) : (poseCalls r fs).length < 2 ^ 64 := by
    rw [hposes hpublishes, List.length_map]
    exact hfew.trans (by decide)
  refine ⟨⟨fun es k f hf hsteps => imagePublished_of_start hstart hfew hf hsteps,
    fun before between v w k hk => read_of_frame hstart hfew before between hk,
    fun hpublishes before es k f hf hes hcount => ?_,
    fun hpublishes es => SharedPose.copies_whole (hfewPoses hpublishes) es⟩,
    publishesPose_of_start hstart⟩
  have hc : (poseCalls r fs)[k]? = some (poseCall f) := by
    rw [hposes hpublishes, List.getElem?_map, hf]
    rfl
  exact SharedPose.published_of_free (hfewPoses hpublishes) before hc hes hcount

/-! ## A picture of two pixels -/

/-- A camera that looks a right angle up and down. -/
def rightAngle : CameraModel ℝ where
  cameraId name := if name = "head" then some 0 else none
  camFovy _ := 90
  offwidth := 640
  offheight := 480

/-- Two pixels, one above the other. -/
def twoPixels : CameraYaml ℝ where
  width := some 1
  height := some 2

/-- The render thread, started. -/
noncomputable def twoPixelLoop : RenderLoop ℝ where
  segment :=
    { dataSize := 6
      width := 1
      height := 2
      encoding := "rgb8"
      intrinsics := fun _ => 0
      pixels := fun _ => 0 }
  publishesPose := true
  width := 1
  height := 2
  frameBytes := 6
  focalLengthNorm := focalLengthNorm 90 1 2
  fovRad := fovRad 90 1 2

theorem start_twoPixels :
    start {} rightAngle (some 1) (loadConfig twoPixels) = .ok twoPixelLoop := by
  rfl

/-- A white pixel under a black one, the head a metre above the base. -/
noncomputable def twoPixelFrame : Frame ℝ 6 where
  reading := ⟨⟨⟨0, 0, 1⟩, ⟨1, 0, 0, 0⟩⟩, ⟨0, 0, ⟨1, 0, 0, 0⟩⟩⟩
  raw i := if i < 3 then 255 else 0
  order := List.range 6
  order_perm := List.Perm.refl _

theorem segments_showTwoPixels :
    ShowsFrames twoPixelLoop [twoPixelFrame, twoPixelFrame] (fun _ => 0)
      ∧ twoPixelLoop.publishesPose = (("_head_pose" : String) ≠ "" && true && true) :=
  segments_showFrames start_twoPixels _ (by decide) _

end Camera

end K1Sim
