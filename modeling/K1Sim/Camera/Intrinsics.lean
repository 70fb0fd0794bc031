import K1Sim.Camera.RenderLoop
import K1Sim.Foundations.Sightlines

/-!
# Camera/Intrinsics — the published lens is the one that the picture was drawn with

The lens comes from the model's vertical angle and the configured size, the picture from MuJoCo,
bottom row first.  `pixels_unproject`: a reader that knows only the segment finds, for every byte,
the direction in which the scene had its colour, and the widest angle of the picture.
-/

namespace K1Sim

open Foundations

namespace Camera

/-! ## Bytes and where they lie -/

/-- The row of a byte. -/
def rowOf (width i : ℕ) : ℕ := i / (width * 3)

/-- The pixel of a byte in its row. -/
def columnOf (width i : ℕ) : ℕ := i % (width * 3) / 3

/-- The colour of a byte in its pixel. -/
def channelOf (i : ℕ) : ℕ := i % 3

theorem rowOf_mirror {width height i : ℕ} (hi : i < width * height * 3) :
    rowOf width (mirror width height i) = height - 1 - rowOf width i :=
  place_div (Nat.mod_lt i (width_pos hi))

theorem columnOf_mirror {width height i : ℕ} (hi : i < width * height * 3) :
    columnOf width (mirror width height i) = columnOf width i :=
  congrArg (· / 3) (place_mod (Nat.mod_lt i (width_pos hi)))

theorem channelOf_mirror (width height i : ℕ) :
    channelOf (mirror width height i) = channelOf i := by
  rw [channelOf, mirror, Nat.mul_add_mod_self_right,
    Nat.mod_mod_of_dvd _ (Nat.dvd_mul_left 3 width), channelOf]

/-! ## Drawing and looking up -/

variable {V : Type*} [NormedAddCommGroup V] [InnerProductSpace ℝ V]

/-- **MuJoCo draws a picture**, and `mjr_readPixels` reads it, bottom row first: half of it spans
half of the camera's vertical angle upwards and as much of a square to the side as the viewport is
wide, and each pixel has the colour in the direction of its middle. -/
def Drawn (view : View V) (colour : V → ℕ → UInt8) (fovy : ℝ) (width height : ℕ)
    (raw : ℕ → UInt8) : Prop :=
  ∀ i < width * height * 3,
    raw i = colour
      (view.ray
        ((2 * (columnOf width i + 1 / 2) / width - 1)
          * (Real.tan (fovy * Real.pi / 360) * (width / height)))
        ((2 * (rowOf width i + 1 / 2) / height - 1) * Real.tan (fovy * Real.pi / 360)))
      (channelOf i)

/-- The point that a reader takes a byte to be of: the middle of its pixel from the middle of the
picture, in focal lengths, the top row first. -/
noncomputable def unproject (focal : ℝ) (width height i : ℕ) : ℝ × ℝ :=
  ((columnOf width i + 1 / 2 - width / 2) / (focal * width),
    (height / 2 - (rowOf width i + 1 / 2)) / (focal * width))

/-- The points of the picture, in focal lengths. -/
def picture (focal : ℝ) (width height : ℕ) : Set (ℝ × ℝ) :=
  {p | |p.1| * (focal * width) ≤ width / 2 ∧ |p.2| * (focal * width) ≤ height / 2}

/-- **The segment tells what it shows**: under one even counter, the bytes have the colours of the
frame in the directions that the focal length read with them gives, and the angle read is the widest
between two points of the picture. -/
def ShowsScene (r : RenderLoop ℝ) (fs : List (Frame ℝ r.frameBytes)) (flipped : ℕ → UInt8)
    (view : ℕ → View V) (colour : ℕ → V → ℕ → UInt8) : Prop :=
  ∀ (before between : List (ImageEvent r.frameBytes)) (v w : UInt64) (k : ℕ), 0 < k →
    let camera := CameraRun.machine (F := ℝ) r.frameBytes
    let s := camera.run (CameraRun.start r.segment (imageCalls r flipped fs)) before
    camera.out s .loadSeqlock = some (.seqlock v) →
    camera.out (camera.run s (.loadSeqlock :: between)) .loadSeqlock = some (.seqlock w) →
    v.toNat = 2 * k → w.toNat = 2 * k →
    let reads := camera.trace s (.loadSeqlock :: between)
    ∀ focal, .place (.intrinsic .focalLength) (.float focal) ∈ reads →
      (∀ (i : Fin r.frameBytes) b, .place (.pixel i) (.byte b) ∈ reads →
        let p := unproject focal r.width r.height i
        b = colour (k - 1) ((view (k - 1)).ray p.1 p.2) (channelOf i))
      ∧ ∀ fov, .place (.intrinsic .fov) (.float fov) ∈ reads →
        IsGreatest ((view (k - 1)).angles (picture focal r.width r.height)) fov

/-! ## The lens -/

/-- Half of a vertical angle that MuJoCo takes is acute. -/
theorem tan_pos {fovy : ℝ} (hpos : 0 < fovy) (hlt : fovy < 180) :
    0 < Real.tan (fovy * Real.pi / 360) := by
  have hpi := Real.pi_pos
  exact Real.tan_pos_of_pos_of_lt_pi_div_two (by positivity) (by nlinarith)

variable {host : CameraHost} {model : CameraModel ℝ} {headBodyId : Option ℕ}
  {cfg : CameraConfig ℝ} {r : RenderLoop ℝ}

/-- A configured size that the segment was made for. -/
theorem cast_size {n : Int32} (hn : 0 < n.toInt) : (n.toInt : ℝ) = (n.toInt.toNat : ℝ) := by
  rw [← Int.cast_natCast, Int.toNat_of_nonneg hn.le]

/-- **The lens of a start**, in the size of its pictures. -/
theorem lens_of_start (hstart : start host model headBodyId cfg = .ok r) :
    0 < r.width ∧ 0 < r.height
      ∧ ∃ camId, model.cameraId cfg.mjcfCamera = some camId
        ∧ r.focalLengthNorm * r.width
          = r.height / (2 * Real.tan (model.camFovy camId * Real.pi / 360))
        ∧ r.fovRad = 2 * Real.arctan
          (1 / 2 * √(1 + r.height / r.width * (r.height / r.width)) / r.focalLengthNorm) := by
  obtain ⟨-, hcreate, hwidth, hheight, -, camId, hcam, hfocal, hfov⟩ := of_start hstart
  rw [SharedImage.create] at hcreate
  split_ifs at hcreate with hpos
  obtain ⟨hw, hh⟩ := not_or.mp hpos
  have hw' := cast_size (not_le.mp hw)
  have hh' := cast_size (not_le.mp hh)
  have hwpos : 0 < cfg.width.toInt.toNat := by omega
  refine ⟨by omega, by omega, camId, hcam, ?_, ?_⟩
  · have hne : (cfg.width.toInt.toNat : ℝ) ≠ 0 := by positivity
    have htan : model.camFovy camId * Real.pi / 180 * (1 / 2)
        = model.camFovy camId * Real.pi / 360 := by ring
    rw [hfocal, hwidth, hheight, focalLengthNorm, hw', hh', div_mul_cancel₀ _ hne]
    change _ * (1 / 2) / Real.tan (model.camFovy camId * Real.pi / 180 * (1 / 2)) = _
    rw [htan, mul_one_div, div_div]
  · rw [hfov, hfocal, hwidth, hheight, ← hw', ← hh']
    rfl

/-- **The byte of a drawn picture in the place it is published at.** -/
theorem raw_mirror {view : View V} {colour : V → ℕ → UInt8} {fovy focal : ℝ} {width height : ℕ}
    {raw : ℕ → UInt8} (hdrawn : Drawn view colour fovy width height raw)
    (htan : 0 < Real.tan (fovy * Real.pi / 360))
    (hfocal : focal * width = height / (2 * Real.tan (fovy * Real.pi / 360))) {i : ℕ}
    (hi : i < width * height * 3) :
    raw (mirror width height i)
      = colour (view.ray (unproject focal width height i).1 (unproject focal width height i).2)
        (channelOf i) := by
  have hrow := row_lt hi
  have hw : (width : ℝ) ≠ 0 := Nat.cast_ne_zero.mpr (by rintro rfl; simp at hi)
  have hh : (height : ℝ) ≠ 0 := Nat.cast_ne_zero.mpr (Nat.ne_zero_of_lt hrow)
  have hback : ((height - 1 - rowOf width i : ℕ) : ℝ) = height - 1 - rowOf width i := by
    have hle : rowOf width i + 1 ≤ height := hrow
    rw [Nat.sub_sub, Nat.add_comm 1, Nat.cast_sub hle]
    push_cast
    ring
  rw [hdrawn _ (mirror_lt hi), rowOf_mirror hi, columnOf_mirror hi, channelOf_mirror, hback,
    unproject, hfocal]
  congr 2
  · field_simp
  · field_simp
    ring

/-! ## The widest angle -/

/-- The upper right corner of the picture is as far from its middle as half its diagonal. -/
theorem corner_dist {focal : ℝ} (hfocal : 0 < focal) {width height : ℕ} (hw : 0 < width) :
    √((1 / 2 / focal) ^ 2 + (height / width / 2 / focal) ^ 2)
      = 1 / 2 * √(1 + height / width * (height / width)) / focal := by
  have hw' : (width : ℝ) ≠ 0 := by positivity
  have hsq : (1 / 2 / focal) ^ 2 + (height / width / 2 / focal) ^ 2
      = (1 / 2 / focal) ^ 2 * (1 + height / width * (height / width)) := by
    field_simp
  rw [hsq, Real.sqrt_mul (sq_nonneg _), Real.sqrt_sq (by positivity)]
  ring

/-- **The widest angle of the picture** is between opposite corners. -/
theorem isGreatest_picture (view : View V) {focal : ℝ} (hfocal : 0 < focal) {width height : ℕ}
    (hw : 0 < width) :
    IsGreatest (view.angles (picture focal width height))
      (2 * Real.arctan (1 / 2 * √(1 + height / width * (height / width)) / focal)) := by
  have hw' : (0 : ℝ) < width := by positivity
  have hs : 0 ≤ 1 / 2 / focal := by positivity
  have ht : 0 ≤ height / width / 2 / focal := by positivity
  have hcorner : (1 / 2 / focal, height / width / 2 / focal) ∈ picture focal width height := by
    refine ⟨le_of_eq ?_, le_of_eq ?_⟩
    · rw [abs_of_nonneg hs]
      field_simp
    · rw [abs_of_nonneg ht]
      field_simp
  rw [← corner_dist hfocal hw]
  refine view.isGreatest_angles hcorner ?_ fun p hp => ?_
  · exact hcorner.imp (abs_neg (1 / 2 / focal) ▸ ·) (abs_neg (height / width / 2 / focal) ▸ ·)
  · obtain ⟨hp₁, hp₂⟩ := hp
    have h₁ : |p.1| ≤ 1 / 2 / focal := by
      rw [le_div_iff₀ hfocal]
      nlinarith
    have h₂ : |p.2| ≤ height / width / 2 / focal := by
      rw [le_div_iff₀ hfocal, div_div, le_div_iff₀ (by positivity)]
      nlinarith
    exact add_le_add (sq_le_sq' (abs_le.mp h₁).1 (abs_le.mp h₁).2)
      (sq_le_sq' (abs_le.mp h₂).1 (abs_le.mp h₂).2)

/-! ## From the scene to the reader -/

/-- **A reader looks the scene up in the segment.**  Let the camera of the model have an angle that
MuJoCo takes, and every frame be drawn by it, each from where the head is and of the scene as it is.
Then the byte that a reader finds at a place, whenever it looks, is the colour in the direction that
the focal length it finds gives to the place, and the `fov` it finds is the widest angle of the
picture. -/
theorem pixels_unproject (hstart : start host model headBodyId cfg = .ok r)
    (fs : List (Frame ℝ r.frameBytes)) (hfew : fs.length < 2 ^ 63) (flipped : ℕ → UInt8)
    (view : ℕ → View V) (colour : ℕ → V → ℕ → UInt8) {fovy : ℝ}
    (hfovy : ∀ camId, model.cameraId cfg.mjcfCamera = some camId → model.camFovy camId = fovy)
    (hpos : 0 < fovy) (hlt : fovy < 180)
    (hdrawn : ∀ k f, fs[k]? = some f → Drawn (view k) (colour k) fovy r.width r.height f.raw) :
    ShowsScene r fs flipped view colour := by
  intro before between v w k hk camera s hfirst hsecond hv hw reads focal hfocal
  obtain ⟨f, hf, hread⟩ := read_of_frame hstart hfew before between hk hfirst hsecond hv hw
  obtain ⟨hwidth, hheight, camId, hcam, hlens, hfovRad⟩ := lens_of_start hstart
  obtain ⟨-, hbytes, -⟩ := dataSize_of_start hstart
  have htan := tan_pos hpos hlt
  have heq : focal = r.focalLengthNorm := Held.float.inj (hread _ _ hfocal)
  rw [hfovy camId hcam, ← heq] at hlens
  constructor
  · intro i b hb p
    rw [Held.byte.inj (hread _ _ hb)]
    exact raw_mirror (hdrawn _ f hf) htan hlens (hbytes ▸ i.isLt)
  · intro fov hfov
    have hfocalPos : 0 < focal := by
      have hmul : 0 < focal * r.width := by
        rw [hlens]
        positivity
      exact pos_of_mul_pos_left hmul (Nat.cast_nonneg _)
    have hfov' : fov = r.fovRad := Held.float.inj (hread _ _ hfov)
    rw [hfov', hfovRad, ← heq]
    exact isGreatest_picture (view (k - 1)) hfocalPos hwidth

/-! ## Two pixels, drawn -/

/-- The axes of MuJoCo's cameras: x to the right, y up, and looking against z. -/
noncomputable def mujocoView : View (EuclideanSpace ℝ (Fin 3)) where
  right := EuclideanSpace.single 0 1
  up := EuclideanSpace.single 1 1
  forward := EuclideanSpace.single 2 (-1)
  orthonormal := by
    rw [orthonormal_iff_ite]
    intro i j
    fin_cases i <;> fin_cases j <;> simp [EuclideanSpace.inner_single_left]

/-- Black above the horizon and white below it. -/
noncomputable def horizon (d : EuclideanSpace ℝ (Fin 3)) (_ : ℕ) : UInt8 :=
  if 0 < d 1 then 0 else 255

theorem drawn_twoPixels : Drawn mujocoView horizon 90 1 2 twoPixelFrame.raw := by
  intro i hi
  have htan : Real.tan (90 * Real.pi / 360) = 1 := by
    rw [← Real.tan_pi_div_four]
    ring_nf
  have hup : ∀ s t : ℝ, (mujocoView.ray s t) 1 = t := by
    intro s t
    simp [View.ray, View.offset, mujocoView]
  have hrow : (0 : ℝ) < (2 * (rowOf 1 i + 1 / 2) / (2 : ℕ) - 1) * 1 ↔ ¬ i < 3 := by
    obtain hlow | hhigh := Nat.lt_or_ge i 3
    · rw [rowOf, Nat.div_eq_of_lt hlow]
      norm_num [hlow]
    · have hone : i / (1 * 3) = 1 := Nat.div_eq_of_lt_le (by omega) (by omega)
      rw [rowOf, hone]
      norm_num
      exact hhigh
  rw [horizon, hup, htan]
  simp only [hrow, ite_not]
  rfl

theorem pixels_unproject_twoPixels :
    ShowsScene twoPixelLoop [twoPixelFrame, twoPixelFrame] (fun _ => 0) (fun _ => mujocoView)
      fun _ => horizon := by
  have hfovy : ∀ camId, rightAngle.cameraId "head" = some camId → rightAngle.camFovy camId = 90 :=
    fun _ _ => rfl
  refine pixels_unproject start_twoPixels _ (by decide) _ _ _ hfovy (by norm_num) (by norm_num) ?_
  intro k f hf
  have hmem : f ∈ List.replicate 2 twoPixelFrame := List.mem_of_getElem? hf
  obtain rfl := List.eq_of_mem_replicate hmem
  exact drawn_twoPixels

end Camera

end K1Sim
