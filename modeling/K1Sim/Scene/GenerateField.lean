import K1Sim.Foundations.Numerals
import K1Sim.Shared.Mujoco
import K1Sim.Shared.RealLibc

/-!
# Scene/GenerateField — the generator of the pitch

`generate_field.py` prints the floor, the painted lines and the goals of a scene.  The model has the
geoms with their numbers before these are printed; what MuJoCo makes of them is what they cover.
-/

namespace K1Sim

/-- Python's `round` to an integer. -/
class PyRound (K : Type*) where
  round : K → ℤ

instance : PyRound ℚ := ⟨roundHalfEven⟩

noncomputable instance : PyRound ℝ := ⟨roundEven⟩

namespace GenerateField

/-- `Field`. -/
structure PitchField (K : Type*) where
  name : String
  length : K
  width : K
  lineWidth : K
  goalAreaLength : K
  goalAreaWidth : K
  penaltyAreaLength : K
  penaltyAreaWidth : K
  penaltyMarkDistance : K
  centreCircleDiameter : K
  cornerArcRadius : K
  markHalfLength : K
  goalpostCentreY : K
  goalHeight : K
  goalpostRadius : K
  border : K

/-- A box geom, turned about the vertical by the quaternion `(w, 0, 0, z)` if it has one. -/
structure Box (K : Type*) where
  x : K
  y : K
  halfX : K
  halfY : K
  quat : Option (K × K) := none

/-- A cylinder geom, by its ends. -/
structure Cylinder (K : Type*) where
  name : String
  start : Vec3 K
  stop : Vec3 K
  size : K

/-- The body of a goal. -/
structure GoalBody (K : Type*) where
  name : String
  pos : Vec3 K
  geoms : List (Cylinder K)

/-- What the generator prints. -/
structure Pitch (K : Type*) where
  halfX : K
  halfY : K
  markings : List (Box K)
  goals : List (GoalBody K)

section Generate

variable {K : Type*} [Field K] [Libc K]

/-- `FIELDS["kid"]`. -/
def kid : PitchField K where
  name := "kid-size"
  length := 9
  width := 6
  lineWidth := 5 / 100
  goalAreaLength := 1
  goalAreaWidth := 3
  penaltyAreaLength := 2
  penaltyAreaWidth := 5
  penaltyMarkDistance := 15 / 10
  centreCircleDiameter := 15 / 10
  cornerArcRadius := 0
  markHalfLength := 75 / 1000
  goalpostCentreY := 13 / 10
  goalHeight := 12 / 10
  goalpostRadius := 5 / 100
  border := 1

/-- `FIELDS["middle"]`. -/
def middle : PitchField K where
  name := "HSL M-Field"
  length := 14
  width := 9
  lineWidth := 5 / 100
  goalAreaLength := 1
  goalAreaWidth := 4
  penaltyAreaLength := 3
  penaltyAreaWidth := 6
  penaltyMarkDistance := 2
  centreCircleDiameter := 3
  cornerArcRadius := 5 / 10
  markHalfLength := 5 / 100
  goalpostCentreY := 13 / 10
  goalHeight := 18 / 10
  goalpostRadius := 5 / 100
  border := 1

/-- `SEGMENT_OVERLAP`. -/
def segmentOverlap : K := 115 / 100

/-- `SEGMENT_STEP`, nine degrees. -/
def segmentStep : K := 9 * (Libc.pi / 180)

/-- `arc`. -/
def arc (f : PitchField K) (cx cy radius start : K) (count : ℕ) : List (Box K) :=
  let half := radius * segmentStep / 2 * segmentOverlap
  (List.range count).map fun (i : ℕ) =>
    let theta := start + i * segmentStep
    -- the long axis of the box onto the tangent
    let heading := (theta + Libc.pi / 2) / 2
    { x := cx + radius * Libc.cos theta
      y := cy + radius * Libc.sin theta
      halfX := half
      halfY := f.lineWidth / 2
      quat := some (Libc.cos heading, Libc.sin heading) }

/-- `cross`. -/
def cross (f : PitchField K) (x : K) : List (Box K) :=
  let lw := f.lineWidth / 2
  [{ x := x, y := 0, halfX := f.markHalfLength, halfY := lw },
    { x := x, y := 0, halfX := lw, halfY := f.markHalfLength }]

/-- The touchlines, the goal lines and the halfway line. -/
def lines (f : PitchField K) : List (Box K) :=
  let lw := f.lineWidth / 2
  let hl := f.length / 2
  let hw := f.width / 2
  [{ x := 0, y := hw, halfX := hl, halfY := lw }, { x := 0, y := -hw, halfX := hl, halfY := lw },
    { x := hl, y := 0, halfX := lw, halfY := hw }, { x := -hl, y := 0, halfX := lw, halfY := hw },
    { x := 0, y := 0, halfX := lw, halfY := hw }]

/-- An area of a length and a width before both goals. -/
def area (f : PitchField K) (length width : K) : List (Box K) :=
  let lw := f.lineWidth / 2
  let hl := f.length / 2
  [1, -1].flatMap fun s =>
    [{ x := s * (hl - length), y := 0, halfX := lw, halfY := width / 2 },
      { x := s * (hl - length / 2), y := width / 2, halfX := length / 2, halfY := lw },
      { x := s * (hl - length / 2), y := -width / 2, halfX := length / 2, halfY := lw }]

/-- The corners, by the signs of their places. -/
def corners : List (K × K) := [(1, 1), (-1, 1), (-1, -1), (1, -1)]

/-- The quarter circle of a corner, inside the field. -/
def cornerArc [PyRound K] (f : PitchField K) (s : K × K) : List (Box K) :=
  let quarter := (PyRound.round (Libc.pi / 2 / segmentStep : K)).toNat
  let start := Libc.atan2 (-s.2) (-s.1) - Libc.pi / 4 + segmentStep / 2
  arc f (s.1 * (f.length / 2)) (s.2 * (f.width / 2)) f.cornerArcRadius start quarter

/-- `markings`. -/
def markings [PyRound K] [LinearOrder K] (f : PitchField K) : List (Box K) :=
  let markX := f.length / 2 - f.penaltyMarkDistance
  lines f
    ++ ([(f.goalAreaLength, f.goalAreaWidth), (f.penaltyAreaLength, f.penaltyAreaWidth)].flatMap
      fun a => area f a.1 a.2)
    ++ arc f 0 0 (f.centreCircleDiameter / 2) 0
      (PyRound.round (2 * Libc.pi / segmentStep : K)).toNat
    ++ (cross f 0 ++ cross f markX ++ cross f (-markX))
    ++ (if 0 < f.cornerArcRadius then corners.flatMap (cornerArc f) else [])

/-- `goal`. -/
def goal (f : PitchField K) (sign : ℤ) : GoalBody K :=
  let name := if 0 < sign then "goal_pos_x" else "goal_neg_x"
  let y := f.goalpostCentreY
  let h := f.goalHeight
  { name := name
    pos := ⟨sign * f.length / 2, 0, 0⟩
    geoms :=
      [⟨name ++ "_post1", ⟨0, y, 0⟩, ⟨0, y, h⟩, f.goalpostRadius⟩,
        ⟨name ++ "_post2", ⟨0, -y, 0⟩, ⟨0, -y, h⟩, f.goalpostRadius⟩,
        ⟨name ++ "_bar", ⟨0, -y, h⟩, ⟨0, y, h⟩, f.goalpostRadius⟩] }

/-- What is printed for a field. -/
def pitch [PyRound K] [LinearOrder K] (f : PitchField K) : Pitch K where
  halfX := f.length / 2 + f.border
  halfY := f.width / 2 + f.border
  markings := markings f
  goals := [1, -1].map (goal f)

/-- `FIELDS`. -/
def fields (name : String) : Option (PitchField K) :=
  if name = "kid" then some kid else if name = "middle" then some middle else none

/-- The program: one field by its name, or how to call it. -/
def main [PyRound K] [LinearOrder K] (argv : List String) : Except String (Pitch K) :=
  let usage := "usage: " ++ argv.headD "" ++ " \x7bkid,middle\x7d"
  match argv with
  | [_, name] => (fields name).elim (.error usage) fun f => .ok (pitch f)
  | _ => .error usage

example : main (K := ℚ) ["field.py", "adult"] = .error "usage: field.py \x7bkid,middle\x7d" := rfl

end Generate

/-! ## What the geoms cover -/

section Covers

variable {K : Type*} [Field K] [LinearOrder K]

/-- Where a box has an axis. -/
def Box.axis (m : Box K) (v : Vec3 K) : Vec3 K :=
  match m.quat with
  | none => v
  | some (w, z) => mjuRotVecQuat v ⟨w, 0, 0, z⟩

/-- What a box covers of the floor: what is no farther along each of its axes than half its size. -/
def Box.covers (m : Box K) : Set (K × K) :=
  {p |
    |(p.1 - m.x) * (m.axis ⟨1, 0, 0⟩).x + (p.2 - m.y) * (m.axis ⟨1, 0, 0⟩).y| ≤ m.halfX
      ∧ |(p.1 - m.x) * (m.axis ⟨0, 1, 0⟩).x + (p.2 - m.y) * (m.axis ⟨0, 1, 0⟩).y| ≤ m.halfY}

/-- The inner product. -/
def Vec3.dot (a b : Vec3 K) : K := a.x * b.x + a.y * b.y + a.z * b.z

/-- The difference. -/
def Vec3.sub (a b : Vec3 K) : Vec3 K := ⟨a.x - b.x, a.y - b.y, a.z - b.z⟩

/-- What lies between two ends and no farther from the axis through them than a radius. -/
def cylinder (start stop : Vec3 K) (radius : K) : Set (Vec3 K) :=
  {p |
    let axis := Vec3.sub stop start
    let q := Vec3.sub p start
    0 ≤ Vec3.dot q axis ∧ Vec3.dot q axis ≤ Vec3.dot axis axis
      ∧ Vec3.dot q q * Vec3.dot axis axis - Vec3.dot q axis ^ 2 ≤ radius ^ 2 * Vec3.dot axis axis}

/-- What boxes cover together. -/
def covered (l : List (Box K)) : Set (K × K) := {p | ∃ m ∈ l, p ∈ m.covers}

/-- What a goal takes up. -/
def GoalBody.covers (g : GoalBody K) : Set (Vec3 K) :=
  {p | ∃ c ∈ g.geoms, Vec3.sub p g.pos ∈ cylinder c.start c.stop c.size}

/-- What is painted. -/
def Pitch.painted (scene : Pitch K) : Set (K × K) := covered scene.markings

/-- What the goals take up. -/
def Pitch.woodwork (scene : Pitch K) : Set (Vec3 K) := {p | ∃ g ∈ scene.goals, p ∈ g.covers}

end Covers

end GenerateField

end K1Sim
