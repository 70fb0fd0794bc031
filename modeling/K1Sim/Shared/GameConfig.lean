import K1Sim.Foundations.Numerals
import K1Sim.Shared.Libc
import Mathlib.Algebra.Order.Floor.Semiring
import Mathlib.Algebra.Order.WithTop.Untop0
import Mathlib.Data.List.Basic

/-!
# Shared/GameConfig — where the robots of a game start

`spreadInHalf` spreads robots through one half of the field by Lloyd relaxation, and `game` lists
the spawns of both teams.  Reals are exact; `std::hypot` is only ever compared, so distances are
kept as their squares.  An access out of the bounds of a vector gives no result.
-/

namespace K1Sim

namespace Config

variable {K : Type*} [Field K]

/-- A position, `std::array<double, 2>`. -/
abbrev Point (K : Type*) := K × K

/-- The square of `std::hypot` of the difference. -/
def distSq (p q : Point K) : K := (p.1 - q.1) * (p.1 - q.1) + (p.2 - q.2) * (p.2 - q.2)

/-- `STEP`. -/
def gridStep : K := 1 / 10

section Spread

variable [LinearOrder K]

/-! ## The samples -/

/-- `for (x = start; x < stop; x += STEP)`, for at most so many iterations. -/
def gridLine (stop : K) : ℕ → K → List K
  | 0, _ => []
  | n + 1, x => if x < stop then x :: gridLine stop n (x + gridStep) else []

/-- `std::hypot(x, y) > radius`. -/
def Outside (radius : K) (p : Point K) : Prop :=
  radius < 0 ∨ radius * radius < p.1 * p.1 + p.2 * p.2

instance (radius : K) (p : Point K) : Decidable (Outside radius p) :=
  inferInstanceAs (Decidable (_ ∨ _))

/-- A loop over a coordinate, with as many iterations as it takes. -/
def gridAxis [FloorSemiring K] (start stop : K) : List K :=
  gridLine stop ⌈(stop - start) / gridStep⌉₊ start

/-- `samples`: the grid on the half, without the centre circle. -/
def samples [FloorSemiring K] (length width circleRadius : K) : List (Point K) :=
  (gridAxis (-length / 2 + gridStep / 2) 0).flatMap fun x =>
    ((gridAxis (-width / 2 + gridStep / 2) (width / 2)).map (x, ·)).filter fun p =>
      Outside circleRadius p

/-! ## The relaxation -/

/-- `nearest`: the smallest squared distance to a robot, `INFINITY` without one, and the first robot
at it. -/
def nearest (robots : List (Point K)) (p : Point K) : WithTop K × ℕ :=
  robots.zipIdx.foldl
    (fun best robot =>
      let d : K := distSq p robot.1
      if d < best.1 then (↑d, robot.2) else best)
    (⊤, 0)

/-- The first sample farthest from every robot so far; `samples.front()` must exist. -/
def farthestSample (samples robots : List (Point K)) : Option (Point K) :=
  match samples with
  | [] => none
  | first :: _ => some
      (samples.foldl
        (fun farthest p =>
          if farthest.1 < (nearest robots p).1 then ((nearest robots p).1, p) else farthest)
        (((-1 : K) : WithTop K), first)).2

/-- The seeding: one farthest sample after the other. -/
def seed (samples : List (Point K)) : ℕ → List (Point K) → Option (List (Point K))
  | 0, robots => some robots
  | free + 1, robots =>
    (farthestSample samples robots).bind fun pick => seed samples free (robots ++ [pick])

/-- An entry of `sums`: the coordinates of the samples of a robot, and their number. -/
structure CellSum (K : Type*) where
  x : K
  y : K
  n : K

/-- A sample added to the sums of its nearest robot, which must exist. -/
def addSample (robots : List (Point K)) (sums : ℕ → CellSum K) (p : Point K) :
    Option (ℕ → CellSum K) :=
  let index := (nearest robots p).2
  if index < robots.length then
    some (Function.update sums index
      ⟨(sums index).x + p.1, (sums index).y + p.2, (sums index).n + 1⟩)
  else none

/-- One iteration: each free robot with samples moves to their centroid. -/
def relax (fixedCount : ℕ) (samples robots : List (Point K)) : Option (List (Point K)) :=
  (samples.foldlM (addSample robots) fun _ => ⟨0, 0, 0⟩).map fun sums =>
    robots.mapIdx fun r robot =>
      if fixedCount ≤ r ∧ 0 < (sums r).n then
        ((sums r).x / (sums r).n, (sums r).y / (sums r).n)
      else robot

/-- The robots after so many iterations. -/
def relaxN (fixedCount : ℕ) (samples robots : List (Point K)) : ℕ → Option (List (Point K))
  | 0 => some robots
  | iter + 1 => (relaxN fixedCount samples robots iter).bind (relax fixedCount samples)

/-- `spread_in_half`. -/
def spreadInHalf [FloorSemiring K] (fixed : List (Point K)) (free : ℕ)
    (length width circleRadius : K) : Option (List (Point K)) :=
  let samples := samples length width circleRadius
  (seed samples free fixed).bind fun robots =>
    (relaxN fixed.length samples robots 100).map (·.drop fixed.length)

end Spread

/-! ## A game -/

/-- A spawn: position and yaw. -/
structure Spawn (K : Type*) where
  x : K
  y : K
  yaw : K

omit [Field K] in
/-- The position of a spawn. -/
def Spawn.position (s : Spawn K) : Point K := (s.x, s.y)

/-- The node `game` of `simulation.yaml`. -/
structure GameNode (K : Type*) where
  field : String
  length : K
  width : K
  centreCircleRadius : K
  penaltyMarkDistance : K
  attacker : Point K
  goalkeeper : Point K
  wings : List (Point K)
  sidelineOffset : K
  sidelineSpacing : K

/-- `Game`. -/
structure Game (K : Type*) where
  field : String
  spawns : List (Spawn K)

/-- The place of robot `i` along its side, from the penalty mark. -/
def slot (i : ℕ) : ℕ := i / 4 * 2 + i % 2

/-- The side of robot `i`. -/
def touchline (i : ℕ) : K := if i / 2 % 2 = 0 then -1 else 1

omit [Field K] in
/-- The positions taken first in a kickoff. -/
def kickoffFixed (cfg : GameNode K) (n : ℕ) : List (Point K) :=
  (cfg.attacker :: cfg.goalkeeper :: cfg.wings).take n

variable [Libc K]

/-- Robot `i` lined up off the touchlines. -/
def lineUp (cfg : GameNode K) (i : ℕ) : Spawn K :=
  let firstX := -cfg.length / 2 + cfg.penaltyMarkDistance
  let sideY := cfg.width / 2 + cfg.sidelineOffset
  { x := firstX + slot i * cfg.sidelineSpacing
    y := touchline i * sideY
    yaw := -touchline i * Libc.pi / 2 }

/-- The place of the other team's robot. -/
def mirror (s : Spawn K) : Spawn K := ⟨-s.x, -s.y, s.yaw + Libc.pi⟩

variable [LinearOrder K] [FloorSemiring K]

/-- One team, in its own half. -/
def team (cfg : GameNode K) (n : ℕ) (onField : Bool) : Option (List (Spawn K)) :=
  if onField then
    let fixed := kickoffFixed cfg n
    (spreadInHalf fixed (n - fixed.length) cfg.length cfg.width cfg.centreCircleRadius).map
      fun rest => (fixed ++ rest).map fun p => ⟨p.1, p.2, 0⟩
  else some ((List.range n).map (lineUp cfg))

/-- `game`. -/
def game (cfg : GameNode K) (n : ℕ) (onField : Bool) : Option (Game K) :=
  (team cfg n onField).map fun team => ⟨cfg.field, team ++ team.map mirror⟩

end Config

end K1Sim
