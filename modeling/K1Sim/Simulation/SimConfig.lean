import K1Sim.Locomotion.Controller
import K1Sim.Shared.CliOptions
import K1Sim.Shared.GameConfig
import K1Sim.Simulation.RobotPlacement

/-!
# Simulation/SimConfig — from the command line to the robots on the field

`buildSimConfig` merges the options with `simulation.yaml` and `gains.yaml`.  Whatever the command
line, `load_model` and `place_robots` then find a spawn for every robot they place; and where there
is no game the slots of the default grid are on every field, clear of the line that the main robot
and the ball start on, and a robot's width apart (`wellSpawned_of_argv`).
-/

namespace K1Sim

open Foundations CliOptions

/-- The node `surface` of `simulation.yaml`. -/
structure SurfaceYaml (K : Type) where
  enabled : Option Bool := none
  friction : Option K := none
  solrefTimeconst : Option K := none
  solrefDampratio : Option K := none

/-- The nodes of `simulation.yaml` that `build_sim_config` reads. -/
structure SimulationYaml (K : Type) where
  field : Option String
  fields : List (String × String)
  game : Option (Config.GameNode K)
  initialKeyframe : Option String := none
  realTimeFactor : Option K := none
  statePublishDivisor : Option ℤ := none
  resyncThreshold : Option K := none
  surface : SurfaceYaml K := {}
  footLog : Option String := none

/-- `SimCore::Config::Surface`. -/
structure Surface (K : Type*) where
  enabled : Bool
  friction : K
  solrefTimeconst : K
  solrefDampratio : K

/-- `SimCore::Config`. -/
structure SimConfig (K : Type) where
  modelPath : String
  initialKeyframe : String
  rtf : K
  robots : ℤ
  spawns : List (Spawn K)
  statePublishDivisor : ℤ
  resyncThreshold : K
  surface : Surface K
  footLogPath : String
  kp : JointArray K
  kd : JointArray K
  readyPoseFallback : JointArray K

namespace SimConfig

variable {K : Type}

/-- What `load_model` and `reset` read of it. -/
def toConfig (cfg : SimConfig K) : SimCore.Config K where
  initialKeyframe := cfg.initialKeyframe
  robots := cfg.robots
  spawns := cfg.spawns
  readyPoseFallback := cfg.readyPoseFallback

/-- `as<T>()`: a node that is missing throws. -/
def required {α : Type} : Option α → Except Stop α
  | some a => .ok a
  | none => .error (.uncaught "YAML::TypedBadConversion")

/-- The first `jointCount` values of a node. -/
def requiredJoints (node : Option (List K)) : Except Stop (JointArray K) :=
  let values := node.getD []
  if h : jointCount ≤ values.length then .ok fun i => values.get ⟨i.val, i.isLt.trans_le h⟩
  else .error (.uncaught "YAML::TypedBadConversion")

/-- `field_scene`. -/
def fieldScene (yaml : SimulationYaml K) (field : String) : Except Stop String := do
  let field ← if field = "" then required yaml.field else .ok field
  match yaml.fields.lookup field with
  | some scene => .ok scene
  | none =>
    .error (.error ("unknown field '" ++ field ++ "' (known:"
      ++ String.join (yaml.fields.map fun entry => " " ++ entry.1) ++ ")"))

variable [Field K] [LinearOrder K] [FloorSemiring K] [Libc K]

/-- The scene, the robots and their spawns: of the game, or of the options. -/
def fieldAndRobots (o : CliOptions K) (yaml : SimulationYaml K) :
    Except Stop (String × ℤ × List (Spawn K)) :=
  if 0 < o.game then do
    let node ← required yaml.game
    let game ← required (Config.game node o.game.toNat o.onFieldPositions)
    let scene ← fieldScene yaml game.field
    return (scene, game.spawns.length, game.spawns.map fun s => ⟨s.x, s.y, s.yaw⟩)
  else do
    let scene ← fieldScene yaml o.field
    return (scene, o.robots, [])

/-- `build_sim_config`. -/
def build (o : CliOptions K) (yaml : SimulationYaml K)
    (gains : LocomotionController.GainsYaml K) : Except Stop (SimConfig K) := do
  let robots ← fieldAndRobots o yaml
  let kp ← requiredJoints gains.kp
  let kd ← requiredJoints gains.kd
  let readyPose ← requiredJoints gains.readyPose
  return {
    modelPath := robots.1
    initialKeyframe := if o.keyframe ≠ "" then o.keyframe else yaml.initialKeyframe.getD "ready"
    rtf := if 0 ≤ o.rtf then o.rtf else yaml.realTimeFactor.getD 1
    robots := robots.2.1
    spawns := robots.2.2
    statePublishDivisor := yaml.statePublishDivisor.getD 20
    resyncThreshold := yaml.resyncThreshold.getD (5 / 100)
    surface :=
      { enabled := yaml.surface.enabled.getD false
        friction := yaml.surface.friction.getD (8 / 10)
        solrefTimeconst := yaml.surface.solrefTimeconst.getD (2 / 100)
        solrefDampratio := yaml.surface.solrefDampratio.getD 1 }
    footLogPath := yaml.footLog.getD ""
    kp := kp
    kd := kd
    readyPoseFallback := readyPose }

end SimConfig

/-! ## The robots of a game -/

namespace Config

variable {K : Type*} [Field K] [LinearOrder K]

theorem length_seed {samples robots seeded : List (Point K)} {free : ℕ}
    (h : seed samples free robots = some seeded) : seeded.length = robots.length + free := by
  induction free generalizing robots with
  | zero =>
    obtain rfl := Option.some.inj h
    rfl
  | succ free ih =>
    obtain ⟨pick, -, hrest⟩ := Option.bind_eq_some_iff.mp h
    rw [ih hrest, List.length_append, List.length_singleton]
    omega

theorem length_relaxN {fixedCount iter : ℕ} {samples robots relaxed : List (Point K)}
    (h : relaxN fixedCount samples robots iter = some relaxed) :
    relaxed.length = robots.length := by
  induction iter generalizing relaxed with
  | zero =>
    obtain rfl := Option.some.inj h
    rfl
  | succ iter ih =>
    obtain ⟨before, hbefore, hlast⟩ := Option.bind_eq_some_iff.mp h
    obtain ⟨sums, -, rfl⟩ := Option.map_eq_some_iff.mp hlast
    rw [List.length_mapIdx, ih hbefore]

variable [FloorSemiring K]

theorem length_spreadInHalf {fixed free : List (Point K)} {n : ℕ} {length width radius : K}
    (h : spreadInHalf fixed n length width radius = some free) : free.length = n := by
  obtain ⟨seeded, hseed, hrelax⟩ := Option.bind_eq_some_iff.mp h
  obtain ⟨relaxed, hrun, rfl⟩ := Option.map_eq_some_iff.mp hrelax
  rw [List.length_drop, length_relaxN hrun, length_seed hseed]
  omega

variable [Libc K]

/-- **A team has as many robots as were asked for.** -/
theorem length_team {cfg : GameNode K} {n : ℕ} {onField : Bool} {spawns : List (Spawn K)}
    (h : team cfg n onField = some spawns) : spawns.length = n := by
  rw [team] at h
  split_ifs at h
  · obtain ⟨rest, hspread, rfl⟩ := Option.map_eq_some_iff.mp h
    have hfixed : (kickoffFixed cfg n).length ≤ n := List.length_take_le ..
    rw [List.length_map, List.length_append, length_spreadInHalf hspread]
    omega
  · obtain rfl := Option.some.inj h
    rw [List.length_map, List.length_range]

/-- **A game has two teams.** -/
theorem length_game {cfg : GameNode K} {n : ℕ} {onField : Bool} {g : Game K}
    (h : game cfg n onField = some g) : g.spawns.length = n + n := by
  obtain ⟨spawns, hteam, rfl⟩ := Option.map_eq_some_iff.mp h
  rw [List.length_append, List.length_map, length_team hteam]

end Config

namespace SimCore

/-! ## The default grid -/

variable {K : Type*} [Field K]

/-- The side of the field that a row of the grid is on. -/
def rowSide (k : ℕ) : K := if (k - 1) / 5 % 2 = 0 then 1 else -1

/-- How far out a row of the grid is, in steps of 1.2 m. -/
def rowLevel (k : ℕ) : ℕ := 1 + (k - 1) / 5 / 2

theorem extraSpawn_x (k : ℕ) : (extraSpawn k : Vec3 K).x = -3 + 3 / 2 * ((k - 1) % 5 : ℕ) := rfl

theorem extraSpawn_y (k : ℕ) : (extraSpawn k : Vec3 K).y = rowSide k * (6 / 5 * rowLevel k) := by
  rw [rowLevel, Nat.cast_add, Nat.cast_one, mul_add, mul_one]
  rfl

variable [LinearOrder K] [IsStrictOrderedRing K]

theorem abs_rowSide (k : ℕ) : |(rowSide k : K)| = 1 := by
  rw [rowSide]
  split_ifs
  · exact abs_one
  · rw [abs_neg, abs_one]

/-- **The slots are clear of the line that the main robot and the ball start on.** -/
theorem le_abs_extraSpawn_y (k : ℕ) : 6 / 5 ≤ |(extraSpawn k : Vec3 K).y| := by
  have hlevel : (1 : K) ≤ rowLevel k := by
    rw [← Nat.cast_one, Nat.cast_le]
    exact Nat.le_add_right 1 _
  rw [extraSpawn_y, abs_mul, abs_rowSide, one_mul, abs_of_nonneg (by positivity)]
  linarith

/-- The slots of the first twenty robots are on the smallest of the fields. -/
theorem extraSpawn_onField {k : ℕ} (hk : k < 20) :
    |(extraSpawn k : Vec3 K).x| ≤ 3 ∧ |(extraSpawn k : Vec3 K).y| ≤ 12 / 5 := by
  have hcol : (((k - 1) % 5 : ℕ) : K) ≤ 4 := by
    exact_mod_cast (by omega : (k - 1) % 5 ≤ 4)
  have hnonneg : (0 : K) ≤ ((k - 1) % 5 : ℕ) := Nat.cast_nonneg _
  have hlevel : (rowLevel k : K) ≤ 2 := by
    exact_mod_cast (by rw [rowLevel]; omega : rowLevel k ≤ 2)
  constructor
  · rw [extraSpawn_x, abs_le]
    constructor <;> linarith
  · rw [extraSpawn_y, abs_mul, abs_rowSide, one_mul, abs_of_nonneg (by positivity)]
    linarith

theorem one_le_abs_sub_natCast {a b : ℕ} (h : a ≠ b) : (1 : K) ≤ |(a : K) - b| := by
  have hint : (1 : ℤ) ≤ |(a : ℤ) - b| := Int.one_le_abs (sub_ne_zero.mpr (Nat.cast_injective.ne h))
  exact_mod_cast hint

/-- **Different copies have slots a robot's width apart.** -/
theorem extraSpawn_apart {k k' : ℕ} (hk : 1 ≤ k) (hk' : 1 ≤ k') (hne : k ≠ k') :
    6 / 5 ≤ |(extraSpawn k : Vec3 K).x - (extraSpawn k').x|
      ∨ 6 / 5 ≤ |(extraSpawn k : Vec3 K).y - (extraSpawn k').y| := by
  by_cases hcol : (k - 1) % 5 = (k' - 1) % 5
  · right
    rw [extraSpawn_y, extraSpawn_y]
    by_cases hside : (k - 1) / 5 % 2 = (k' - 1) / 5 % 2
    · -- one side: the rows are at different levels
      have hsame : (rowSide k : K) = rowSide k' := by rw [rowSide, rowSide, hside]
      have hlevel : rowLevel k ≠ rowLevel k' := by
        rw [rowLevel, rowLevel]
        omega
      have hgap := one_le_abs_sub_natCast (K := K) hlevel
      rw [hsame, ← mul_sub, ← mul_sub, abs_mul, abs_mul, abs_rowSide, one_mul]
      rw [abs_of_pos (by norm_num : (0 : K) < 6 / 5)]
      linarith
    · -- either side: each is as far out as its level
      have hopposite : (rowSide k' : K) = -rowSide k := by
        rw [rowSide, rowSide]
        split_ifs <;> first | omega | simp
      have hlevel : (1 : K) ≤ rowLevel k + rowLevel k' := by
        exact_mod_cast (by rw [rowLevel]; omega : 1 ≤ rowLevel k + rowLevel k')
      rw [hopposite, neg_mul, sub_neg_eq_add, ← mul_add, ← mul_add, abs_mul, abs_rowSide, one_mul,
        abs_of_nonneg (by positivity)]
      linarith
  · left
    have hgap := one_le_abs_sub_natCast (K := K) hcol
    rw [extraSpawn_x, extraSpawn_x, add_sub_add_left_eq_sub, ← mul_sub, abs_mul,
      abs_of_pos (by norm_num : (0 : K) < 3 / 2)]
    linarith

/-- The prefixed names of the copies fit their buffer of sixteen characters. -/
theorem length_extraPrefix {k : ℕ} (hk : k < 100) : (extraPrefix k).length = 6 := by
  have hall : ∀ k < 100, (extraPrefix k).length = 6 := by decide +kernel
  exact hall k hk

end SimCore

namespace SimConfig

variable {K : Type} [Field K] [LinearOrder K] [FloorSemiring K] [Libc K]

/-- **There is a place for every robot**: in a game a spawn for each and no other, and otherwise
slots of the default grid, on the field, clear of its middle line and apart from each other. -/
structure WellSpawned (o : CliOptions K) (cfg : SimConfig K) : Prop where
  robots : 1 ≤ cfg.robots ∧ cfg.robots ≤ 22
  names : ∀ k : ℕ, k < cfg.robots → (SimCore.extraPrefix k).length < 16
  counts : 0 < o.game ∧ cfg.robots = o.game + o.game ∧ (cfg.spawns.length : ℤ) = cfg.robots
    ∨ ¬ 0 < o.game ∧ cfg.robots = o.robots ∧ cfg.spawns = []
  game : 0 < o.game → ∀ k : ℕ, k < cfg.robots → ∃ s, cfg.spawns[k]? = some s
    ∧ SimCore.spawnPose cfg.toConfig k = ⟨s.x, s.y, SimCore.standZ, s.yaw⟩
  grid : ¬ 0 < o.game → ∀ k : ℕ, 1 ≤ k → k < cfg.robots →
    |(SimCore.spawnPose cfg.toConfig k).x| ≤ 3 ∧ 6 / 5 ≤ |(SimCore.spawnPose cfg.toConfig k).y|
      ∧ |(SimCore.spawnPose cfg.toConfig k).y| ≤ 12 / 5
  apart : ¬ 0 < o.game → ∀ k k' : ℕ, 1 ≤ k → 1 ≤ k' → k ≠ k' →
    6 / 5 ≤ |(SimCore.spawnPose cfg.toConfig k).x - (SimCore.spawnPose cfg.toConfig k').x|
      ∨ 6 / 5 ≤ |(SimCore.spawnPose cfg.toConfig k).y - (SimCore.spawnPose cfg.toConfig k').y|

omit [Field K] [LinearOrder K] [FloorSemiring K] [Libc K] in
theorem required_eq_ok_iff {α : Type} {x : Option α} {a : α} : required x = .ok a ↔ x = some a := by
  cases x <;> simp [required]

/-- What the robots and their spawns come to. -/
theorem robots_of_build {o : CliOptions K} {yaml : SimulationYaml K}
    {gains : LocomotionController.GainsYaml K} {cfg : SimConfig K}
    (h : build o yaml gains = .ok cfg) :
    (0 < o.game ∧ cfg.robots = o.game + o.game ∧ (cfg.spawns.length : ℤ) = cfg.robots)
      ∨ (¬ 0 < o.game ∧ cfg.robots = o.robots ∧ cfg.spawns = []) := by
  obtain ⟨⟨scene, robots, spawns⟩, hrobots, h⟩ := bind_eq_ok_iff.mp h
  obtain ⟨kp, -, h⟩ := bind_eq_ok_iff.mp h
  obtain ⟨kd, -, h⟩ := bind_eq_ok_iff.mp h
  obtain ⟨readyPose, -, h⟩ := bind_eq_ok_iff.mp h
  obtain rfl := Except.ok.inj h
  rw [fieldAndRobots] at hrobots
  split_ifs at hrobots with hgame
  · obtain ⟨node, -, hrobots⟩ := bind_eq_ok_iff.mp hrobots
    obtain ⟨game, hmade, hrobots⟩ := bind_eq_ok_iff.mp hrobots
    obtain ⟨scene, -, hrobots⟩ := bind_eq_ok_iff.mp hrobots
    cases Except.ok.inj hrobots
    have hlength : game.spawns.length = o.game.toNat + o.game.toNat :=
      Config.length_game (required_eq_ok_iff.mp hmade)
    refine .inl ⟨hgame, ?_, ?_⟩
    · change (game.spawns.length : ℤ) = o.game + o.game
      omega
    · rw [List.length_map]
  · obtain ⟨scene, -, hrobots⟩ := bind_eq_ok_iff.mp hrobots
    cases Except.ok.inj hrobots
    exact .inr ⟨hgame, rfl, rfl⟩

omit [LinearOrder K] [FloorSemiring K] [Libc K] in
theorem spawnPose_of_nil {cfg : SimConfig K} (h : cfg.spawns = []) (k : ℕ) :
    SimCore.spawnPose cfg.toConfig k
      = ⟨(SimCore.extraSpawn k).x, (SimCore.extraSpawn k).y, (SimCore.extraSpawn k).z, 0⟩ := by
  rw [SimCore.spawnPose, if_neg]
  exact not_not_intro h

omit [LinearOrder K] [FloorSemiring K] [Libc K] in
theorem spawnPose_of_lt {cfg : SimConfig K} {k : ℕ} (h : k < cfg.spawns.length) :
    SimCore.spawnPose cfg.toConfig k
      = ⟨cfg.spawns[k].x, cfg.spawns[k].y, SimCore.standZ, cfg.spawns[k].yaw⟩ := by
  have hspawns : cfg.toConfig.spawns ≠ [] := List.ne_nil_of_length_pos (Nat.zero_lt_of_lt h)
  have hget : cfg.toConfig.spawns.getD k ⟨0, 0, 0⟩ = cfg.spawns[k] := by
    rw [List.getD_eq_getElem?_getD, show cfg.toConfig.spawns[k]? = some cfg.spawns[k] from
      List.getElem?_eq_getElem h]
    rfl
  rw [SimCore.spawnPose, if_pos hspawns]
  dsimp only
  rw [hget]

variable [IsStrictOrderedRing K]

/-- **Whatever the command line, there is a place for every robot.** -/
theorem wellSpawned_of_argv {stod : String → Except Stop K} {args : List String}
    {o : CliOptions K} {yaml : SimulationYaml K} {gains : LocomotionController.GainsYaml K}
    {cfg : SimConfig K} (hcli : parseCli stod args = .ok o)
    (hbuild : build o yaml gains = .ok cfg) : WellSpawned o cfg := by
  obtain ⟨⟨-, hmost⟩, ⟨hlo, hhi⟩, -, -, -⟩ := wellFormed_of_parseCli hcli
  rw [maxGameSize] at hmost
  rw [maxRobots] at hhi
  have hcases := robots_of_build hbuild
  have hrobots : 1 ≤ cfg.robots ∧ cfg.robots ≤ 22 := by omega
  have hlength (hgame : 0 < o.game) : (cfg.spawns.length : ℤ) = cfg.robots := by
    rcases hcases with ⟨-, -, hlength⟩ | ⟨hnone, -⟩
    · exact hlength
    · exact absurd hgame hnone
  have hnil (hnone : ¬ 0 < o.game) : cfg.spawns = [] ∧ cfg.robots ≤ 20 := by
    rcases hcases with ⟨hgame, -⟩ | ⟨-, hcount, hnil⟩
    · exact absurd hgame hnone
    · exact ⟨hnil, by omega⟩
  refine ⟨hrobots, fun k hk => ?_, hcases, fun hgame k hk => ?_, fun hnone k hone hk => ?_,
    fun hnone k k' hk hk' hne => ?_⟩
  · rw [SimCore.length_extraPrefix (by omega)]
    decide
  · have hlt : k < cfg.spawns.length := by
      have := hlength hgame
      omega
    exact ⟨cfg.spawns[k], List.getElem?_eq_getElem hlt, spawnPose_of_lt hlt⟩
  · rw [spawnPose_of_nil (hnil hnone).1]
    have hfield := SimCore.extraSpawn_onField (K := K) (k := k) (by have := (hnil hnone).2; omega)
    exact ⟨hfield.1, SimCore.le_abs_extraSpawn_y k, hfield.2⟩
  · rw [spawnPose_of_nil (hnil hnone).1, spawnPose_of_nil (hnil hnone).1]
    exact SimCore.extraSpawn_apart hk hk' hne

/-! ## A game of two robots a side -/

/-- The game of `simulation.yaml`. -/
def middleYaml : SimulationYaml ℚ where
  field := some "middle"
  fields := [("middle", "models/k1/k1_scene_robocup_middle.xml")]
  game := some
    { field := "middle"
      length := 14
      width := 9
      centreCircleRadius := 3 / 2
      penaltyMarkDistance := 2
      attacker := (-2, 0)
      goalkeeper := (-13 / 2, 0)
      wings := [(-3, 5 / 2), (-3, -5 / 2)]
      sidelineOffset := 3 / 10
      sidelineSpacing := 8 / 10 }

/-- Gains, and a pose, of one number each. -/
def evenGains : LocomotionController.GainsYaml ℚ where
  readyPose := some (List.replicate jointCount 0)
  kp := some (List.replicate jointCount 80)
  kd := some (List.replicate jointCount 2)

/-- `--rtf 0 --game 2`. -/
theorem wellSpawned_of_game :
    ∃ o cfg, parseCli (fun _ => .ok (0 : ℚ)) ["--rtf", "0", "--game", "2"] = .ok o
      ∧ build o middleYaml evenGains = .ok cfg ∧ WellSpawned o cfg := by
  have hcli : parseCli (fun _ => .ok (0 : ℚ)) ["--rtf", "0", "--game", "2"]
      = .ok { rtf := 0, game := 2 } := rfl
  obtain ⟨cfg, hbuild⟩ : ∃ cfg, build { rtf := (0 : ℚ), game := 2 } middleYaml evenGains
      = .ok cfg := ⟨_, rfl⟩
  exact ⟨_, cfg, hcli, hbuild, wellSpawned_of_argv hcli hbuild⟩

end SimConfig

end K1Sim
