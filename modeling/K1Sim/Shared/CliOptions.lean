import K1Sim.Foundations.Fallible
import K1Sim.Foundations.Numerals
import Mathlib.Algebra.Field.Basic
import Mathlib.Algebra.Order.Ring.Int
import Mathlib.Data.List.Basic
import Mathlib.Data.List.TakeWhile

/-!
# Shared/CliOptions — the command line

`parseCli` reads the arguments one after the other, a flag with a value taking the next one as well.
`accepted_iff`: the arguments it accepts are those that spell settings without a conflict, the last
setting of a flag counting, and the options it can return are exactly the well-formed ones.
-/

namespace K1Sim

/-- `CliOptions`. -/
structure CliOptions (K : Type) [Field K] where
  headless : Bool := false
  field : String := ""
  game : ℤ := 0
  onFieldPositions : Bool := false
  configDir : String := ""
  keyframe : String := ""
  rtf : K := -1
  robots : ℤ := 1

namespace CliOptions

/-- `MAX_ROBOTS`. -/
def maxRobots : ℤ := 20

/-- `MAX_GAME_SIZE`. -/
def maxGameSize : ℤ := 11

/-- How the program ends instead of running: after the help, after an error of its own, or by an
exception that nothing catches. -/
inductive Stop where
  | help
  | error (text : String)
  | uncaught (what : String)
  deriving DecidableEq

/-- `std::isspace`. -/
def isSpace (c : Char) : Bool := c = ' ' || (9 ≤ c.toNat && c.toNat ≤ 13)

/-- `std::stoi`: blanks, a sign and digits; what follows them is ignored. -/
def stoi (s : String) : Except Stop ℤ :=
  let cs := s.toList.dropWhile isSpace
  let negative := cs.head? = some '-'
  let digits := (if negative ∨ cs.head? = some '+' then cs.tail else cs).takeWhile Char.isDigit
  let n : ℤ := if negative then -Nat.ofDigitChars 10 digits 0 else Nat.ofDigitChars 10 digits 0
  if digits = [] then .error (.uncaught "std::invalid_argument")
  else if n < -2 ^ 31 ∨ 2 ^ 31 ≤ n then .error (.uncaught "std::out_of_range")
  else .ok n

/-- `value`: the argument after a flag. -/
def value (flag : String) : Option String → Except Stop String
  | none => .error (.error (flag ++ " requires a value"))
  | some v => .ok v

/-- A number of robots within its bounds. -/
def bounded (flag : String) (most n : ℤ) : Except Stop ℤ :=
  if n < 1 ∨ most < n then
    .error (.error (flag ++ " must be between 1 and " ++ toString most))
  else .ok n

/-- The options so far, and `robots_given`. -/
structure State (K : Type) [Field K] where
  opts : CliOptions K := {}
  robotsGiven : Bool := false

variable {K : Type}

/-- What a flag sets. -/
inductive Setting (K : Type) where
  | headless
  | field (name : String)
  | game (n : ℤ)
  | onFieldPositions
  | configDir (dir : String)
  | keyframe (name : String)
  | rtf (factor : K)
  | robots (n : ℤ)

/-- The options with the setting. -/
def State.set [Field K] (st : State K) : Setting K → State K
  | .headless => { st with opts.headless := true }
  | .field name => { st with opts.field := name }
  | .game n => { st with opts.game := n }
  | .onFieldPositions => { st with opts.onFieldPositions := true }
  | .configDir dir => { st with opts.configDir := dir }
  | .keyframe name => { st with opts.keyframe := name }
  | .rtf factor => { st with opts.rtf := factor }
  | .robots n => { st with opts.robots := n, robotsGiven := true }

/-- A flag with a value, which is the next argument. -/
def valued (flag : String) (next : Option String) (setting : String → Except Stop (Setting K)) :
    Except Stop (Setting K × Bool) := do
  let v ← value flag next
  return (← setting v, true)

/-- The setting that an argument spells, with the argument after it if that is its value, and
whether it is.  `stod` is `std::stod`. -/
def parseArg (stod : String → Except Stop K) (arg : String) (next : Option String) :
    Except Stop (Setting K × Bool) :=
  if arg = "--headless" then .ok (.headless, false)
  else if arg = "--field" then valued "--field" next fun v => .ok (.field v)
  else if arg = "--game" then
    valued "--game" next fun v => do return .game (← bounded "--game" maxGameSize (← stoi v))
  else if arg = "--on-field-positions" then .ok (.onFieldPositions, false)
  else if arg = "--config-dir" then valued "--config-dir" next fun v => .ok (.configDir v)
  else if arg = "--keyframe" then valued "--keyframe" next fun v => .ok (.keyframe v)
  else if arg = "--rtf" then valued "--rtf" next fun v => do return .rtf (← stod v)
  else if arg = "--robots" then
    valued "--robots" next fun v => do return .robots (← bounded "--robots" maxRobots (← stoi v))
  else if arg = "--help" ∨ arg = "-h" then .error .help
  else .error (.error ("unknown argument '" ++ arg ++ "' (see --help)"))

/-- The loop over the arguments. -/
def parseArgs [Field K] (stod : String → Except Stop K) :
    State K → List String → Except Stop (State K)
  | st, [] => .ok st
  | st, [arg] => (parseArg stod arg none).map fun p => st.set p.1
  | st, arg :: next :: rest =>
    match parseArg stod arg (some next) with
    | .error stop => .error stop
    | .ok (setting, true) => parseArgs stod (st.set setting) rest
    | .ok (setting, false) => parseArgs stod (st.set setting) (next :: rest)

/-- `parse_cli`, of the arguments after the program's name. -/
def parseCli [Field K] (stod : String → Except Stop K) (args : List String) :
    Except Stop (CliOptions K) :=
  match parseArgs stod {} args with
  | .error stop => .error stop
  | .ok st =>
    if 0 < st.opts.game ∧ (st.opts.field ≠ "" ∨ st.robotsGiven = true) then
      .error (.error "--game sets the field and robots itself; drop --field/--robots")
    else if st.opts.onFieldPositions = true ∧ st.opts.game = 0 then
      .error (.error "--on-field-positions needs --game")
    else .ok st.opts

/-! ## The language of the command line -/

variable (stod : String → Except Stop K)

/-- The arguments spell the setting. -/
def Spells : Setting K → List String → Prop
  | .headless, args => args = ["--headless"]
  | .field name, args => args = ["--field", name]
  | .game n, args => ∃ v, args = ["--game", v] ∧ stoi v = .ok n ∧ 1 ≤ n ∧ n ≤ maxGameSize
  | .onFieldPositions, args => args = ["--on-field-positions"]
  | .configDir dir, args => args = ["--config-dir", dir]
  | .keyframe name, args => args = ["--keyframe", name]
  | .rtf factor, args => ∃ v, args = ["--rtf", v] ∧ stod v = .ok factor
  | .robots n, args => ∃ v, args = ["--robots", v] ∧ stoi v = .ok n ∧ 1 ≤ n ∧ n ≤ maxRobots

/-- The arguments spell the settings, one after the other. -/
inductive SpellsAll : List (Setting K) → List String → Prop
  | nil : SpellsAll [] []
  | cons {setting : Setting K} {settings : List (Setting K)} {args rest : List String}
      (first : Spells stod setting args) (others : SpellsAll settings rest) :
      SpellsAll (setting :: settings) (args ++ rest)

variable {stod}

theorem valued_eq_ok_iff {flag : String} {next : Option String}
    {setting : String → Except Stop (Setting K)} {p : Setting K × Bool} :
    valued flag next setting = .ok p ↔ ∃ v, next = some v ∧ setting v = .ok p.1 ∧ p.2 = true := by
  rw [valued, Foundations.bind_eq_ok_iff]
  cases next with
  | none => simp [value]
  | some v =>
    simp only [value, Except.ok.injEq, exists_eq_left', Option.some.injEq]
    rw [Foundations.bind_eq_ok_iff]
    constructor
    · rintro ⟨a, ha, hp⟩
      obtain rfl := Except.ok.inj hp
      exact ⟨ha, rfl⟩
    · rintro ⟨ha, hused⟩
      exact ⟨p.1, ha, congrArg Except.ok (Prod.ext rfl hused.symm)⟩

theorem bounded_eq_ok_iff {flag : String} {most n k : ℤ} :
    bounded flag most n = .ok k ↔ n = k ∧ 1 ≤ k ∧ k ≤ most := by
  rw [bounded]
  split_ifs with h
  · refine iff_of_false nofun ?_
    omega
  · rw [Except.ok.injEq]
    omega

/-- A number read within its bounds. -/
theorem bounded_stoi_eq_ok_iff {flag v : String} {most : ℤ} {f : ℤ → Setting K} {p : Setting K} :
    (do return f (← bounded flag most (← stoi v))) = .ok p
      ↔ ∃ n, stoi v = .ok n ∧ 1 ≤ n ∧ n ≤ most ∧ p = f n := by
  constructor
  · intro h
    obtain ⟨n, hn, h⟩ := Foundations.bind_eq_ok_iff.mp h
    obtain ⟨k, hk, h⟩ := Foundations.bind_eq_ok_iff.mp h
    obtain ⟨rfl, hlo, hhi⟩ := bounded_eq_ok_iff.mp hk
    exact ⟨n, hn, hlo, hhi, (Except.ok.inj h).symm⟩
  · rintro ⟨n, hn, hlo, hhi, rfl⟩
    exact Foundations.bind_eq_ok_iff.mpr ⟨n, hn, Foundations.bind_eq_ok_iff.mpr
      ⟨n, bounded_eq_ok_iff.mpr ⟨rfl, hlo, hhi⟩, rfl⟩⟩

/-- **An argument that is read spells a setting**, alone or with the one after it. -/
theorem spells_of_parseArg {arg : String} {next : Option String} {setting : Setting K}
    {used : Bool} (h : parseArg stod arg next = .ok (setting, used)) :
    (used = false ∧ Spells stod setting [arg])
      ∨ (used = true ∧ ∃ v, next = some v ∧ Spells stod setting [arg, v]) := by
  rw [parseArg] at h
  split_ifs at h with h1 h2 h3 h4 h5 h6 h7 h8
  · obtain ⟨rfl, rfl⟩ := Prod.mk.inj (Except.ok.inj h)
    exact .inl ⟨rfl, h1 ▸ rfl⟩
  · obtain ⟨v, hv, hset, hused⟩ := valued_eq_ok_iff.mp h
    obtain rfl := Except.ok.inj hset
    exact .inr ⟨hused, v, hv, h2 ▸ rfl⟩
  · obtain ⟨v, hv, hset, hused⟩ := valued_eq_ok_iff.mp h
    obtain ⟨n, hn, hlo, hhi, rfl⟩ := bounded_stoi_eq_ok_iff.mp hset
    exact .inr ⟨hused, v, hv, v, h3 ▸ rfl, hn, hlo, hhi⟩
  · obtain ⟨rfl, rfl⟩ := Prod.mk.inj (Except.ok.inj h)
    exact .inl ⟨rfl, h4 ▸ rfl⟩
  · obtain ⟨v, hv, hset, hused⟩ := valued_eq_ok_iff.mp h
    obtain rfl := Except.ok.inj hset
    exact .inr ⟨hused, v, hv, h5 ▸ rfl⟩
  · obtain ⟨v, hv, hset, hused⟩ := valued_eq_ok_iff.mp h
    obtain rfl := Except.ok.inj hset
    exact .inr ⟨hused, v, hv, h6 ▸ rfl⟩
  · obtain ⟨v, hv, hset, hused⟩ := valued_eq_ok_iff.mp h
    obtain ⟨x, hx, hset⟩ := Foundations.bind_eq_ok_iff.mp hset
    obtain rfl := Except.ok.inj hset
    exact .inr ⟨hused, v, hv, v, h7 ▸ rfl, hx⟩
  · obtain ⟨v, hv, hset, hused⟩ := valued_eq_ok_iff.mp h
    obtain ⟨n, hn, hlo, hhi, rfl⟩ := bounded_stoi_eq_ok_iff.mp hset
    exact .inr ⟨hused, v, hv, v, h8 ▸ rfl, hn, hlo, hhi⟩

/-- **A setting that is spelt is read**: alone, whatever follows, or with its value. -/
theorem parseArg_of_spells {setting : Setting K} {args : List String}
    (h : Spells stod setting args) :
    (∃ arg, args = [arg] ∧ ∀ next, parseArg stod arg next = .ok (setting, false))
      ∨ ∃ arg v, args = [arg, v] ∧ parseArg stod arg (some v) = .ok (setting, true) := by
  cases setting with
  | headless => exact .inl ⟨_, h, fun _ => rfl⟩
  | field name => exact .inr ⟨_, _, h, rfl⟩
  | game n =>
    obtain ⟨v, hargs, hn, hlo, hhi⟩ := h
    refine .inr ⟨_, v, hargs, ?_⟩
    exact valued_eq_ok_iff.mpr ⟨v, rfl, bounded_stoi_eq_ok_iff.mpr ⟨n, hn, hlo, hhi, rfl⟩, rfl⟩
  | onFieldPositions => exact .inl ⟨_, h, fun _ => rfl⟩
  | configDir dir => exact .inr ⟨_, _, h, rfl⟩
  | keyframe name => exact .inr ⟨_, _, h, rfl⟩
  | rtf factor =>
    obtain ⟨v, hargs, hx⟩ := h
    refine .inr ⟨_, v, hargs, ?_⟩
    exact valued_eq_ok_iff.mpr ⟨v, rfl, Foundations.bind_eq_ok_iff.mpr ⟨factor, hx, rfl⟩, rfl⟩
  | robots n =>
    obtain ⟨v, hargs, hn, hlo, hhi⟩ := h
    refine .inr ⟨_, v, hargs, ?_⟩
    exact valued_eq_ok_iff.mpr ⟨v, rfl, bounded_stoi_eq_ok_iff.mpr ⟨n, hn, hlo, hhi, rfl⟩, rfl⟩

variable [Field K]

/-- What is got through spells settings. -/
theorem spellsAll_of_parseArgs {st st' : State K} {args : List String}
    (h : parseArgs stod st args = .ok st') :
    ∃ settings, SpellsAll stod settings args ∧ st' = settings.foldl State.set st := by
  fun_induction parseArgs stod st args with
  | case1 st =>
    obtain rfl := Except.ok.inj h
    exact ⟨[], .nil, rfl⟩
  | case2 st arg =>
    cases hread : parseArg stod arg none with
    | error stop =>
      rw [hread] at h
      exact nomatch h
    | ok p =>
      rw [hread] at h
      obtain rfl := Except.ok.inj h
      obtain ⟨-, hspells⟩ | ⟨-, v, hnone, -⟩ := spells_of_parseArg hread
      · exact ⟨[p.1], .cons hspells .nil, rfl⟩
      · exact nomatch hnone
  | case3 st arg next rest stop hread => exact nomatch h
  | case4 st arg next rest setting hread ih =>
    obtain ⟨settings, hall, hst⟩ := ih h
    obtain ⟨hunused, -⟩ | ⟨-, v, hv, hspells⟩ := spells_of_parseArg hread
    · exact nomatch hunused
    · obtain rfl := Option.some.inj hv
      exact ⟨setting :: settings, .cons hspells hall, hst⟩
  | case5 st arg next rest setting hread ih =>
    obtain ⟨settings, hall, hst⟩ := ih h
    obtain ⟨-, hspells⟩ | ⟨hused, -⟩ := spells_of_parseArg hread
    · exact ⟨setting :: settings, .cons hspells hall, hst⟩
    · exact nomatch hused

/-- What spells settings is got through. -/
theorem parseArgs_of_spellsAll {settings : List (Setting K)} {args : List String}
    (h : SpellsAll stod settings args) (st : State K) :
    parseArgs stod st args = .ok (settings.foldl State.set st) := by
  induction h generalizing st with
  | nil => rfl
  | @cons setting settings args rest first others ih =>
    obtain ⟨arg, rfl, hread⟩ | ⟨arg, v, rfl, hread⟩ := parseArg_of_spells first
    · cases rest with
      | nil =>
        have hrest := ih (st.set setting)
        rw [parseArgs] at hrest
        rw [List.append_nil, parseArgs, hread, List.foldl_cons, ← hrest]
        rfl
      | cons next rest =>
        rw [List.singleton_append, parseArgs, hread]
        exact ih (st.set setting)
    · rw [List.cons_append, List.singleton_append, parseArgs, hread]
      exact ih (st.set setting)

/-- **The loop gets through exactly the arguments that spell settings**, and sets them in order. -/
theorem parseArgs_eq_ok_iff {st st' : State K} {args : List String} :
    parseArgs stod st args = .ok st'
      ↔ ∃ settings, SpellsAll stod settings args ∧ st' = settings.foldl State.set st := by
  refine ⟨spellsAll_of_parseArgs, ?_⟩
  rintro ⟨settings, hall, rfl⟩
  exact parseArgs_of_spellsAll hall st

/-! ## What is accepted -/

/-- A number of robots was set. -/
def Setting.IsRobots : Setting K → Prop
  | .robots _ => True
  | _ => False

theorem robotsGiven_set (st : State K) (setting : Setting K) :
    (st.set setting).robotsGiven = true ↔ setting.IsRobots ∨ st.robotsGiven = true := by
  cases setting <;> simp [State.set, Setting.IsRobots]

/-- `robots_given` tells whether a number of robots was set. -/
theorem robotsGiven_foldl (settings : List (Setting K)) (st : State K) :
    (settings.foldl State.set st).robotsGiven = true
      ↔ (∃ setting ∈ settings, setting.IsRobots) ∨ st.robotsGiven = true := by
  induction settings generalizing st with
  | nil => simp
  | cons setting settings ih =>
    rw [List.foldl_cons, ih, robotsGiven_set]
    simp only [List.mem_cons, exists_eq_or_imp, or_assoc, or_left_comm]

/-- **The settings do not conflict**: a game leaves the field and the robots to itself, and only a
game has kickoff positions. -/
structure Agree (settings : List (Setting K)) (o : CliOptions K) : Prop where
  alone : 0 < o.game → o.field = "" ∧ ∀ setting ∈ settings, ¬ setting.IsRobots
  positions : o.onFieldPositions = true → o.game ≠ 0

/-- **The arguments are accepted that spell settings without a conflict**, and give what the
settings leave, one after the other. -/
theorem parseCli_eq_ok_iff {args : List String} {o : CliOptions K} :
    parseCli stod args = .ok o
      ↔ ∃ settings, SpellsAll stod settings args ∧ o = (settings.foldl State.set {}).opts
        ∧ Agree settings o := by
  have hgiven (settings : List (Setting K)) :
      (settings.foldl State.set {}).robotsGiven = true ↔ ∃ setting ∈ settings, setting.IsRobots :=
    (robotsGiven_foldl settings {}).trans (or_iff_left Bool.false_ne_true)
  constructor
  · intro h
    rw [parseCli] at h
    cases hargs : parseArgs stod {} args with
    | error stop =>
      rw [hargs] at h
      exact nomatch h
    | ok st =>
      rw [hargs] at h
      dsimp only at h
      split_ifs at h with hgame hpositions
      obtain rfl := Except.ok.inj h
      obtain ⟨settings, hall, rfl⟩ := parseArgs_eq_ok_iff.mp hargs
      refine ⟨settings, hall, rfl, fun hpos => ⟨?_, fun setting hin hrobots => ?_⟩,
        fun hon hzero => ?_⟩
      · by_contra hfield
        exact hgame ⟨hpos, .inl hfield⟩
      · exact hgame ⟨hpos, .inr ((hgiven settings).mpr ⟨setting, hin, hrobots⟩)⟩
      · exact hpositions ⟨hon, hzero⟩
  · rintro ⟨settings, hall, rfl, hagree⟩
    rw [parseCli, parseArgs_eq_ok_iff.mpr ⟨settings, hall, rfl⟩]
    dsimp only
    rw [if_neg, if_neg]
    · rintro ⟨hon, hzero⟩
      exact hagree.positions hon hzero
    · rintro ⟨hpos, hfield | hrobots⟩
      · exact hfield (hagree.alone hpos).1
      · obtain ⟨setting, hin, hrobots⟩ := (hgiven settings).mp hrobots
        exact (hagree.alone hpos).2 setting hin hrobots

/-! ## The options that can be had -/

variable (stod) in
/-- What holds of the options, however they were spelt. -/
structure WellFormed (o : CliOptions K) : Prop where
  game : 0 ≤ o.game ∧ o.game ≤ maxGameSize
  robots : 1 ≤ o.robots ∧ o.robots ≤ maxRobots
  /-- A game sets the field and the robots itself. -/
  alone : 0 < o.game → o.field = "" ∧ o.robots = 1
  positions : o.onFieldPositions = true → o.game ≠ 0
  rtf : o.rtf = -1 ∨ ∃ v, stod v = .ok o.rtf

variable (stod) in
/-- What holds of the options in the loop. -/
structure State.Ranged (st : State K) : Prop where
  game : 0 ≤ st.opts.game ∧ st.opts.game ≤ maxGameSize
  robots : 1 ≤ st.opts.robots ∧ st.opts.robots ≤ maxRobots
  given : st.robotsGiven = false → st.opts.robots = 1
  rtf : st.opts.rtf = -1 ∨ ∃ v, stod v = .ok st.opts.rtf

theorem State.Ranged.set {st : State K} (h : st.Ranged stod) {setting : Setting K}
    {args : List String} (hspells : Spells stod setting args) : (st.set setting).Ranged stod := by
  obtain ⟨hgame, hrobots, hgiven, hrtf⟩ := h
  cases setting with
  | headless => exact ⟨hgame, hrobots, hgiven, hrtf⟩
  | field name => exact ⟨hgame, hrobots, hgiven, hrtf⟩
  | game n =>
    obtain ⟨v, -, -, hlo, hhi⟩ := hspells
    exact ⟨⟨Int.le_trans (by decide) hlo, hhi⟩, hrobots, hgiven, hrtf⟩
  | onFieldPositions => exact ⟨hgame, hrobots, hgiven, hrtf⟩
  | configDir dir => exact ⟨hgame, hrobots, hgiven, hrtf⟩
  | keyframe name => exact ⟨hgame, hrobots, hgiven, hrtf⟩
  | rtf factor =>
    obtain ⟨v, -, hv⟩ := hspells
    exact ⟨hgame, hrobots, hgiven, .inr ⟨v, hv⟩⟩
  | robots n =>
    obtain ⟨v, -, -, hbounds⟩ := hspells
    exact ⟨hgame, hbounds, nofun, hrtf⟩

theorem ranged_foldl {settings : List (Setting K)} {args : List String}
    (hall : SpellsAll stod settings args) {st : State K} (h : st.Ranged stod) :
    (settings.foldl State.set st).Ranged stod := by
  induction hall generalizing st with
  | nil => exact h
  | cons first others ih => exact ih (h.set first)

/-- **Options that are returned are well formed.** -/
theorem wellFormed_of_parseCli {args : List String} {o : CliOptions K}
    (h : parseCli stod args = .ok o) : WellFormed stod o := by
  obtain ⟨settings, hall, rfl, hagree⟩ := parseCli_eq_ok_iff.mp h
  have hranged : (settings.foldl State.set {}).Ranged stod := by
    have hgame : (0 : ℤ) ≤ 0 ∧ (0 : ℤ) ≤ maxGameSize := by decide
    have hrobots : (1 : ℤ) ≤ 1 ∧ (1 : ℤ) ≤ maxRobots := by decide
    exact ranged_foldl hall ⟨hgame, hrobots, fun _ => rfl, .inl rfl⟩
  refine ⟨hranged.game, hranged.robots, fun hpos => ⟨(hagree.alone hpos).1, hranged.given ?_⟩,
    hagree.positions, hranged.rtf⟩
  refine Bool.eq_false_iff.mpr fun hgiven => ?_
  obtain ⟨setting, hin, hrobots⟩ :=
    ((robotsGiven_foldl settings {}).mp hgiven).resolve_right Bool.false_ne_true
  exact (hagree.alone hpos).2 setting hin hrobots

/-! ## Every well-formed options can be had -/

/-- A digit is neither blank nor a sign. -/
theorem not_isSpace_of_isDigit {c : Char} (h : c.isDigit = true) :
    isSpace c = false ∧ c ≠ '-' ∧ c ≠ '+' := by
  have hlo : 48 ≤ c.toNat := (Char.isDigit_iff_toNat.mp h).1
  refine ⟨?_, ?_, ?_⟩
  · have hblank : c ≠ ' ' := by
      rintro rfl
      exact absurd hlo (by decide)
    rw [isSpace, Bool.or_eq_false_iff, decide_eq_false_iff_not, Bool.and_eq_false_iff,
      decide_eq_false_iff_not, decide_eq_false_iff_not]
    exact ⟨hblank, .inr (by omega)⟩
  · rintro rfl
    exact absurd hlo (by decide)
  · rintro rfl
    exact absurd hlo (by decide)

/-- **A printed number is read back.** -/
theorem stoi_toString {n : ℕ} (hn : n < 2 ^ 31) : stoi (toString n) = .ok n := by
  have hlist : (toString n).toList = Nat.toDigits 10 n := Nat.toList_repr
  have hdigit : ∀ c ∈ Nat.toDigits 10 n, c.isDigit = true :=
    fun c hc => Nat.isDigit_of_mem_toDigits (by decide) (by decide) hc
  have hall : (Nat.toDigits 10 n).takeWhile Char.isDigit = Nat.toDigits 10 n :=
    List.takeWhile_eq_self_iff.mpr hdigit
  have hval : Nat.ofDigitChars 10 (Nat.toDigits 10 n) 0 = n := Nat.ofDigitChars_ten_toDigits
  obtain ⟨c, cs, hcs⟩ := List.exists_cons_of_ne_nil (Nat.toDigits_ne_nil (n := n) (b := 10))
  obtain ⟨hspace, hminus, hplus⟩ := not_isSpace_of_isDigit (hdigit c (hcs ▸ List.mem_cons_self))
  have hblanks : (Nat.toDigits 10 n).dropWhile isSpace = Nat.toDigits 10 n := by
    rw [hcs, List.dropWhile_cons_of_neg (by rw [hspace]; exact Bool.false_ne_true)]
  have hunsigned : (Nat.toDigits 10 n).head? ≠ some '-' ∧ (Nat.toDigits 10 n).head? ≠ some '+' := by
    rw [hcs, List.head?_cons, Option.some_inj.ne, Option.some_inj.ne]
    exact ⟨hminus, hplus⟩
  simp only [stoi, hlist, hblanks, hunsigned, or_self, if_false, hall, hval]
  rw [if_neg Nat.toDigits_ne_nil, if_neg]
  omega

/-- The settings that spell options, without the factor. -/
def settingsOf (o : CliOptions K) : List (Setting K) :=
  (if o.headless = true then [.headless] else [])
    ++ [.field o.field, .configDir o.configDir, .keyframe o.keyframe]
    ++ (if o.game = 0 then [.robots o.robots] else [.game o.game])
    ++ (if o.onFieldPositions = true then [.onFieldPositions] else [])

omit [Field K] in
/-- Settings that can each be spelt can be spelt one after the other. -/
theorem exists_spellsAll {settings : List (Setting K)}
    (h : ∀ setting ∈ settings, ∃ args, Spells stod setting args) :
    ∃ args, SpellsAll stod settings args := by
  induction settings with
  | nil => exact ⟨[], .nil⟩
  | cons setting settings ih =>
    obtain ⟨hfirst, hothers⟩ := List.forall_mem_cons.mp h
    obtain ⟨args, hspells⟩ := hfirst
    obtain ⟨rest, hall⟩ := ih hothers
    exact ⟨args ++ rest, .cons hspells hall⟩

/-- A number in its bounds can be spelt. -/
theorem exists_stoi {n most : ℤ} (hlo : 1 ≤ n) (hhi : n ≤ most) (hmost : most < 2 ^ 31) :
    ∃ v, stoi v = .ok n ∧ 1 ≤ n ∧ n ≤ most := by
  obtain ⟨k, rfl⟩ := Int.eq_ofNat_of_zero_le (Int.le_trans (by decide) hlo)
  exact ⟨toString k, stoi_toString (by omega), hlo, hhi⟩

variable {o : CliOptions K}

/-- The settings of well-formed options can be spelt. -/
theorem WellFormed.exists_spells (h : WellFormed stod o) :
    ∀ setting ∈ settingsOf o, ∃ args, Spells stod setting args := by
  intro setting hin
  obtain ⟨⟨hgame, hmost⟩, ⟨hlo, hhi⟩, -, -, -⟩ := h
  simp only [settingsOf, List.mem_append] at hin
  obtain ((hin | hin) | hin) | hin := hin
  · split_ifs at hin
    · obtain rfl := List.mem_singleton.mp hin
      exact ⟨_, rfl⟩
    · exact absurd hin List.not_mem_nil
  · obtain rfl | rfl | rfl : setting = .field o.field ∨ setting = .configDir o.configDir
        ∨ setting = .keyframe o.keyframe := by simpa using hin
    · exact ⟨_, rfl⟩
    · exact ⟨_, rfl⟩
    · exact ⟨_, rfl⟩
  · split_ifs at hin with hzero
    · obtain rfl := List.mem_singleton.mp hin
      obtain ⟨v, hv⟩ := exists_stoi hlo hhi (by decide)
      exact ⟨_, v, rfl, hv⟩
    · obtain rfl := List.mem_singleton.mp hin
      obtain ⟨v, hv⟩ := exists_stoi (by omega) hmost (by decide)
      exact ⟨_, v, rfl, hv⟩
  · split_ifs at hin
    · obtain rfl := List.mem_singleton.mp hin
      exact ⟨_, rfl⟩
    · exact absurd hin List.not_mem_nil

/-- The settings of well-formed options set them, all but the factor. -/
theorem WellFormed.foldl_settingsOf (h : WellFormed stod o) :
    (settingsOf o).foldl State.set {}
      = { opts := { o with rtf := -1 }, robotsGiven := decide (o.game = 0) } := by
  obtain ⟨⟨hgame, -⟩, -, halone, -, -⟩ := h
  obtain ⟨headless, field, game, positions, configDir, keyframe, rtf, robots⟩ := o
  dsimp only at hgame halone
  by_cases hzero : game = 0
  · subst hzero
    cases headless <;> cases positions <;> rfl
  · obtain ⟨-, rfl⟩ := halone (by omega)
    cases headless <;> cases positions <;> simp [settingsOf, State.set, hzero]

/-- Well-formed options can be spelt. -/
theorem WellFormed.exists_spellsAll (h : WellFormed stod o) :
    ∃ settings args, SpellsAll stod settings args
      ∧ settings.foldl State.set {} = { opts := o, robotsGiven := decide (o.game = 0) } := by
  obtain hdefault | ⟨v, hv⟩ := h.rtf
  · obtain ⟨args, hall⟩ := CliOptions.exists_spellsAll h.exists_spells
    refine ⟨_, args, hall, ?_⟩
    rw [h.foldl_settingsOf, ← hdefault]
  · have hspells : ∀ setting ∈ settingsOf o ++ [.rtf o.rtf], ∃ args, Spells stod setting args := by
      intro setting hin
      obtain hin | hin := List.mem_append.mp hin
      · exact h.exists_spells setting hin
      · obtain rfl := List.mem_singleton.mp hin
        exact ⟨_, v, rfl, hv⟩
    obtain ⟨args, hall⟩ := CliOptions.exists_spellsAll hspells
    refine ⟨_, args, hall, ?_⟩
    rw [List.foldl_append, h.foldl_settingsOf]
    rfl

/-- Well-formed options can be had. -/
theorem WellFormed.exists_parseCli (h : WellFormed stod o) :
    ∃ args, parseCli stod args = .ok o := by
  obtain ⟨settings, args, hall, hset⟩ := h.exists_spellsAll
  have hopts : o = (settings.foldl State.set {}).opts := by rw [hset]
  have hrobots : ∀ hpos : 0 < o.game, ∀ setting ∈ settings, ¬ setting.IsRobots := by
    intro hpos setting hin hrobots
    have hgiven := (robotsGiven_foldl settings {}).mpr (.inl ⟨setting, hin, hrobots⟩)
    rw [hset] at hgiven
    exact absurd (of_decide_eq_true hgiven) (Int.ne_of_gt hpos)
  exact ⟨args, parseCli_eq_ok_iff.mpr
    ⟨settings, hall, hopts, fun hpos => ⟨(h.alone hpos).1, hrobots hpos⟩, h.positions⟩⟩

variable (stod) in
/-- **What the command line accepts**: exactly the arguments that spell settings without a conflict,
in any order, the last setting of a flag counting; and the options that it can give are exactly the
well-formed ones. -/
theorem accepted_iff (args : List String) (o : CliOptions K) :
    (parseCli stod args = .ok o
        ↔ ∃ settings, SpellsAll stod settings args ∧ o = (settings.foldl State.set {}).opts
          ∧ Agree settings o)
      ∧ ((∃ args, parseCli stod args = .ok o) ↔ WellFormed stod o) :=
  ⟨parseCli_eq_ok_iff, fun ⟨_, hargs⟩ => wellFormed_of_parseCli hargs, fun h => h.exists_parseCli⟩

end CliOptions

end K1Sim
