import K1Sim.Simulation.Pacing

/-!
# Simulation/MeasuredRtf — the real-time factor that the loop measures

The loop stores a factor whenever its window has lasted a second, and opens the next window there.
So the windows of a run follow on from each other: every step is measured once, and each factor
times the wall time of its window is the simulated time of its steps (`measuredRtf_true`).  Where
the loop is paced, no factor is far above the one asked for.
-/

namespace K1Sim

open Foundations Timespec

/-- A window of the measurement: the clock and the step counter at its two ends, and the factor
that is stored when it closes. -/
structure RtfWindow (K : Type*) where
  wallStart : K
  wallEnd : K
  stepStart : ℕ
  stepEnd : ℕ
  rtf : K
  deriving DecidableEq

namespace RtfWindow

variable {K : Type*} [Field K]

/-- The wall time that the window lasts. -/
def wall (w : RtfWindow K) : K := w.wallEnd - w.wallStart

/-- The windows follow on from each other, from one end to the other. -/
def Tiles (wall : K) (step : ℕ) : List (RtfWindow K) → K → ℕ → Prop
  | [], wallEnd, stepEnd => wall = wallEnd ∧ step = stepEnd
  | w :: ws, wallEnd, stepEnd =>
    w.wallStart = wall ∧ w.stepStart = step ∧ Tiles w.wallEnd w.stepEnd ws wallEnd stepEnd

/-- The factor is what the window measures: at least one step, over at least a second. -/
structure Measures [LE K] (timestep : K) (w : RtfWindow K) : Prop where
  lasts : 1 ≤ w.wall
  steps : w.stepStart < w.stepEnd
  rate : w.rtf * w.wall = ((w.stepEnd - w.stepStart : ℕ) : K) * timestep

/-- **What the windows measure adds up** to the simulated time between their ends. -/
theorem Tiles.sum_eq [LE K] {timestep : K} {wall wallEnd : K} {step stepEnd : ℕ}
    {ws : List (RtfWindow K)} (h : Tiles wall step ws wallEnd stepEnd)
    (hmeasures : ∀ w ∈ ws, w.Measures timestep) :
    step ≤ stepEnd ∧ (ws.map fun w => w.rtf * w.wall).sum
      = ((stepEnd - step : ℕ) : K) * timestep := by
  induction ws generalizing wall step with
  | nil =>
    obtain ⟨-, rfl⟩ := h
    simp
  | cons w ws ih =>
    obtain ⟨hw, hws⟩ := List.forall_mem_cons.mp hmeasures
    obtain ⟨-, rfl, hrest⟩ := h
    obtain ⟨hle, hsum⟩ := ih hrest hws
    have hfirst := hw.steps.le
    refine ⟨hfirst.trans hle, ?_⟩
    rw [List.map_cons, List.sum_cons, hsum, hw.rate, ← add_mul, ← Nat.cast_add]
    congr 2
    omega

end RtfWindow

open RtfWindow

namespace Pacing

variable {K : Type*} [Field K] [LinearOrder K] [FloorRing K] (cfg : PacingConfig K)

/-- The pacing, with the windows that it closes. -/
def measuring : Machine (Pacing K) ClockReads (RtfWindow K) where
  next := pass cfg
  out p e :=
    let after := pass cfg p e
    if 1 ≤ e.wall.toSeconds - p.windowWallStart then
      some
        { wallStart := p.windowWallStart
          wallEnd := after.windowWallStart
          stepStart := p.windowStepStart
          stepEnd := after.windowStepStart
          rtf := after.measuredRtf }
    else none

variable {cfg} {p : Pacing K} {e : ClockReads}

theorem steps_pass : (pass cfg p e).steps = p.steps + 1 := by
  rw [pass]
  dsimp only
  split <;> rfl

variable (cfg) in
/-- A pass that closes the window opens the next one at its last read of the clock. -/
theorem pass_closes (h : 1 ≤ e.wall.toSeconds - p.windowWallStart) :
    (pass cfg p e).windowWallStart = e.wall.toSeconds
      ∧ (pass cfg p e).windowStepStart = p.steps + 1
      ∧ (pass cfg p e).measuredRtf = ((p.steps + 1 - p.windowStepStart : ℕ) : K) * cfg.timestep
        / (e.wall.toSeconds - p.windowWallStart) := by
  rw [pass]
  dsimp only
  rw [if_pos h]
  exact ⟨rfl, rfl, rfl⟩

variable (cfg) in
/-- Another pass leaves the window open. -/
theorem pass_open (h : ¬ 1 ≤ e.wall.toSeconds - p.windowWallStart) :
    (pass cfg p e).windowWallStart = p.windowWallStart
      ∧ (pass cfg p e).windowStepStart = p.windowStepStart
      ∧ (pass cfg p e).measuredRtf = p.measuredRtf := by
  rw [pass]
  dsimp only
  rw [if_neg h]
  exact ⟨rfl, rfl, rfl⟩

theorem windowStepStart_le_steps_pass (h : p.windowStepStart ≤ p.steps) :
    (pass cfg p e).windowStepStart ≤ (pass cfg p e).steps := by
  rw [steps_pass]
  by_cases hcloses : 1 ≤ e.wall.toSeconds - p.windowWallStart
  · rw [(pass_closes cfg hcloses).2.1]
  · rw [(pass_open cfg hcloses).2.1]
    exact h.trans (Nat.le_succ _)

/-- The window that a pass closes. -/
theorem out_measuring_eq_some {w : RtfWindow K} (h : (measuring cfg).out p e = some w) :
    1 ≤ e.wall.toSeconds - p.windowWallStart
      ∧ w = ⟨p.windowWallStart, e.wall.toSeconds, p.windowStepStart, p.steps + 1,
        ((p.steps + 1 - p.windowStepStart : ℕ) : K) * cfg.timestep
          / (e.wall.toSeconds - p.windowWallStart)⟩ := by
  rw [measuring] at h
  dsimp only at h
  split_ifs at h with hcloses
  obtain ⟨hwall, hstep, hrtf⟩ := pass_closes cfg hcloses
  rw [hwall, hstep, hrtf] at h
  exact ⟨hcloses, (Option.some.inj h).symm⟩

/-! ## A run of passes -/

theorem steps_run (p : Pacing K) (es : List ClockReads) :
    ((measuring cfg).run p es).steps = p.steps + es.length := by
  induction es generalizing p with
  | nil => rfl
  | cons e es ih =>
    rw [Machine.run_cons, ih, List.length_cons]
    change (pass cfg p e).steps + es.length = _
    rw [steps_pass]
    omega

variable (cfg) in
/-- **The windows of a run follow on from each other.** -/
theorem tiles_trace (p : Pacing K) (es : List ClockReads) :
    Tiles p.windowWallStart p.windowStepStart ((measuring cfg).trace p es)
      ((measuring cfg).run p es).windowWallStart ((measuring cfg).run p es).windowStepStart := by
  induction es generalizing p with
  | nil => exact ⟨rfl, rfl⟩
  | cons e es ih =>
    have hrest := ih (pass cfg p e)
    rw [Machine.trace_cons, Machine.run_cons]
    by_cases hcloses : 1 ≤ e.wall.toSeconds - p.windowWallStart
    · have hout : (measuring cfg).out p e = some _ := if_pos hcloses
      rw [hout]
      exact ⟨rfl, rfl, hrest⟩
    · have hout : (measuring cfg).out p e = none := if_neg hcloses
      obtain ⟨hwall, hstep, -⟩ := pass_open cfg hcloses
      rw [hwall, hstep] at hrest
      rw [hout]
      exact hrest

/-- The factor shown is the one of the window closed last. -/
theorem measuredRtf_run (p : Pacing K) (es : List ClockReads) :
    ((measuring cfg).run p es).measuredRtf
      = (((measuring cfg).trace p es).getLast?.map RtfWindow.rtf).getD p.measuredRtf := by
  induction es generalizing p with
  | nil => rfl
  | cons e es ih =>
    rw [Machine.run_cons, Machine.trace_cons, ih]
    by_cases hcloses : 1 ≤ e.wall.toSeconds - p.windowWallStart
    · have hout : (measuring cfg).out p e = some _ := if_pos hcloses
      rw [hout, Option.toList_some, List.singleton_append, List.getLast?_cons]
      cases ((measuring cfg).trace ((measuring cfg).next p e) es).getLast? <;> rfl
    · have hout : (measuring cfg).out p e = none := if_neg hcloses
      have hkept : ((measuring cfg).next p e).measuredRtf = p.measuredRtf :=
        (pass_open cfg hcloses).2.2
      rw [hout, hkept]
      rfl

/-- Every window that a run closes measures its steps. -/
theorem measures_of_mem_trace {p : Pacing K} (hp : p.windowStepStart ≤ p.steps)
    {es : List ClockReads} {w : RtfWindow K} (hw : w ∈ (measuring cfg).trace p es) :
    w.Measures cfg.timestep := by
  obtain ⟨pre, e, post, -, hout⟩ := (measuring cfg).exists_of_mem_trace hw
  have hle : ((measuring cfg).run p pre).windowStepStart ≤ ((measuring cfg).run p pre).steps :=
    (measuring cfg).run_induction (P := fun p => p.windowStepStart ≤ p.steps)
      (fun _ _ => windowStepStart_le_steps_pass) pre p hp
  obtain ⟨hlasts, rfl⟩ := out_measuring_eq_some hout
  exact ⟨hlasts, Nat.lt_succ_of_le hle, div_mul_cancel₀ _ (zero_lt_one.trans_le hlasts).ne'⟩

/-- After a pass less than a second is in the open window. -/
theorem wall_sub_lt_one (p : Pacing K) (e : ClockReads) :
    e.wall.toSeconds - (pass cfg p e).windowWallStart < 1 := by
  by_cases hcloses : 1 ≤ e.wall.toSeconds - p.windowWallStart
  · rw [(pass_closes cfg hcloses).1, sub_self]
    exact zero_lt_one
  · rw [(pass_open cfg hcloses).1]
    exact not_le.mp hcloses

variable (cfg) in
/-- The open window was opened at the entry, or at the end of a pass. -/
theorem window_opened (start : Timespec) (es : List ClockReads) :
    let p := (measuring cfg).run (enter start) es
    (p.windowWallStart = start.toSeconds ∧ p.windowStepStart = 0)
      ∨ ∃ pre e later, es = pre ++ e :: later ∧ p.windowWallStart = e.wall.toSeconds
        ∧ p.windowStepStart = pre.length + 1 := by
  induction es using List.reverseRecOn with
  | nil => exact .inl ⟨rfl, rfl⟩
  | append_singleton es e ih =>
    intro p
    have hlast : p = pass cfg ((measuring cfg).run (enter start) es) e :=
      (measuring cfg).run_append _ es [e]
    have hsteps : ((measuring cfg).run (enter start) es).steps = es.length :=
      (steps_run _ es).trans (Nat.zero_add _)
    by_cases hcloses :
        1 ≤ e.wall.toSeconds - ((measuring cfg).run (enter start) es).windowWallStart
    · obtain ⟨hwall, hstep, -⟩ := pass_closes cfg hcloses
      rw [← hlast] at hwall hstep
      exact .inr ⟨es, e, [], rfl, hwall, hstep.trans (by rw [hsteps])⟩
    · obtain ⟨hwall, hstep, -⟩ := pass_open cfg hcloses
      rw [← hlast] at hwall hstep
      rcases ih with ⟨hstart, hzero⟩ | ⟨pre, f, later, hes, hopen, hcount⟩
      · exact .inl ⟨hwall.trans hstart, hstep.trans hzero⟩
      · refine .inr ⟨pre, f, later ++ [e], ?_, hwall.trans hopen, hstep.trans hcount⟩
        rw [hes, List.append_assoc]
        rfl

/-! ## A clock trace -/

section Trace

variable [IsStrictOrderedRing K] {start : Timespec} {es : List ClockReads}
  (htrace : ClockTrace cfg start es)

include htrace

/-- The clock does not go back from one pass to a later one. -/
theorem wall_le_wall {pre later : List ClockReads} {e f : ClockReads}
    (h : pre ++ e :: (later ++ [f]) <+: es) : (e.wall.toSeconds : K) ≤ f.wall.toSeconds := by
  induction later generalizing pre e with
  | nil =>
    rw [List.nil_append, List.append_cons] at h
    obtain ⟨-, ⟨hafter, hnow, hwall⟩, -⟩ := clockOk_at htrace h
    rw [Machine.run_append] at hafter
    exact toSeconds_le_toSeconds.mpr (hafter.trans (hnow.trans hwall))
  | cons g later ih =>
    rw [List.cons_append, List.append_cons] at h
    refine le_trans ?_ (ih h)
    have hg : (pre ++ [e]) ++ [g] <+: es :=
      ((List.prefix_append_right_inj _).mpr (List.prefix_append [g] _)).trans h
    obtain ⟨-, ⟨hafter, hnow, hwall⟩, -⟩ := clockOk_at htrace hg
    rw [Machine.run_append] at hafter
    exact toSeconds_le_toSeconds.mpr (hafter.trans (hnow.trans hwall))

variable (hrtf : 0 < cfg.rtf) (hthreshold : 0 ≤ cfg.resyncThreshold)
  (hperiod : 1 / 1000000000 < period cfg)

include hrtf hthreshold hperiod

/-- **The steps of a window** take no less than the deadlines give them, but for the threshold and
one pass. -/
theorem steps_window {pre : List ClockReads} {e : ClockReads} (h : pre ++ [e] <+: es)
    {p : Pacing K} (hp : p = (measuring cfg).run (enter start) pre) :
    ((p.steps + 1 - p.windowStepStart : ℕ) : K) * (period cfg - 1 / 1000000000)
      ≤ e.wall.toSeconds - p.windowWallStart + cfg.resyncThreshold
        + (period cfg - 1 / 1000000000) := by
  have hshort := sub_pos.mpr hperiod
  have hsteps : p.steps = pre.length := hp ▸ (steps_run _ pre).trans (Nat.zero_add _)
  obtain ⟨hwall, hstep⟩ | ⟨opened, f, later, hpre, hwall, hstep⟩ :=
    hp ▸ window_opened cfg start pre
  · have hend := deadline_le_wall htrace h
    have hrun := add_le_deadline_run hrtf hthreshold (enter start) (pre ++ [e])
    rw [List.length_append, List.length_singleton] at hrun
    rw [hsteps, hwall, hstep, Nat.sub_zero]
    change (Timespec.toSeconds start : K) + _ ≤ _ at hrun
    linarith
  · have hcount : p.steps + 1 - p.windowStepStart = (later ++ [e]).length := by
      rw [hsteps, hstep, hpre, List.length_append, List.length_append, List.length_cons,
        List.length_singleton]
      omega
    rw [hpre, List.append_assoc, List.cons_append] at h
    rw [hcount, hwall]
    refine passes_since_wall htrace hrtf hthreshold hperiod h (wall_le_wall htrace h) fun g hg => ?_
    rcases List.mem_append.mp hg with hbefore | hlast
    · obtain ⟨between, after, rfl⟩ := List.append_of_mem hbefore
      have hsplit : opened ++ f :: (between ++ g :: after ++ [e])
          = (opened ++ f :: between) ++ g :: (after ++ [e]) := by simp
      exact wall_le_wall htrace (hsplit ▸ h)
    · rw [List.mem_singleton.mp hlast]

/-- **A paced loop measures no factor far above the one asked for.** -/
theorem rtf_le {w : RtfWindow K} (hw : w ∈ (measuring cfg).trace (enter start) es) :
    w.rtf ≤ cfg.rtf * (period cfg / (period cfg - 1 / 1000000000))
      * (1 + (cfg.resyncThreshold + period cfg) / w.wall) := by
  have hshort := sub_pos.mpr hperiod
  obtain ⟨pre, e, post, rfl, hout⟩ := (measuring cfg).exists_of_mem_trace hw
  obtain ⟨hlasts, hwindow⟩ := out_measuring_eq_some hout
  have hprefix : pre ++ [e] <+: pre ++ e :: post :=
    (List.prefix_append_right_inj _).mpr (List.prefix_append [e] post)
  have hsteps := steps_window htrace hrtf hthreshold hperiod hprefix rfl
  rw [hwindow]
  generalize ((measuring cfg).run (enter start) pre).steps + 1
    - ((measuring cfg).run (enter start) pre).windowStepStart = n at hsteps ⊢
  change (n : K) * cfg.timestep / (e.wall.toSeconds - _) ≤ _ * (1 + _ / (e.wall.toSeconds - _))
  generalize (e.wall.toSeconds : K)
    - ((measuring cfg).run (enter start) pre).windowWallStart = wall at hlasts hsteps ⊢
  have hpos : 0 < wall := zero_lt_one.trans_le hlasts
  have hcount : (n : K) ≤ (wall + (cfg.resyncThreshold + period cfg))
      / (period cfg - 1 / 1000000000) := by
    rw [le_div_iff₀ hshort]
    have hnanosecond : (0 : K) < 1 / 1000000000 := one_div_pos.mpr billion_pos
    linarith
  have hperiod' : 0 < period cfg := (one_div_pos.mpr billion_pos).trans hperiod
  have htimestep : cfg.timestep = cfg.rtf * period cfg := (mul_div_cancel₀ _ hrtf.ne').symm
  calc (n : K) * cfg.timestep / wall
      = cfg.rtf * period cfg * n / wall := by rw [htimestep, mul_comm]
    _ ≤ cfg.rtf * period cfg * ((wall + (cfg.resyncThreshold + period cfg))
        / (period cfg - 1 / 1000000000)) / wall := by gcongr
    _ = cfg.rtf * (period cfg / (period cfg - 1 / 1000000000))
        * (1 + (cfg.resyncThreshold + period cfg) / wall) := by
      rw [one_add_div hpos.ne']
      ring

end Trace

/-- **The measured real-time factor is true**, along a run of passes from the entry of the loop. -/
structure MeasuredTruly (cfg : PacingConfig K) (start : Timespec) (es : List ClockReads) :
    Prop where
  counted : ((measuring cfg).run (enter start) es).steps = es.length
  /-- The windows follow on from each other, from the entry to the window that is open, -/
  tiles : Tiles start.toSeconds 0 ((measuring cfg).trace (enter start) es)
    ((measuring cfg).run (enter start) es).windowWallStart
    ((measuring cfg).run (enter start) es).windowStepStart
  recent : ∀ pre e, es = pre ++ [e] →
    e.wall.toSeconds - ((measuring cfg).run (enter start) es).windowWallStart < 1
  /-- each with the factor that its steps and its wall time make, -/
  measures : ∀ w ∈ (measuring cfg).trace (enter start) es, w.Measures cfg.timestep
  /-- so that what they measure adds up to the simulated time. -/
  total : (((measuring cfg).trace (enter start) es).map fun w => w.rtf * w.wall).sum
    = ((measuring cfg).run (enter start) es).windowStepStart * cfg.timestep
  /-- The factor shown is the last one, -/
  shown : ((measuring cfg).run (enter start) es).measuredRtf
    = (((measuring cfg).trace (enter start) es).getLast?.map RtfWindow.rtf).getD 0
  /-- and where the loop is paced, none is far above the one asked for. -/
  paced : ClockTrace cfg start es → 0 < cfg.rtf → 0 ≤ cfg.resyncThreshold →
    1 / 1000000000 < period cfg → ∀ w ∈ (measuring cfg).trace (enter start) es,
      w.rtf ≤ cfg.rtf * (period cfg / (period cfg - 1 / 1000000000))
        * (1 + (cfg.resyncThreshold + period cfg) / w.wall)

theorem measuredRtf_true [IsStrictOrderedRing K] (cfg : PacingConfig K) (start : Timespec)
    (es : List ClockReads) : MeasuredTruly cfg start es := by
  have htiles := tiles_trace cfg (enter start) es
  have hmeasures : ∀ w ∈ (measuring cfg).trace (enter start) es, w.Measures cfg.timestep :=
    fun w hw => measures_of_mem_trace le_rfl hw
  refine ⟨(steps_run _ es).trans (Nat.zero_add _), htiles, ?_, hmeasures,
    (htiles.sum_eq hmeasures).2, measuredRtf_run _ es, ?_⟩
  · rintro pre e rfl
    rw [Machine.run_append]
    exact wall_sub_lt_one _ e
  · intro htrace hrtf hthreshold hperiod w hw
    exact rtf_le htrace hrtf hthreshold hperiod hw

/-- The loop goes on after the sleep that was too long, and another sleep is half a second late. -/
def oversleptAgain : List ClockReads :=
  overslept ++ [⟨⟨5, 0⟩, ⟨6, 500000000⟩, ⟨6, 500000000⟩⟩]

/-- Two windows close: the first with a step in five seconds, the second with two in a second and a
half, more than the factor asked for and no more than the bound. -/
theorem measuredRtf_oversleptAgain :
    ClockTrace eachSecond ⟨0, 0⟩ oversleptAgain ∧ MeasuredTruly eachSecond ⟨0, 0⟩ oversleptAgain
      ∧ (measuring eachSecond).trace (enter ⟨0, 0⟩) oversleptAgain
        = [⟨0, 5, 0, 1, 1 / 5⟩, ⟨5, 13 / 2, 1, 3, 4 / 3⟩] :=
  ⟨⟨by decide, by decide +kernel⟩, measuredRtf_true eachSecond ⟨0, 0⟩ oversleptAgain,
    by decide +kernel⟩

end Pacing

end K1Sim
