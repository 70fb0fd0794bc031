import K1Sim.Foundations.WorkerPool
import K1Sim.SdkBridge.OdometryReset

/-!
# SdkBridge/UpdateOrder — state updates reach the publisher through the pool

The reaction to `SimStateUpdate` is bound without `Sync`, so the updates of one run are tasks of the
common pool, and `publish` is called on them in any order.  `publishesInOrder_iff` says along which
orders the samples on the wire follow the step counter and the odometry does not start again.
-/

namespace K1Sim

open Foundations

/-- `SdkBridge` behind the physics loop: the reactions to its updates, which act on the publisher
once Startup has created it. -/
structure SdkBridge (K ρ : Type*) [Field K] where
  core : SimCore K := {}
  reactions : Pool (SimStateUpdate K) (Option (StatePublisher K ρ)) := ⟨[], [], none⟩

/-- What can happen: a physics step, with what a snapshot after it would read; the end of
`SdkBridge`'s Startup; a thread of the pool takes up the reaction to an update; the `i`-th reaction
in flight gets to its call of `publish`. -/
inductive SdkBridgeEvent (K : Type*) where
  | step (reading : Reading K)
  | startup
  | start
  | finish (i : ℕ)

/-- An update that was published, and the samples that went on the wire. -/
abbrev Publication (K : Type*) := SimStateUpdate K × List (StateSample K)

/-- The samples on `rt/low_state`, each with the step count of its update. -/
def lowStateTopic {K : Type*} (published : List (Publication K)) : List (ℕ × LowStateMsg K) :=
  published.flatMap fun w => w.2.filterMap fun
    | .lowState msg => some (w.1.stepCount, msg)
    | _ => none

namespace SdkBridge

open StatePublisher (noDraw enabledOdometry)

variable {K : Type*} [Field K] [Libc K] [LinearOrder K] {ρ : Type*} (normal : ρ → K × ρ)

/-- The reaction to an update: before Startup has created the publisher it returns. -/
def onUpdate (publisher : Option (StatePublisher K ρ)) (update : SimStateUpdate K) :
    Option (StatePublisher K ρ) :=
  publisher.map fun p => (p.publish normal update).1

/-- The publisher as Startup creates it. -/
def fresh (cfg : OdometryModel.Config K) (rng : ρ) : StatePublisher K ρ :=
  { odometry := { config := cfg, rng := rng } }

/-- The bridge on a pool of `threads`.  Its outputs are the updates published. -/
def machine (timestep : K) (divisor : ℤ) (threads : ℕ) (cfg : OdometryModel.Config K) (rng : ρ) :
    Machine (SdkBridge K ρ) (SdkBridgeEvent K) (Publication K) where
  next s
    | .step reading =>
      { core := s.core.step timestep
        reactions :=
          match (SimCore.physicsLoop timestep divisor).out s.core (.step reading) with
          | none => s.reactions
          | some update =>
            (Pool.machine threads (onUpdate normal)).next s.reactions (.emit update) }
    | .startup =>
      { s with
        reactions :=
          { s.reactions with state := some (s.reactions.state.getD (fresh cfg rng)) } }
    | .start =>
      { s with reactions := (Pool.machine threads (onUpdate normal)).next s.reactions .start }
    | .finish i =>
      { s with reactions := (Pool.machine threads (onUpdate normal)).next s.reactions (.finish i) }
  out s
    | .finish i =>
      s.reactions.running[i]?.bind fun update =>
        s.reactions.state.map fun p => (update, (p.publish normal update).2)
    | _ => none

/-- Once the odometry has begun, an update does not make it start again from the truth. -/
def GoesOn (s : SdkBridge K ρ) : SdkBridgeEvent K → Prop
  | .finish i => ∀ update ∈ s.reactions.running[i]?, ∀ p ∈ s.reactions.state,
    p.odometry.initialised = true → ¬ p.odometry.Restarts update.simTime
  | _ => True

instance (s : SdkBridge K ρ) : (e : SdkBridgeEvent K) → Decidable (GoesOn s e)
  | .finish _ => inferInstanceAs (Decidable (∀ _ ∈ _, _))
  | .step _ | .startup | .start => .isTrue trivial

/-- The history variable: how many of the reactions in flight the last one to publish overtook. -/
def overtaken (timestep : K) (divisor : ℤ) (threads : ℕ) (cfg : OdometryModel.Config K) (rng : ρ)
    (h : ℕ) (s : SdkBridge K ρ) (e : SdkBridgeEvent K) : ℕ :=
  match (machine normal timestep divisor threads cfg rng).out s e, e with
  | some _, .finish i => i
  | _, _ => h

omit [Libc K] [LinearOrder K] in
/-- A reaction that gets to the publisher has not been overtaken by the reaction to a later update,
and the error model is switched on unless its update is the first. -/
def TakenInTurn (p : SdkBridge K ρ × ℕ) : SdkBridgeEvent K → Prop
  | .finish i => i < p.1.reactions.running.length → ∀ publisher ∈ p.1.reactions.state,
    p.2 ≤ i ∧ (publisher.odometry.initialised = true → publisher.odometry.config.enabled = true)
  | _ => True

/-- What the clock, the updates on their way and the publisher have to do with each other and with
the last publication. -/
structure OrderInv (timestep : K) (s : SdkBridge K ρ) (h : ℕ) (last : Option (Publication K)) :
    Prop where
  time : s.core.time = timestep * s.core.steps
  stamped : ∀ update ∈ s.reactions.pending,
    update.simTime = timestep * update.stepCount ∧ update.stepCount ≤ s.core.steps
  turn : s.reactions.InTurn SimStateUpdate.stepCount (last.map fun w => w.1.stepCount) h
  first : last = none → h = 0
  last_le : ∀ w ∈ last, w.1.stepCount ≤ s.core.steps
  unstarted : s.reactions.state = none → last = none
  publisher : ∀ p, s.reactions.state = some p →
    p.odometry.initialised = last.isSome ∧ ∀ w ∈ last, p.odometry.t = timestep * w.1.stepCount

variable {normal} {timestep : K} {divisor : ℤ} {threads : ℕ} {cfg : OdometryModel.Config K}
  {rng : ρ}

theorem out_finish {s : SdkBridge K ρ} {i : ℕ} {update : SimStateUpdate K}
    {p : StatePublisher K ρ} (hi : s.reactions.running[i]? = some update)
    (hp : s.reactions.state = some p) :
    (machine normal timestep divisor threads cfg rng).out s (.finish i)
      = some (update, (p.publish normal update).2) := by
  simp [machine, hi, hp]

theorem exists_of_out_eq_some {s : SdkBridge K ρ} {e : SdkBridgeEvent K} {w : Publication K}
    (hout : (machine normal timestep divisor threads cfg rng).out s e = some w) :
    ∃ p : StatePublisher K ρ, w.2 = (p.publish normal w.1).2 := by
  rcases e with reading | - | - | i
  case step | startup | start => cases hout
  case finish =>
    obtain ⟨update, -, hmap⟩ := Option.bind_eq_some_iff.mp hout
    obtain ⟨p, -, rfl⟩ := Option.map_eq_some_iff.mp hmap
    exact ⟨p, rfl⟩

omit [Libc K] in
theorem goesOn_finish {s : SdkBridge K ρ} {i : ℕ} {update : SimStateUpdate K}
    {p : StatePublisher K ρ} (hi : s.reactions.running[i]? = some update)
    (hp : s.reactions.state = some p) :
    GoesOn s (.finish i)
      ↔ (p.odometry.initialised = true → ¬ p.odometry.Restarts update.simTime) := by
  rw [GoesOn, hi, hp]
  simp only [Option.mem_some_iff, forall_eq']

variable (normal divisor threads cfg rng) in
theorem OrderInv.inOrder_iff [IsStrictOrderedRing K] (ht : 0 < timestep) {s : SdkBridge K ρ}
    {h : ℕ} {last : Option (Publication K)} (hinv : OrderInv timestep s h last)
    (e : SdkBridgeEvent K) :
    ((∀ o ∈ (machine normal timestep divisor threads cfg rng).out s e, ∀ l ∈ last,
        l.1.stepCount < o.1.stepCount) ∧ GoesOn s e)
      ↔ TakenInTurn (s, h) e := by
  rcases e with reading | - | - | i
  case step | startup | start => simp [machine, GoesOn, TakenInTurn]
  case finish =>
    rcases hi : s.reactions.running[i]? with - | update
    case none => simpa [machine, GoesOn, TakenInTurn, hi] using fun hlt => absurd hi (by simp [hlt])
    case some =>
      have hlt : i < s.reactions.running.length := (List.getElem?_eq_some_iff.mp hi).1
      rcases hp : s.reactions.state with - | p
      case none => simp [machine, GoesOn, TakenInTurn, hi, hp]
      case some =>
        obtain ⟨hinit, hclock⟩ := hinv.publisher p hp
        have hturn := hinv.turn.after_latest_iff (by simpa using hinv.first) hi
        obtain ⟨htime, -⟩ := hinv.stamped update
          (List.mem_append_left _ (List.mem_of_getElem? hi))
        rcases hlast : last with - | w
        case none =>
          have hnone := hinv.first hlast
          simp [TakenInTurn, out_finish hi hp, goesOn_finish hi hp, hp, hlt, hlast, hinit, hnone]
        case some =>
          have hafter : w.1.stepCount < update.stepCount ↔ h ≤ i := by simpa [hlast] using hturn
          have helapsed : update.simTime - p.odometry.t ≤ 0 ↔ ¬ h ≤ i := by
            rw [htime, hclock w hlast, sub_nonpos, mul_le_mul_iff_right₀ ht, Nat.cast_le, ← hafter,
              not_lt]
          simp only [goesOn_finish hi hp, OdometryModel.Restarts, helapsed]
          simpa [TakenInTurn, out_finish hi hp, hp, hlt, hlast, hinit, hafter]
            using fun hle _ => hle

theorem OrderInv.step {s : SdkBridge K ρ} {h : ℕ} {last : Option (Publication K)}
    (hinv : OrderInv timestep s h last) (reading : Reading K) :
    OrderInv timestep ((machine normal timestep divisor threads cfg rng).next s (.step reading)) h
      last := by
  obtain ⟨htime, hstamped, hturn, hfirst, hlast, hunstarted, hpublisher⟩ := hinv
  have hclock : s.core.time + timestep = timestep * ((s.core.steps + 1 : ℕ) : K) := by
    rw [htime]
    push_cast
    ring
  have hstamped' : ∀ update ∈ s.reactions.pending,
      update.simTime = timestep * update.stepCount ∧ update.stepCount ≤ s.core.steps + 1 :=
    fun update hmem => ⟨(hstamped update hmem).1, Nat.le_succ_of_le (hstamped update hmem).2⟩
  have hlast' : ∀ w ∈ last, w.1.stepCount ≤ s.core.steps + 1 :=
    fun w hw => Nat.le_succ_of_le (hlast w hw)
  rcases hout : (SimCore.physicsLoop timestep divisor).out s.core (.step reading) with - | update
  · simp only [machine, hout]
    exact ⟨hclock, hstamped', hturn, hfirst, hlast', hunstarted, hpublisher⟩
  · obtain ⟨reading, -, -, -, rfl⟩ := SimCore.out_eq_some_iff.mp hout
    simp only [machine, hout]
    refine ⟨hclock, ?_, ?_, hfirst, hlast', hunstarted, hpublisher⟩
    · intro update hmem
      rw [Pool.pending_emit, List.mem_append, List.mem_singleton] at hmem
      rcases hmem with hold | rfl
      · exact hstamped' update hold
      · exact ⟨hclock, le_refl _⟩
    · refine hturn.emit threads (onUpdate normal)
        (fun update hmem => Nat.lt_succ_of_le (hstamped update hmem).2) fun k hk => ?_
      obtain ⟨w, hw, rfl⟩ := Option.mem_map.mp hk
      exact Nat.lt_succ_of_le (hlast w hw)

omit [Libc K] [LinearOrder K] in
/-- The clock stands still while the pool moves. -/
theorem OrderInv.of_core_eq {s s' : SdkBridge K ρ} {h h' : ℕ} {last last' : Option (Publication K)}
    (hinv : OrderInv timestep s h last) (hcore : s'.core = s.core)
    (hpending : ∀ update ∈ s'.reactions.pending, update ∈ s.reactions.pending)
    (hturn : s'.reactions.InTurn SimStateUpdate.stepCount (last'.map fun w => w.1.stepCount) h')
    (hfirst : last' = none → h' = 0) (hlast : ∀ w ∈ last', w.1.stepCount ≤ s.core.steps)
    (hunstarted : s'.reactions.state = none → last' = none)
    (hpublisher : ∀ p, s'.reactions.state = some p →
      p.odometry.initialised = last'.isSome
        ∧ ∀ w ∈ last', p.odometry.t = timestep * w.1.stepCount) :
    OrderInv timestep s' h' last' := by
  refine ⟨?_, ?_, hturn, hfirst, ?_, hunstarted, hpublisher⟩
  · rw [hcore]
    exact hinv.time
  · rw [hcore]
    exact fun update hmem => hinv.stamped update (hpending update hmem)
  · rwa [hcore]

/-- A publisher just made knows nothing of an update, unless it was there before. -/
theorem OrderInv.startup {s : SdkBridge K ρ} {h : ℕ} {last : Option (Publication K)}
    (hinv : OrderInv timestep s h last) :
    OrderInv timestep ((machine normal timestep divisor threads cfg rng).next s .startup) h
      last := by
  refine hinv.of_core_eq rfl (fun _ hmem => hmem) ?_ hinv.first hinv.last_le nofun ?_
  · exact ⟨hinv.turn.sorted, hinv.turn.le_length, hinv.turn.behind, hinv.turn.ahead⟩
  · intro p hp
    obtain rfl := Option.some.inj hp
    rcases hstate : s.reactions.state with - | q
    case none =>
      rw [hinv.unstarted hstate]
      exact ⟨rfl, nofun⟩
    case some => exact hinv.publisher q hstate

theorem OrderInv.start {s : SdkBridge K ρ} {h : ℕ} {last : Option (Publication K)}
    (hinv : OrderInv timestep s h last) :
    OrderInv timestep ((machine normal timestep divisor threads cfg rng).next s .start) h last := by
  obtain ⟨hpending, hstate⟩ := s.reactions.start_frame threads (onUpdate normal)
  refine hinv.of_core_eq rfl (fun _ hmem => hpending ▸ hmem)
    (hinv.turn.start threads (onUpdate normal)) hinv.first hinv.last_le (fun h => ?_) fun p hp => ?_
  · exact hinv.unstarted (hstate.symm.trans h)
  · exact hinv.publisher p (hstate.symm.trans hp)

/-- A reaction that ends takes its update off the pool. -/
theorem pending_finish {s : SdkBridge K ρ} {i : ℕ} {update : SimStateUpdate K}
    (hi : s.reactions.running[i]? = some update) :
    ∀ u ∈ ((machine normal timestep divisor threads cfg rng).next s (.finish i)).reactions.pending,
      u ∈ s.reactions.pending := by
  intro u hu
  simp only [machine, Pool.finish_of_getElem? threads (onUpdate normal) hi] at hu
  exact ((List.eraseIdx_sublist _ _).append_right _).subset hu

/-- An update that finds no publisher is dropped. -/
theorem OrderInv.finish_dropped {s : SdkBridge K ρ} (hinv : OrderInv timestep s 0 none) {i : ℕ}
    {update : SimStateUpdate K} (hi : s.reactions.running[i]? = some update)
    (hp : s.reactions.state = none) :
    OrderInv timestep ((machine normal timestep divisor threads cfg rng).next s (.finish i)) 0
      none := by
  refine hinv.of_core_eq rfl (pending_finish hi) (hinv.turn.drop threads (onUpdate normal) i)
    (fun _ => rfl) nofun (fun _ => rfl) fun p hstate => ?_
  simp [machine, Pool.finish_of_getElem? threads (onUpdate normal) hi, hp, onUpdate] at hstate

/-- An update that finds the publisher is the last publication. -/
theorem OrderInv.finish_published {s : SdkBridge K ρ} {h : ℕ} {last : Option (Publication K)}
    (hinv : OrderInv timestep s h last) {i : ℕ} {update : SimStateUpdate K}
    {p : StatePublisher K ρ} (hi : s.reactions.running[i]? = some update)
    (hp : s.reactions.state = some p) :
    OrderInv timestep ((machine normal timestep divisor threads cfg rng).next s (.finish i))
      (overtaken normal timestep divisor threads cfg rng h s (.finish i))
      (some (update, (p.publish normal update).2)) := by
  obtain ⟨htime, hle⟩ := hinv.stamped update (List.mem_append_left _ (List.mem_of_getElem? hi))
  obtain ⟨ht, hinitialised, -⟩ := StatePublisher.publish_odometry_frame normal p update
  have hstate : ((machine normal timestep divisor threads cfg rng).next s
      (.finish i)).reactions.state = some (p.publish normal update).1 := by
    simp [machine, Pool.finish_of_getElem? threads (onUpdate normal) hi, hp, onUpdate]
  simp only [overtaken, out_finish hi hp]
  refine hinv.of_core_eq rfl (pending_finish hi) (hinv.turn.finish threads (onUpdate normal) hi)
    nofun ?_ ?_ ?_
  · intro w hw
    obtain rfl := Option.some.inj hw
    exact hle
  · intro hnone
    rw [hstate] at hnone
    exact nomatch hnone
  · intro p' hp'
    rw [hstate] at hp'
    obtain rfl := Option.some.inj hp'
    refine ⟨hinitialised, fun w hw => ?_⟩
    obtain rfl := Option.some.inj hw
    exact ht.trans htime

theorem OrderInv.next {s : SdkBridge K ρ} {h : ℕ} {last : Option (Publication K)}
    (hinv : OrderInv timestep s h last) (e : SdkBridgeEvent K) :
    OrderInv timestep ((machine normal timestep divisor threads cfg rng).next s e)
      (overtaken normal timestep divisor threads cfg rng h s e)
      (((machine normal timestep divisor threads cfg rng).out s e).or last) := by
  rcases e with reading | - | - | i
  case step => exact hinv.step reading
  case startup => exact hinv.startup
  case start => exact hinv.start
  case finish =>
    rcases hi : s.reactions.running[i]? with - | update
    case none =>
      simpa [machine, overtaken, hi, Pool.finish_of_none threads (onUpdate normal) hi] using hinv
    case some =>
      rcases hp : s.reactions.state with - | p
      case none =>
        obtain rfl := hinv.unstarted hp
        obtain rfl := hinv.first rfl
        have hout : (machine normal timestep divisor threads cfg rng).out s (.finish i) = none := by
          simp [machine, hp]
        simp only [overtaken, hout, Option.none_or]
        exact hinv.finish_dropped hi hp
      case some =>
        rw [out_finish hi hp, Option.some_or]
        exact hinv.finish_published hi hp

/-- Publishing writes one sample on `rt/low_state`. -/
theorem lowStateTopic_publish {p : StatePublisher K ρ} {w : Publication K}
    (hw : w.2 = (p.publish normal w.1).2) :
    lowStateTopic [w] = [(w.1.stepCount, lowState w.1)] := by
  rw [lowStateTopic, List.flatMap_singleton, hw, StatePublisher.publish]
  split <;> cases w.1.head <;> simp

theorem lowStateTopic_trace (s : SdkBridge K ρ) (es : List (SdkBridgeEvent K)) :
    lowStateTopic ((machine normal timestep divisor threads cfg rng).trace s es)
      = ((machine normal timestep divisor threads cfg rng).trace s es).map
        fun w => (w.1.stepCount, lowState w.1) := by
  induction es generalizing s with
  | nil => rfl
  | cons e es ih =>
    rw [Machine.trace_cons, List.map_append, ← ih, lowStateTopic, List.flatMap_append]
    refine congrArg₂ _ ?_ rfl
    rcases hout : (machine normal timestep divisor threads cfg rng).out s e with - | w
    case none => rfl
    case some =>
      obtain ⟨p, hw⟩ := exists_of_out_eq_some hout
      exact lowStateTopic_publish hw

/-- **Updates are published in order exactly when no reaction is overtaken.**  Along every run of
the physics loop and every order in which the reactions to its updates get to the publisher, the
samples on `rt/low_state` follow the step counter and the odometry, once begun, goes on, if and only
if each reaction that gets there comes after no reaction to a later update — and, from the second
on, with the error model switched on. -/
theorem publishesInOrder_iff [IsStrictOrderedRing K] (ht : 0 < timestep) (divisor : ℤ)
    (threads : ℕ) (cfg : OdometryModel.Config K) (rng : ρ) (es : List (SdkBridgeEvent K)) :
    (lowStateTopic ((machine normal timestep divisor threads cfg rng).trace {} es)).Pairwise
        (fun a b => a.1 < b.1)
      ∧ (machine normal timestep divisor threads cfg rng).Always GoesOn {} es
      ↔ ((machine normal timestep divisor threads cfg rng).withHistory
          (overtaken normal timestep divisor threads cfg rng)).Always TakenInTurn ({}, 0) es := by
  let M := machine normal timestep divisor threads cfg rng
  let N := M.withHistory (overtaken normal timestep divisor threads cfg rng)
  let R (a b : Publication K) := a.1.stepCount < b.1.stepCount
  have : IsTrans (Publication K) R := ⟨fun _ _ _ => Nat.lt_trans⟩
  have hsorted : (lowStateTopic (M.trace {} es)).Pairwise (fun a b => a.1 < b.1)
      ↔ (N.withHistory N.lastOut).Always (fun p e => ∀ o ∈ N.out p.1 e, ∀ l ∈ p.2, R l o)
        (({}, 0), none) es := by
    rw [lowStateTopic_trace, List.pairwise_map, ← N.pairwise_trace_iff R, M.trace_withHistory]
  have hgoes : M.Always GoesOn {} es
      ↔ (N.withHistory N.lastOut).Always (fun p e => GoesOn p.1.1 e) (({}, 0), none) es :=
    ((N.always_withHistory N.lastOut none _ es).trans (M.always_withHistory _ 0 _ es)).symm
  rw [hsorted, hgoes, ← Machine.always_and]
  let Inv (s : (SdkBridge K ρ × ℕ) × Option (Publication K)) := OrderInv timestep s.1.1 s.1.2 s.2
  have hstart : Inv (({}, 0), none) := by
    refine ⟨by simp, fun _ h => absurd h List.not_mem_nil, ?_, fun _ => rfl, nofun, fun _ => rfl,
      nofun⟩
    exact ⟨List.Pairwise.nil, Nat.le_refl 0, fun _ h => absurd h List.not_mem_nil,
      fun _ h => absurd h List.not_mem_nil⟩
  have hiff : ∀ s e, Inv s →
      ((∀ o ∈ N.out s.1 e, ∀ l ∈ s.2, R l o) ∧ GoesOn s.1.1 e ↔ TakenInTurn s.1 e) :=
    fun s e hinv => hinv.inOrder_iff normal divisor threads cfg rng ht e
  have hnext : ∀ s e, Inv s → Inv ((N.withHistory N.lastOut).next s e) :=
    fun s e hinv => hinv.next e
  exact (Machine.always_iff_always _ hiff (fun s e hinv _ => hnext s e hinv) es _ hstart).trans
    (N.always_withHistory N.lastOut none _ es)

/-- Two updates, both in flight, published in turn. -/
theorem publishesInOrder_inTurn :
    let es : List (SdkBridgeEvent ℚ) :=
      [.startup, .step restReading, .start, .step restReading, .start, .finish 0, .finish 0]
    let M := machine noDraw 1 1 4 enabledOdometry ()
    (lowStateTopic (M.trace {} es)).Pairwise (fun a b => a.1 < b.1) ∧ M.Always GoesOn {} es := by
  intro es M
  refine (publishesInOrder_iff one_pos 1 4 enabledOdometry () es).mpr ?_
  refine ⟨trivial, trivial, trivial, trivial, trivial, ?_, ?_, trivial⟩
  · exact fun _ _ _ => ⟨Nat.zero_le _, fun _ => by cases ‹_ ∈ _›; rfl⟩
  · exact fun _ _ _ => ⟨Nat.zero_le _, fun _ => by cases ‹_ ∈ _›; rfl⟩

/-- The second of two updates in flight gets to the publisher first: its sample goes out first, and
the update of the first then starts the odometry again. -/
theorem publishesOutOfOrder :
    let es : List (SdkBridgeEvent ℚ) :=
      [.startup, .step restReading, .start, .step restReading, .start, .finish 1, .finish 0]
    let M := machine noDraw 1 1 4 enabledOdometry ()
    ¬ (lowStateTopic (M.trace {} es)).Pairwise (fun a b => a.1 < b.1)
      ∧ ¬ M.Always GoesOn {} es := by
  intro es M
  exact ⟨by decide +kernel, by decide +kernel⟩

end SdkBridge

end K1Sim
