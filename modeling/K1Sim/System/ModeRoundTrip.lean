import K1Sim.System.ModesAccounted

/-!
# System/ModeRoundTrip — a mode asked for is told

A request that is alone on its way stays so until a `step` has taken it up (`UnderWay.next`); from
then on the robot is in the mode asked for, and so is all that the server is told
(`getMode_of_changeMode`).
-/

namespace K1Sim

open Foundations

namespace ModeLoop

open LocomotionController

section RoundTrip

variable {K : Type} [Field K]

/-- The controller has taken up every request up to the `n`-th, the last there is. -/
structure CaughtUp (n : UInt64) (w : World K) : Prop where
  mailbox : w.ctl.mailbox.modeSeq = n
  last : w.ctl.fsm.lastModeSeq = n
  snapped : ∀ snap, w.phase = .snapped snap → snap.modeSeq = n

/-- The next request is in the mailbox, and a `step` may have taken it up. -/
structure Arrived (v : ℤ) (st : State) (n : UInt64) (w : World K) : Prop where
  seq : w.ctl.mailbox.modeSeq = n + 1
  requested : w.ctl.mailbox.requestedMode = v
  taken : w.ctl.fsm.lastModeSeq = n
    ∨ (w.ctl.fsm.lastModeSeq = n + 1 ∧ w.ctl.fsm.state = st)
  snapped : ∀ snap, w.phase = .snapped snap →
    (snap.modeSeq = n ∧ w.ctl.fsm.lastModeSeq = n)
      ∨ (snap.modeSeq = n + 1 ∧ snap.requestedMode = v)

/-- No request is on its way: none waits for a thread, and none for a `step`. -/
structure TakenUp (p : Loop K) : Prop where
  pending : p.pending.filterMap Reaction.modeOf = []
  caughtUp : ∃ n, CaughtUp n p.state.world

/-- Nor is a snapshot, and the controller is attached. -/
structure Settled (p : Loop K) : Prop extends TakenUp p where
  updates : ∀ mode, .update mode ∉ p.pending
  outgoing : p.state.outgoing = none
  attached : p.state.attached = true

/-- A request is the only one on its way. -/
inductive UnderWay (v : ℤ) (st : State) (n : UInt64) (p : Loop K) : Prop where
  | queued (hpending : p.pending.filterMap Reaction.modeOf = [v])
      (hworld : CaughtUp n p.state.world)
  | arrived (hpending : p.pending.filterMap Reaction.modeOf = [])
      (hworld : Arrived v st n p.state.world)

theorem succ_ne (n : UInt64) : n + 1 ≠ n := by
  intro h
  exact absurd (add_eq_left.mp h) (by decide)

variable {lib : JsonLibrary K} {v : ℤ} {st : State} {n : UInt64}

/-- A reaction that asks for no mode is not felt, -/
theorem CaughtUp.react {s : Shared K} (h : CaughtUp n s.world) {r : Reaction K}
    (hr : r.modeOf = none) : CaughtUp n (react lib s r).world := by
  obtain ⟨hphase, hfsm, -, hseq⟩ := react_world lib s r
  rw [hr] at hseq
  exact ⟨hseq.trans h.mailbox, by rw [hfsm]; exact h.last, by rw [hphase]; exact h.snapped⟩

theorem Arrived.react {s : Shared K} (h : Arrived v st n s.world) {r : Reaction K}
    (hr : r.modeOf = none) : Arrived v st n (ModeLoop.react lib s r).world := by
  obtain ⟨hphase, hfsm, hmailbox, hseq⟩ := react_world lib s r
  rw [hr] at hmailbox hseq
  refine ⟨hseq.trans h.seq, hmailbox.trans h.requested, ?_, ?_⟩
  · rw [hfsm]
    exact h.taken
  · rw [hphase, hfsm]
    exact h.snapped

/-- and one that does puts it in the mailbox. -/
theorem CaughtUp.arrive {s : Shared K} (h : CaughtUp n s.world) {r : Reaction K}
    (hr : r.modeOf = some v) : Arrived v st n (ModeLoop.react lib s r).world := by
  obtain ⟨hphase, hfsm, hmailbox, hseq⟩ := react_world lib s r
  rw [hr] at hmailbox hseq
  refine ⟨hseq.trans (congrArg (· + 1) h.mailbox), hmailbox, .inl ?_, fun snap hsnap => ?_⟩
  · rw [hfsm]
    exact h.last
  · rw [hphase] at hsnap
    rw [hfsm]
    exact .inl ⟨h.snapped snap hsnap, h.last⟩

variable [LinearOrder K] [Libc K] {lm : LoadedModel K} {status : ℤ}

theorem CaughtUp.next {w : World K} (h : CaughtUp n w) {f : Event K}
    (hf : ∀ call, f ≠ .call call) : CaughtUp n ((world lm).next w f) := by
  obtain ⟨hmailbox, -, -, hseq, hkept⟩ | hnext | ⟨snap, hphase, hnext⟩ := uncalled_next lm w hf
  case kept =>
    exact ⟨hmailbox ▸ h.mailbox, hseq.trans h.last,
      fun snap hsnap => h.snapped snap (hkept snap hsnap)⟩
  case snapped =>
    rw [hnext]
    refine ⟨h.mailbox, h.last, fun snap hsnap => ?_⟩
    obtain rfl := Phase.snapped.inj hsnap
    exact h.mailbox
  case consumed =>
    have hold : snap.modeSeq = w.ctl.fsm.lastModeSeq := (h.snapped snap hphase).trans h.last.symm
    rw [hnext, consumeModeRequest, if_pos hold]
    exact ⟨h.mailbox, h.last, fun _ hsnap => by cases hsnap⟩

omit [Libc K] in
/-- **The `step` that sees the request takes it up.** -/
theorem Arrived.consume {w : World K} (hst : effectiveState v = some st) (h : Arrived v st n w)
    {snap : CommandSnapshot K} (hphase : w.phase = .snapped snap) :
    Arrived v st n
      { w with ctl := consumeModeRequest lm w.ctl snap w.data, phase := .consumed snap } := by
  obtain ⟨-, hlast, motors, hmailbox⟩ := consumeModeRequest_frame lm w.ctl snap w.data
  have hstate := consumeModeRequest_state lm w.ctl snap w.data
  refine ⟨?_, ?_, ?_, fun _ hsnap => by cases hsnap⟩
  · rw [hmailbox]
    exact h.seq
  · rw [hmailbox]
    exact h.requested
  · rw [hlast, hstate]
    obtain ⟨hold, -⟩ | ⟨hnew, hrequested⟩ := h.snapped snap hphase
    · exact .inl hold
    · refine .inr ⟨hnew, ?_⟩
      rw [hrequested, hst]
      obtain hwaits | ⟨hdone, hentered⟩ := h.taken
      · exact if_neg fun heq => succ_ne n (hnew.symm.trans (heq.trans hwaits))
      · exact (if_pos (hnew.trans hdone.symm)).trans hentered

theorem Arrived.next {w : World K} (hst : effectiveState v = some st) (h : Arrived v st n w)
    {f : Event K} (hf : ∀ call, f ≠ .call call) : Arrived v st n ((world lm).next w f) := by
  obtain ⟨hmailbox, hstate, -, hseq, hkept⟩ | hnext | ⟨snap, hphase, hnext⟩ :=
    uncalled_next lm w hf
  case kept =>
    refine ⟨hmailbox ▸ h.seq, hmailbox ▸ h.requested, ?_, fun snap hsnap => ?_⟩
    · rw [hseq, hstate]
      exact h.taken
    · rw [hseq]
      exact h.snapped snap (hkept snap hsnap)
  case snapped =>
    rw [hnext]
    refine ⟨h.seq, h.requested, h.taken, fun snap hsnap => .inr ?_⟩
    obtain rfl := Phase.snapped.inj hsnap
    exact ⟨h.seq, h.requested⟩
  case consumed =>
    rw [hnext]
    exact h.consume hst hphase

/-- **A request on its way stays the only one**, as long as nothing else is asked for. -/
theorem UnderWay.next {p : Loop K} (hst : effectiveState v = some st) (h : UnderWay v st n p)
    {e : LoopEvent K} (hasked : asked lib p e = []) :
    UnderWay v st n (next lib lm status p e) := by
  obtain ⟨rs, hemits, hpending, hworld⟩ | ⟨r, hperm, hworld⟩ | ⟨f, hf, hpending, hworld⟩ :=
    step_next lib lm status p e
  case emitted =>
    have hnone : rs.filterMap Reaction.modeOf = [] := by
      refine List.filterMap_eq_nil_iff.mpr fun r hr => Option.eq_none_iff_forall_not_mem.mpr ?_
      exact fun w hw => List.not_mem_nil (hasked ▸ (hemits r hr).1 w hw)
    have hsame : (ModeLoop.next lib lm status p e).pending.filterMap Reaction.modeOf
        = p.pending.filterMap Reaction.modeOf := by
      rw [hpending, List.filterMap_append, hnone, List.append_nil]
    cases h with
    | queued hqueued hw => exact .queued (hsame.trans hqueued) (hworld ▸ hw)
    | arrived hnothing hw => exact .arrived (hsame.trans hnothing) (hworld ▸ hw)
  case finished =>
    have hmodes := hperm.filterMap Reaction.modeOf
    rcases hr : r.modeOf with - | u
    · rw [List.filterMap_cons_none hr] at hmodes
      cases h with
      | queued hqueued hw =>
        rw [hqueued] at hmodes
        exact .queued (List.perm_singleton.mp hmodes) (hworld ▸ hw.react hr)
      | arrived hnothing hw =>
        rw [hnothing] at hmodes
        exact .arrived (List.perm_nil.mp hmodes) (hworld ▸ hw.react hr)
    · rw [List.filterMap_cons_some hr] at hmodes
      cases h with
      | queued hqueued hw =>
        rw [hqueued] at hmodes
        obtain ⟨rfl, hrest⟩ := List.cons.inj (List.perm_singleton.mp hmodes)
        exact .arrived hrest (hworld ▸ hw.arrive hr)
      | arrived hnothing hw =>
        rw [hnothing] at hmodes
        exact absurd (List.perm_nil.mp hmodes) (List.cons_ne_nil _ _)
  case went =>
    cases h with
    | queued hqueued hw => exact .queued (hpending ▸ hqueued) (hworld ▸ hw.next hf)
    | arrived hnothing hw => exact .arrived (hpending ▸ hnothing) (hworld ▸ hw.next hst hf)

omit [LinearOrder K] [Libc K] in
theorem permits_eq (hst : effectiveState v = some st) : Permits (· = st.mode) v := by
  intro other hother
  obtain rfl := Option.some.inj (hst.symm.trans hother)
  rfl

omit [LinearOrder K] [Libc K] in
/-- **Once all is settled, the robot is in the mode asked for**, and asked for no other. -/
theorem UnderWay.accounted {p : Loop K} (hst : effectiveState v = some st) (h : UnderWay v st n p)
    (hsettled : Settled p)
    (hagrees : p.state.world.ctl.fsm.mode = p.state.world.ctl.fsm.state.mode) :
    Accounted (· = st.mode) p := by
  obtain ⟨m, hmailbox, hlast, hsnapped⟩ := hsettled.caughtUp
  cases h with
  | queued hqueued _ => exact absurd (hqueued.symm.trans hsettled.pending) (List.cons_ne_nil _ _)
  | arrived _ hw =>
    obtain rfl : n + 1 = m := hw.seq.symm.trans hmailbox
    have hstate : p.state.world.ctl.fsm.state = st := by
      obtain hwaits | ⟨-, hentered⟩ := hw.taken
      · exact absurd (hlast.symm.trans hwaits) (succ_ne n)
      · exact hentered
    refine ⟨fun r hr => ⟨fun u hu => ?_, ?_⟩, ⟨hagrees, ?_, ?_, fun snap hsnap => ?_⟩, ?_⟩
    · have hnone := List.filterMap_eq_nil_iff.mp hsettled.pending r hr
      cases hnone.symm.trans hu
    · rintro mode rfl
      exact absurd hr (hsettled.updates mode)
    · exact hagrees.trans (congrArg State.mode hstate)
    · exact hw.requested ▸ permits_eq hst
    · obtain ⟨hold, -⟩ | ⟨-, hrequested⟩ := hw.snapped snap hsnap
      · exact absurd ((hsnapped snap hsnap).symm.trans hold) (succ_ne n)
      · exact hrequested ▸ permits_eq hst
    · intro mode hmode
      cases hsettled.outgoing.symm.trans hmode

/-- From then on the controller is attached, and all on its way is the mode asked for. -/
structure Holds (st : State) (p : Loop K) : Prop extends Accounted (· = st.mode) p where
  attached : p.state.attached = true

theorem Holds.next {p : Loop K} (h : Holds st p) {e : LoopEvent K}
    (hasked : ∀ u ∈ asked lib p e, Permits (· = st.mode) u) :
    Holds st (next lib lm status p e) :=
  ⟨h.toAccounted.next hasked fun _ hnot => absurd (h.attached.symm.trans hnot) (by decide),
    (stays_next p e).1 h.attached⟩

/-- **An update that reaches the server tells it the mode asked for**, and every later one does. -/
theorem Holds.run_informed {p : Loop K} (h : Holds st p) (es : List (LoopEvent K))
    (hasked : (machine lib lm status).Always
      (fun q e => ∀ u ∈ asked lib q e, Permits (· = st.mode) u) p es)
    {mode : RobotMode} (htold : .told mode ∈ (machine lib lm status).trace p es) :
    Informed (· = st.mode) ((machine lib lm status).run p es) := by
  obtain ⟨before, e, after, rfl, hout⟩ := (machine lib lm status).exists_of_mem_trace htold
  rw [Machine.always_append, Machine.always_cons] at hasked
  obtain ⟨hbefore, hasked, hafter⟩ := hasked
  have hholds : Holds st ((machine lib lm status).run p before) :=
    (machine lib lm status).run_induction_always (fun _ _ hq hp => hp.next hq) before p hbefore h
  obtain ⟨hpending, server, hserver, hcurrent⟩ := told_next hout
  have hmode : mode = st.mode := (hholds.pending _ hpending).update mode rfl
  rw [Machine.run_append, Machine.run_cons]
  refine ((machine lib lm status).run_induction_always
    (P := fun q => Holds st q ∧ Informed (· = st.mode) q ∧ q.state.server.isSome = true)
    (fun q e hq hp => ?_) after _ hafter ⟨hholds.next hasked, ?_, ?_⟩).2.1
  · obtain ⟨hp, hinformed, hup⟩ := hp
    refine ⟨hp.next hq, hinformed.next hp.pending fun hdown => ?_, (stays_next q e).2 hup⟩
    simp [hdown] at hup
  · intro server' hserver'
    obtain rfl := Option.some.inj (hserver.symm.trans hserver')
    exact ⟨mode, hmode, hcurrent⟩
  · exact Option.isSome_iff_exists.mpr ⟨server, hserver⟩

/-- CHANGE_MODE sets a request on its way. -/
theorem TakenUp.request {p : Loop K} (h : TakenUp p) (st : State) {req : RpcReqMsg} {body : Json K}
    (hcalls : Calls lib req .changeMode body)
    (hmode : lib.getInt body "mode" RobotMode.unknown.toInt = .ok v) {es : List (RpcEffect K)}
    (hserved : (machine lib lm status).out p (.request true req) = some (.answered req es)) :
    ∃ n, UnderWay v st n (next lib lm status p (.request true req)) := by
  obtain ⟨n, hcaught⟩ := h.caughtUp
  obtain ⟨_, hanswer, -⟩ := Option.map_eq_some_iff.mp hserved
  have hcommands := commands_changeMode hcalls hmode hanswer
  have hpending : (next lib lm status p (.request true req)).pending
      = p.pending ++ [.command (.modeChange ⟨v⟩)] := by
    rw [next, hcommands]
    exact (List.append_assoc ..).symm
  refine ⟨n, .queued ?_ hcaught⟩
  rw [hpending, List.filterMap_append, h.pending]
  rfl

/-- The mode of a controller just made agrees with its state, and nothing parts them. -/
theorem accounted_run {locomotion : LocomotionYaml K} {gains : GainsYaml K}
    {c : LocomotionController K} (hboot : ofYaml locomotion gains = .ok c) (d : MjData K)
    (es : List (LoopEvent K)) :
    Accounted (fun _ => True) ((machine lib lm status).run (boot c d) es) :=
  (machine lib lm status).run_induction (fun _ _ hp => hp.next (fun _ _ _ _ => trivial)
    fun _ _ => trivial) es _ ((accounted_boot hboot d).mono fun _ _ => trivial)

variable (lib) (lm) (status) in
/-- **A mode asked for is told.**  CHANGE_MODE comes when all earlier requests have been taken up,
nothing else is asked for until it has been taken up itself and the snapshots from before are out
of the way, and nothing that leads elsewhere after that: then, from the first update on that
reaches the server, GET_MODE is answered with the mode that CHANGE_MODE led to. -/
theorem getMode_of_changeMode {locomotion : LocomotionYaml K} {gains : GainsYaml K}
    {c : LocomotionController K} (hboot : ofYaml locomotion gains = .ok c) (d : MjData K)
    {req req' : RpcReqMsg} {body body' : Json K} (hcalls : Calls lib req .changeMode body)
    (hmode : lib.getInt body "mode" RobotMode.unknown.toInt = .ok v)
    (hst : effectiveState v = some st) (hcalls' : Calls lib req' .getMode body')
    (before meanwhile after : List (LoopEvent K)) {es es' : List (RpcEffect K)} :
    let M := machine lib lm status
    let p := M.run (boot c d) before
    let q := M.run (M.next p (.request true req)) meanwhile
    TakenUp p → M.out p (.request true req) = some (.answered req es) →
    M.Always (fun s e => asked lib s e = []) (M.next p (.request true req)) meanwhile →
    Settled q → M.Always (fun s e => ∀ u ∈ asked lib s e, Permits (· = st.mode) u) q after →
    (∃ mode, .told mode ∈ M.trace q after) →
    M.out (M.run q after) (.request true req') = some (.answered req' es') →
      es' = [.write (modeResponse lib req' st.mode)] := by
  intro M p q hready hserved halone hsettled hsame htold hanswered
  obtain ⟨n, hstart⟩ := hready.request st hcalls hmode hserved
  have hunderway : UnderWay v st n q :=
    M.run_induction_always (fun _ _ hq hp => hp.next hst hq) meanwhile _ halone hstart
  have hagrees : q.state.world.ctl.fsm.mode = q.state.world.ctl.fsm.state.mode := by
    have hq : q = M.run (boot c d) (before ++ .request true req :: meanwhile) :=
      (M.run_append (boot c d) before (.request true req :: meanwhile)).symm
    rw [hq]
    exact (accounted_run hboot d _).world.agrees
  have hholds : Holds st q := ⟨hunderway.accounted hst hsettled hagrees, hsettled.attached⟩
  obtain ⟨mode, htold⟩ := htold
  obtain ⟨mode', rfl, heq⟩ :=
    answered_getMode (hholds.run_informed after hsame htold) hanswered hcalls'
  exact heq

/-- PREPARE is taken up, CUSTOM is asked for, taken up, read and told. -/
theorem getMode_of_changeMode_custom :
    ∃ es, (machine modeLibrary (k1Plant 1) 0).out
      ((machine modeLibrary (k1Plant 1) 0).run (boot bootController k1Upright)
        ([.startup, .attach, .tick, .tick, .tick] ++ .request true changeToCustom ::
          ([.start, .finish 0, .tick, .tick, .tick]
            ++ [.mjStep uprightObs, .snapshot, .emit, .start, .finish 0])))
      (.request true getMode) = some (.answered getMode es)
      ∧ es = [.write (modeResponse modeLibrary getMode .custom)] := by
  have hst : effectiveState 3 = some .custom := rfl
  rw [Machine.run_append, Machine.run_cons, Machine.run_append]
  refine ⟨_, rfl, getMode_of_changeMode modeLibrary (k1Plant 1) 0 ofYaml_default k1Upright
    calls_changeToCustom rfl hst calls_getMode [.startup, .attach, .tick, .tick, .tick]
    [.start, .finish 0, .tick, .tick, .tick]
    [.mjStep uprightObs, .snapshot, .emit, .start, .finish 0] ?_ rfl ?_ ?_ ?_ ?_ ?_⟩
  · exact ⟨rfl, 1, rfl, by decide +kernel, nofun⟩
  · exact ⟨rfl, rfl, rfl, rfl, rfl, trivial⟩
  · exact ⟨⟨rfl, 2, rfl, by decide +kernel, nofun⟩, nofun, rfl, rfl⟩
  · exact ⟨nofun, nofun, nofun, nofun, nofun, trivial⟩
  · exact ⟨_, List.mem_singleton.mpr rfl⟩
  · rfl

end RoundTrip

end ModeLoop

end K1Sim
