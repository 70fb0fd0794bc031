import K1Sim.System.ModeLoop

/-!
# System/ModesAccounted — no mode out of thin air

If all that is on its way leads to modes of some kind, it goes on doing so (`Accounted.next`), and
the server is told no other (`Informed.next`).  The kind may be one mode, or all that anybody has
asked for: GET_MODE tells none besides (`modes_accounted`).
-/

namespace K1Sim

open Foundations

namespace ModeLoop

open LocomotionController

section Accounted

variable {K : Type} [Field K] {lib : JsonLibrary K} {A B : RobotMode → Prop}

/-- A request that moves the controller, if at all, to a mode of these. -/
def Permits (A : RobotMode → Prop) (requested : ℤ) : Prop :=
  ∀ st, effectiveState requested = some st → A st.mode

/-- A reaction that brings the controller, or the server, a mode of these only. -/
structure Reaction.Accounted (A : RobotMode → Prop) (r : Reaction K) : Prop where
  command : ∀ v ∈ r.modeOf, Permits A v
  update : ∀ mode, r = .update mode → A mode

/-- The controller is in a mode of these, and asked for no other. -/
structure WorldAccounted (A : RobotMode → Prop) (w : World K) : Prop where
  agrees : w.ctl.fsm.mode = w.ctl.fsm.state.mode
  mode : A w.ctl.fsm.mode
  mailbox : Permits A w.ctl.mailbox.requestedMode
  snapped : ∀ snap, w.phase = .snapped snap → Permits A snap.requestedMode

/-- So is all that is on its way. -/
structure Accounted (A : RobotMode → Prop) (p : Loop K) : Prop where
  pending : ∀ r ∈ p.pending, r.Accounted A
  world : WorldAccounted A p.state.world
  outgoing : ∀ mode, p.state.outgoing = some mode → A mode

/-- The server was told a mode of these last. -/
def Informed (A : RobotMode → Prop) (p : Loop K) : Prop :=
  ∀ server, p.state.server = some server → ∃ mode, A mode ∧ server.currentMode = mode.toInt

section Mono

variable (hAB : ∀ mode, A mode → B mode)

include hAB

theorem Permits.mono {v : ℤ} (h : Permits A v) : Permits B v :=
  fun st hst => hAB _ (h st hst)

theorem Accounted.mono {p : Loop K} (h : Accounted A p) : Accounted B p where
  pending r hr :=
    ⟨fun v hv => ((h.pending r hr).command v hv).mono hAB,
      fun mode hmode => hAB mode ((h.pending r hr).update mode hmode)⟩
  world :=
    ⟨h.world.agrees, hAB _ h.world.mode, h.world.mailbox.mono hAB,
      fun snap hsnap => (h.world.snapped snap hsnap).mono hAB⟩
  outgoing mode hmode := hAB mode (h.outgoing mode hmode)

theorem Informed.mono {p : Loop K} (h : Informed A p) : Informed B p := by
  intro server hserver
  obtain ⟨mode, hmode, hcurrent⟩ := h server hserver
  exact ⟨mode, hAB mode hmode, hcurrent⟩

end Mono

variable (lib) in
/-- What a reaction does to the controller: at most, it puts its request in the mailbox. -/
theorem react_world (s : Shared K) (r : Reaction K) :
    (react lib s r).world.phase = s.world.phase
      ∧ (react lib s r).world.ctl.fsm = s.world.ctl.fsm
      ∧ (react lib s r).world.ctl.mailbox.requestedMode
        = r.modeOf.getD s.world.ctl.mailbox.requestedMode
      ∧ (react lib s r).world.ctl.mailbox.modeSeq
        = r.modeOf.elim s.world.ctl.mailbox.modeSeq fun _ => s.world.ctl.mailbox.modeSeq + 1 := by
  rcases r with msg | mode
  · cases msg <;> exact ⟨rfl, rfl, rfl, rfl⟩
  · exact ⟨rfl, rfl, rfl, rfl⟩

theorem WorldAccounted.react {s : Shared K} (h : WorldAccounted A s.world) {r : Reaction K}
    (hr : r.Accounted A) : WorldAccounted A (react lib s r).world := by
  obtain ⟨hphase, hfsm, hmailbox, -⟩ := react_world lib s r
  refine ⟨by rw [hfsm]; exact h.agrees, by rw [hfsm]; exact h.mode, ?_, ?_⟩
  · rw [hmailbox]
    rcases hv : r.modeOf with - | v
    · exact h.mailbox
    · exact hr.command v hv
  · rw [hphase]
    exact h.snapped

variable [LinearOrder K] {lm : LoadedModel K}

/-- **Taking up a permitted request leaves the controller in such a mode.** -/
theorem WorldAccounted.consume {w : World K} (h : WorldAccounted A w) {snap : CommandSnapshot K}
    (hphase : w.phase = .snapped snap) :
    WorldAccounted A
      { w with ctl := consumeModeRequest lm w.ctl snap w.data, phase := .consumed snap } := by
  obtain ⟨-, -, motors, hmailbox⟩ := consumeModeRequest_frame lm w.ctl snap w.data
  have hagrees := consumeModeRequest_mode lm w.ctl snap w.data h.agrees
  have hmode := h.agrees ▸ h.mode
  refine ⟨hagrees, ?_, ?_, fun _ hsnap => by cases hsnap⟩
  · rw [hagrees, consumeModeRequest_state]
    split_ifs
    · exact hmode
    · rcases hst : effectiveState snap.requestedMode with - | st
      · exact hmode
      · exact h.snapped snap hphase st hst
  · rw [hmailbox]
    exact h.mailbox

variable [Libc K] {status : ℤ}

theorem WorldAccounted.next {w : World K} (h : WorldAccounted A w) {f : Event K}
    (hf : ∀ call, f ≠ .call call) : WorldAccounted A ((world lm).next w f) := by
  obtain ⟨hmailbox, hstate, hmode, -, hkept⟩ | hnext | ⟨snap, hphase, hnext⟩ :=
    uncalled_next lm w hf
  case kept =>
    exact ⟨hmode.trans (h.agrees.trans (congrArg State.mode hstate.symm)), hmode ▸ h.mode,
      hmailbox ▸ h.mailbox, fun snap hsnap => h.snapped snap (hkept snap hsnap)⟩
  case snapped =>
    rw [hnext]
    refine ⟨h.agrees, h.mode, h.mailbox, fun snap hsnap => ?_⟩
    obtain rfl := Phase.snapped.inj hsnap
    exact h.mailbox
  case consumed =>
    rw [hnext]
    exact h.consume hphase

/-- **Nothing brings a mode into the loop but a request, and a snapshot without a controller.** -/
theorem Accounted.next {p : Loop K} (h : Accounted A p) {e : LoopEvent K}
    (hasked : ∀ v ∈ asked lib p e, Permits A v)
    (hunattended : e = .snapshot → p.state.attached = false → A ControllerReport.fallback.mode) :
    Accounted A (next lib lm status p e) := by
  have houtgoing : ∀ mode, (ModeLoop.next lib lm status p e).state.outgoing = some mode →
      A mode := by
    intro mode hmode
    obtain hold | ⟨rfl, rfl⟩ := outgoing_next hmode
    · exact h.outgoing mode hold
    · rcases hattached : p.state.attached with - | -
      · rw [Shared.mode_of_unattended hattached]
        exact hunattended rfl hattached
      · rw [Shared.mode_of_attached hattached]
        exact h.world.mode
  obtain ⟨rs, hemits, hpending, hworld⟩ | ⟨r, hpending, hworld⟩ | ⟨f, hf, hpending, hworld⟩ :=
    step_next lib lm status p e
  case emitted =>
    refine ⟨fun r hr => ?_, hworld ▸ h.world, houtgoing⟩
    rw [hpending] at hr
    obtain hold | hnew := List.mem_append.mp hr
    · exact h.pending r hold
    · exact ⟨fun v hv => hasked v ((hemits r hnew).1 v hv),
        fun mode hmode => h.outgoing mode ((hemits r hnew).2 mode hmode)⟩
  case finished =>
    have hold : ∀ t ∈ r :: (ModeLoop.next lib lm status p e).pending, t.Accounted A :=
      fun t ht => h.pending t (hpending.mem_iff.mp ht)
    obtain ⟨hr, hrest⟩ := List.forall_mem_cons.mp hold
    exact ⟨hrest, hworld ▸ h.world.react hr, houtgoing⟩
  case went => exact ⟨hpending ▸ h.pending, hworld ▸ h.world.next hf, houtgoing⟩

theorem Informed.next {p : Loop K} (h : Informed A p) {e : LoopEvent K}
    (hpending : ∀ r ∈ p.pending, r.Accounted A)
    (hstart : p.state.server = none → A .damping) : Informed A (next lib lm status p e) := by
  intro server' hserver'
  obtain ⟨mode, htold, hmode⟩ | ⟨server, hserver, hsame⟩ | ⟨hnone, hmode⟩ :=
    currentMode_next hserver'
  · exact ⟨mode, (hpending _ (told_next htold).1).update mode rfl, hmode⟩
  · obtain ⟨mode, hA, hmode⟩ := h server hserver
    exact ⟨mode, hA, hsame.trans hmode⟩
  · exact ⟨.damping, hstart hnone, hmode⟩

end Accounted

/-! ## Every mode told was asked for -/

section History

variable {K : Type} [Field K]

/-- The history variable: the modes asked for so far, and whether a snapshot has been taken without
a controller. -/
structure Asked where
  requested : List ℤ
  unattended : Bool := false

/-- The modes that need no other explanation: DAMPING, in which the controller and the server
start, what a snapshot reads where no controller is, and where a request leads. -/
def Asked.Explains (h : Asked) (mode : RobotMode) : Prop :=
  mode = .damping ∨ (h.unattended = true ∧ mode = ControllerReport.fallback.mode)
    ∨ ∃ v ∈ h.requested, ∃ st, effectiveState v = some st ∧ mode = st.mode

/-- The requests made before anything runs. -/
def Asked.atBoot (locomotion : LocomotionYaml K) : Asked where
  requested :=
    if locomotion.initialMode.getD "prepare" = "prepare" then [RobotMode.prepare.toInt] else []

/-- `Locomotion` has made its controller, and nothing has run. -/
def boot (c : LocomotionController K) (d : MjData K) : Loop K where
  queue := []
  running := []
  state := { locomotion := { controller := c }, data := d }

variable (lib : JsonLibrary K)

/-- An event adds the modes that it asks for. -/
def Asked.note (h : Asked) (p : Loop K) (e : LoopEvent K) : Asked where
  requested := h.requested ++ asked lib p e
  unattended :=
    match e with
    | .snapshot => h.unattended || !p.state.attached
    | _ => h.unattended

theorem Asked.Explains.note {h : Asked} {mode : RobotMode} (hmode : h.Explains mode) (p : Loop K)
    (e : LoopEvent K) : (h.note lib p e).Explains mode := by
  obtain hstart | ⟨hunattended, hfallback⟩ | ⟨v, hv, hst⟩ := hmode
  · exact .inl hstart
  · refine .inr (.inl ⟨?_, hfallback⟩)
    cases e <;> simp [Asked.note, hunattended]
  · exact .inr (.inr ⟨v, List.mem_append_left _ hv, hst⟩)

theorem accounted_boot {locomotion : LocomotionYaml K} {gains : GainsYaml K}
    {c : LocomotionController K} (hboot : ofYaml locomotion gains = .ok c) (d : MjData K) :
    Accounted (Asked.atBoot locomotion).Explains (boot c d) := by
  have hfsm := ofYaml_fsm hboot
  refine ⟨fun _ hr => absurd hr List.not_mem_nil,
    ⟨?_, ?_, fun st hst => ?_, fun _ hsnap => by cases hsnap⟩, fun _ hmode => by cases hmode⟩
  · simp only [boot, Shared.world, hfsm, State.mode]
  · simp only [boot, Shared.world, hfsm]
    exact .inl rfl
  · simp only [ofYaml] at hboot
    split at hboot
    · next hprepare =>
      obtain rfl := Except.ok.inj hboot
      exact .inr (.inr ⟨RobotMode.prepare.toInt, by simp [Asked.atBoot, hprepare], st, hst, rfl⟩)
    · split at hboot
      · obtain rfl := Except.ok.inj hboot
        obtain rfl := Option.some.inj hst
        exact .inl rfl
      · cases hboot

variable [LinearOrder K] [Libc K] (lm : LoadedModel K) (status : ℤ)

/-- GET_MODE is answered with a mode that was asked for. -/
def Honest (q : Loop K × Asked) (e : LoopEvent K) : Prop :=
  ∀ req es body, (machine lib lm status).out q.1 e = some (.answered req es) →
    Calls lib req .getMode body →
      ∃ mode, q.2.Explains mode ∧ es = [.write (modeResponse lib req mode)]

variable {lib lm status}

/-- A pass answers GET_MODE with the mode of the server. -/
theorem answered_getMode {A : RobotMode → Prop} {p : Loop K} (h : Informed A p) {e : LoopEvent K}
    {req : RpcReqMsg} {es : List (RpcEffect K)} {body : Json K}
    (hout : (machine lib lm status).out p e = some (.answered req es))
    (hcalls : Calls lib req .getMode body) :
    ∃ mode, A mode ∧ es = [.write (modeResponse lib req mode)] := by
  cases e with
  | request validData req' =>
    obtain ⟨es', hanswer, hshown⟩ := Option.map_eq_some_iff.mp hout
    obtain ⟨rfl, rfl⟩ := Shown.answered.inj hshown
    obtain ⟨server, hserver, -⟩ := handleRequest_of_answer hanswer
    obtain ⟨mode, hmode, hcurrent⟩ := h server hserver
    refine ⟨mode, hmode, answer_getMode hcalls (fun server' hserver' => ?_) hanswer⟩
    obtain rfl := Option.some.inj (hserver.symm.trans hserver')
    exact hcurrent
  | finish i =>
    simp only [machine] at hout
    split at hout
    · obtain ⟨_, _, hshown⟩ := Option.map_eq_some_iff.mp hout
      cases hshown
    · cases hout
  | _ => cases hout

/-- All that is on its way, and what the server was told last, was asked for. -/
structure Sound (q : Loop K × Asked) : Prop where
  accounted : Accounted q.2.Explains q.1
  informed : Informed q.2.Explains q.1

theorem Sound.honest {q : Loop K × Asked} (h : Sound q) {e : LoopEvent K} :
    Honest lib lm status q e :=
  fun _ _ _ hout hcalls => answered_getMode h.informed hout hcalls

theorem Sound.next {q : Loop K × Asked} (h : Sound q) (e : LoopEvent K) :
    Sound (((machine lib lm status).withHistory (Asked.note lib)).next q e) := by
  have hmono : ∀ mode, q.2.Explains mode → (q.2.note lib q.1 e).Explains mode :=
    fun mode hmode => hmode.note lib q.1 e
  have haccounted := h.accounted.mono hmono
  refine ⟨haccounted.next (fun v hv st hst => ?_) (fun he hattached => ?_),
    (h.informed.mono hmono).next haccounted.pending fun _ => .inl rfl⟩
  · exact .inr (.inr ⟨v, List.mem_append_right _ hv, st, hst, rfl⟩)
  · subst he
    exact .inr (.inl ⟨by simp [Asked.note, hattached], rfl⟩)

variable (lib lm status)

/-- The controller of the default configuration, which boots into PREPARE. -/
def bootController : LocomotionController ℚ :=
  requestModeChange { cfg := Config.ofYaml {} {} } RobotMode.prepare.toInt

theorem ofYaml_default : ofYaml (K := ℚ) {} {} = .ok bootController := rfl

end History

end ModeLoop

end K1Sim
