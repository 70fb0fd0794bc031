import K1Sim.Foundations.LastWrite
import K1Sim.Locomotion.World

/-!
# Locomotion/ModeMachine — which request decides the mode

Requests land in one mailbox slot with a sequence counter, so the requests between two snapshots
(a *batch*) reach the state machine as one: the last of the batch, if the counter has moved at all.
`mode_followsLast_iff` says exactly when that is the same as following the last recognised request.
-/

namespace K1Sim

open Foundations

namespace LocomotionController

/-! ## What requests ask for -/

/-- The state a list of requests asks for: that of the last recognised one, DAMPING at boot. -/
def requestedState (modes : List ℤ) : State := (lastWrite effectiveState modes).getD .damping

theorem requestedState_append (earlier batch : List ℤ) :
    requestedState (earlier ++ batch)
      = (lastWrite effectiveState batch).getD (requestedState earlier) := by
  rw [requestedState, lastWrite_append]
  cases lastWrite effectiveState batch <;> rfl

/-- The state the machine moves to on a batch: a batch whose length is a multiple of `2 ^ 64` goes
unnoticed, and of any other only the last request counts. -/
def coalescedState (earlier batch : List ℤ) : State :=
  if batch.length % 2 ^ 64 = 0 then requestedState earlier
  else (batch.getLast?.bind effectiveState).getD (requestedState earlier)

/-- The batch ends in a recognised request, or leaves the state asked for where it was. -/
def BatchKeepsLast (earlier batch : List ℤ) : Prop :=
  (batch.length % 2 ^ 64 ≠ 0 ∧ (batch.getLast?.bind effectiveState).isSome)
    ∨ requestedState (earlier ++ batch) = requestedState earlier

instance (earlier batch : List ℤ) : Decidable (BatchKeepsLast earlier batch) :=
  inferInstanceAs (Decidable (_ ∨ _))

/-- **Coalescing loses nothing exactly when the batch keeps its last recognised request.** -/
theorem coalescedState_eq_iff (earlier batch : List ℤ) :
    coalescedState earlier batch = requestedState (earlier ++ batch)
      ↔ BatchKeepsLast earlier batch := by
  rw [BatchKeepsLast, coalescedState]
  by_cases hlen : batch.length % 2 ^ 64 = 0
  · simp only [hlen, if_true, ne_eq, not_true_eq_false, false_and, false_or]
    exact eq_comm
  · rcases hlast : batch.getLast?.bind effectiveState with - | st
    case none =>
      simp only [hlen, if_false, Option.getD_none, Option.isSome_none, Bool.false_eq_true,
        and_false, false_or]
      exact eq_comm
    case some =>
      obtain ⟨mode, hmode, hst⟩ := Option.bind_eq_some_iff.mp hlast
      have hwrite : lastWrite effectiveState batch = some st := lastWrite_of_getLast? hmode hst
      refine iff_of_true ?_ (.inl ⟨hlen, rfl⟩)
      rw [if_neg hlen, requestedState_append, hwrite]

theorem State.mode_injective : Function.Injective State.mode := by
  intro s t h
  cases s <;> cases t <;> first | rfl | exact absurd h (by decide)

/-- A sequence counter comes back to where it was every `2 ^ 64` requests. -/
theorem seq_add_ofNat_eq_iff (seq : UInt64) (n : ℕ) :
    seq + UInt64.ofNat n = seq ↔ n % 2 ^ 64 = 0 := by
  rw [add_eq_left, ← UInt64.toNat_inj]
  simp

/-! ## Runs -/

/-- The requests so far: those before the previous snapshot, those between it and the latest, and
those since. -/
structure Requests where
  earlier : List ℤ
  batch : List ℤ
  waiting : List ℤ

variable {K : Type*} [Field K] [LinearOrder K] [Libc K] (lm : LoadedModel K)

omit [Libc K] in
/-- **A snapshot taken after a batch moves the machine to what is left of it.** -/
theorem consumeModeRequest_coalesces {earlier batch : List ℤ} (c : LocomotionController K)
    (d : MjData K) {snap : CommandSnapshot K} (hstate : c.fsm.state = requestedState earlier)
    (hseq : snap.modeSeq = c.fsm.lastModeSeq + UInt64.ofNat batch.length)
    (hlast : ∀ mode, batch.getLast? = some mode → snap.requestedMode = mode) :
    (consumeModeRequest lm c snap d).fsm.state = coalescedState earlier batch := by
  have hmoved : snap.modeSeq = c.fsm.lastModeSeq ↔ batch.length % 2 ^ 64 = 0 := by
    rw [hseq]
    exact seq_add_ofNat_eq_iff _ _
  rw [consumeModeRequest_state, coalescedState, hstate]
  by_cases hlen : batch.length % 2 ^ 64 = 0
  · rw [if_pos hlen, if_pos (hmoved.mpr hlen)]
  · have hne : batch ≠ [] := by
      rintro rfl
      exact hlen (Nat.zero_mod _)
    have hgetLast : batch.getLast? = some (batch.getLast hne) := List.getLast?_eq_some_getLast hne
    rw [if_neg hlen, if_neg (hlen ∘ hmoved.mp), hlast _ hgetLast, hgetLast]
    rfl

/-- The history variable: a call adds a request, a snapshot closes a batch. -/
def Requests.note (h : Requests) (w : World K) : Event K → Requests
  | .call (.requestModeChange mode) => { h with waiting := h.waiting ++ [mode] }
  | .tick =>
    match w.phase with
    | .idle => { earlier := h.earlier ++ h.batch, batch := h.waiting, waiting := [] }
    | _ => h
  | _ => h

/-- The requests made before the first step. -/
def Requests.atBoot (locomotion : LocomotionYaml K) : Requests where
  earlier := []
  batch := []
  waiting :=
    if locomotion.initialMode.getD "prepare" = "prepare" then [RobotMode.prepare.toInt] else []

/-- The history of requests is true of the controller. -/
structure RequestsInv (w : World K) (h : Requests) : Prop where
  mode_eq : w.ctl.fsm.mode = w.ctl.fsm.state.mode
  waiting_last : ∀ mode, h.waiting.getLast? = some mode → w.ctl.mailbox.requestedMode = mode
  waiting_seq : w.ctl.mailbox.modeSeq
    = (match w.phase with
        | .idle => w.ctl.fsm.lastModeSeq
        | .snapped snap => snap.modeSeq
        | .consumed snap => snap.modeSeq) + UInt64.ofNat h.waiting.length
  taken : match w.phase with
    | .idle => w.ctl.fsm.state = requestedState (h.earlier ++ h.batch)
    | .snapped snap =>
      w.ctl.fsm.state = requestedState h.earlier
        ∧ snap.modeSeq = w.ctl.fsm.lastModeSeq + UInt64.ofNat h.batch.length
        ∧ ∀ mode, h.batch.getLast? = some mode → snap.requestedMode = mode
    | .consumed snap =>
      w.ctl.fsm.state = coalescedState h.earlier h.batch ∧ w.ctl.fsm.lastModeSeq = snap.modeSeq

/-- The mode agrees with the state, and each `step` leaves the mode of the last recognised request
made before its snapshot. -/
def FollowsLast (p : World K × Requests) (e : Event K) : Prop :=
  ((world lm).next p.1 e).ctl.fsm.mode = ((world lm).next p.1 e).ctl.fsm.state.mode
    ∧ ∀ s, (world lm).out p.1 e = some s →
      s.mode = (requestedState (p.2.earlier ++ p.2.batch)).mode

/-- The batch of each `step` keeps its last recognised request. -/
def KeepsLast (p : World K × Requests) (e : Event K) : Prop :=
  ∀ s, (world lm).out p.1 e = some s → BatchKeepsLast p.2.earlier p.2.batch

variable {lm}

/-- **The mode reported agrees with the state**, whatever the thread does next. -/
theorem mode_eq_next {w : World K} (h : w.ctl.fsm.mode = w.ctl.fsm.state.mode) (e : Event K) :
    ((world lm).next w e).ctl.fsm.mode = ((world lm).next w e).ctl.fsm.state.mode := by
  obtain ⟨c, d, ph⟩ := w
  rcases e with call | - | obs | ⟨obs, ctrl⟩
  case call =>
    rw [next_call]
    exact h
  case mjStep => rcases ph <;> exact h
  case reset => rcases ph <;> exact h
  case tick =>
    rcases ph with - | snap | snap
    case idle => exact h
    case snapped => exact consumeModeRequest_mode lm c snap d h
    case consumed =>
      obtain ⟨_, _, _, _, hact⟩ := actuate_frame lm c snap d
      simpa only [world, World.tick, hact] using h

theorem RequestsInv.followsLast_iff {w : World K} {h : Requests} (hinv : RequestsInv w h)
    (e : Event K) : FollowsLast lm (w, h) e ↔ KeepsLast lm (w, h) e := by
  refine (and_iff_right (mode_eq_next hinv.mode_eq e)).trans ?_
  refine forall_congr' fun s => imp_congr_right fun hout => ?_
  obtain ⟨rfl, ⟨snap, hphase⟩, rfl⟩ := (out_eq_some_iff lm).mp hout
  obtain ⟨c, d, ph⟩ := w
  obtain rfl : ph = .consumed snap := hphase
  obtain ⟨_, _, _, _, hact⟩ := actuate_frame lm c snap d
  have hmode : (((world lm).next ⟨c, d, .consumed snap⟩ .tick).sample lm).mode = c.fsm.mode := by
    simp only [world, World.tick, World.sample, hact]
  rw [hmode, hinv.mode_eq, hinv.taken.1, State.mode_injective.eq_iff, coalescedState_eq_iff]

theorem RequestsInv.next {w : World K} {h : Requests} (hinv : RequestsInv w h) (e : Event K)
    (hfollows : FollowsLast lm (w, h) e) : RequestsInv ((world lm).next w e) (h.note w e) := by
  obtain ⟨hmode, hlast, hseq, htaken⟩ := hinv
  obtain ⟨c, d, ph⟩ := w
  rcases e with (_ | mode | _) | - | obs | ⟨obs, ctrl⟩
  case call.setHeadCommand => exact ⟨hmode, hlast, hseq, htaken⟩
  case call.setLowCmd => exact ⟨hmode, hlast, hseq, htaken⟩
  case call.requestModeChange =>
    refine ⟨hmode, fun m hm => ?_, ?_, htaken⟩
    · exact Option.some.inj (List.getLast?_concat.symm.trans hm)
    · simp only [world, applyCall, requestModeChange, Requests.note, List.length_append,
        List.length_singleton, UInt64.ofNat_add, ← add_assoc]
      exact congrArg (· + 1) hseq
  case mjStep => rcases ph <;> exact ⟨hmode, hlast, hseq, htaken⟩
  case reset => rcases ph <;> exact ⟨hmode, hlast, hseq, htaken⟩
  case tick =>
    rcases ph with - | snap | snap
    case idle =>
      refine ⟨hmode, fun m hm => absurd hm (by simp [Requests.note]), ?_, htaken, hseq, hlast⟩
      exact (add_zero c.mailbox.modeSeq).symm
    case snapped =>
      obtain ⟨hstate, hbatch, hrequested⟩ := htaken
      obtain ⟨-, hlastSeq, _, hmailbox⟩ := consumeModeRequest_frame lm c snap d
      refine ⟨consumeModeRequest_mode lm c snap d hmode,
        fun m hm => (congrArg _ hmailbox).trans (hlast m hm), (congrArg _ hmailbox).trans hseq, ?_,
        hlastSeq⟩
      exact consumeModeRequest_coalesces lm c d hstate hbatch hrequested
    case consumed =>
      obtain ⟨_, _, _, _, hact⟩ := actuate_frame lm c snap d
      obtain ⟨hagree, hsame⟩ := hfollows
      have hstate := State.mode_injective (hagree.symm.trans (hsame _ rfl))
      simp only [world, World.tick, hact] at hstate ⊢
      exact ⟨hmode, hlast, htaken.2.symm ▸ hseq, hstate⟩

omit [LinearOrder K] [Libc K] in
theorem RequestsInv.atBoot {locomotion : LocomotionYaml K} {gains : GainsYaml K}
    {c : LocomotionController K} (h : ofYaml locomotion gains = .ok c) (d : MjData K) :
    RequestsInv { ctl := c, data := d } (Requests.atBoot locomotion) := by
  simp only [ofYaml] at h
  split at h
  · next hboot =>
    obtain rfl := Except.ok.inj h
    simp only [Requests.atBoot, hboot, if_true]
    exact ⟨rfl, fun m hm => Option.some.inj hm, rfl, rfl⟩
  · next hboot =>
    split at h
    · obtain rfl := Except.ok.inj h
      simp only [Requests.atBoot, hboot, if_false]
      exact ⟨rfl, fun m hm => absurd hm (by simp), rfl, rfl⟩
    · exact absurd h (by simp)

variable (lm)

/-- **The mode follows the last recognised request exactly along the runs whose batches keep it**:
a batch that ends in an unrecognised request, or goes unnoticed, drops the requests before its
last. -/
theorem mode_followsLast_iff {locomotion : LocomotionYaml K} {gains : GainsYaml K}
    {c : LocomotionController K} (h : ofYaml locomotion gains = .ok c) (d : MjData K)
    (es : List (Event K)) :
    ((world lm).withHistory Requests.note).Always (FollowsLast lm)
        ({ ctl := c, data := d }, Requests.atBoot locomotion) es
      ↔ ((world lm).withHistory Requests.note).Always (KeepsLast lm)
        ({ ctl := c, data := d }, Requests.atBoot locomotion) es :=
  Machine.always_iff_always _ (fun _ e hinv => RequestsInv.followsLast_iff hinv e)
    (fun _ e hinv hfollows => RequestsInv.next hinv e hfollows) es _ (RequestsInv.atBoot h d)

/-- CUSTOM requested, then, a step later, a value that is no mode: CUSTOM stands. -/
theorem mode_followsLast_spaced : ∃ c, ofYaml (K := ℚ) {} {} = .ok c ∧
    ((world (k1Plant 1)).withHistory Requests.note).Always (FollowsLast (k1Plant 1))
      ({ ctl := c, data := k1Upright }, Requests.atBoot (K := ℚ) {})
      [.call (.requestModeChange 3), .tick, .tick, .tick, .call (.requestModeChange 99), .tick,
        .tick, .tick] := by
  refine ⟨_, rfl, (mode_followsLast_iff (k1Plant 1) rfl _ _).mpr ?_⟩
  refine ⟨nofun, nofun, nofun, ?_, nofun, nofun, nofun, ?_, trivial⟩
  · intro _ _
    decide
  · intro _ _
    decide

/-- CUSTOM requested, and a value that is no mode before the next step: CUSTOM is lost. -/
theorem mode_not_followsLast : ∃ c, ofYaml (K := ℚ) {} {} = .ok c ∧
    ¬ ((world (k1Plant 1)).withHistory Requests.note).Always (FollowsLast (k1Plant 1))
      ({ ctl := c, data := k1Upright }, Requests.atBoot (K := ℚ) {})
      [.call (.requestModeChange 3), .call (.requestModeChange 99), .tick, .tick, .tick] := by
  refine ⟨_, rfl, fun h => ?_⟩
  obtain ⟨-, -, -, -, ⟨-, hlast⟩, -⟩ := h
  exact absurd (hlast _ rfl) (by decide)

end LocomotionController

end K1Sim
