import K1Sim.Foundations.Numerals
import K1Sim.Locomotion.Reactions
import K1Sim.Locomotion.World
import K1Sim.SdkBridge.RpcServer
import K1Sim.Simulation.Snapshot

/-!
# System/ModeLoop — from CHANGE_MODE to GET_MODE

A mode asked for over RPC passes through four hands before GET_MODE can tell of it: the reaction
that puts it in the mailbox, the `step` that takes it up, the snapshot that reads it, and the
reaction to that snapshot's update.  Both reactions wait for the same pool.  `machine` has all of
this happen in any order; `Step` says what an event can do to what is on its way.
-/

namespace K1Sim

open Foundations

namespace ModeLoop

open LocomotionController

/-- A reaction of the pool: to a command, or to an update, of which the mode matters. -/
inductive Reaction (K : Type) where
  | command (msg : CommandMessage K)
  | update (mode : RobotMode)

/-- What the threads share: `Locomotion`, the data, how far the physics thread is in a `step`,
whether the controller is attached, the snapshot that the physics thread has yet to emit, and the
RPC server from the end of `SdkBridge`'s Startup on. -/
structure Shared (K : Type) [Zero K] where
  locomotion : LocomotionReactor K
  data : MjData K
  phase : Phase K := .idle
  attached : Bool := false
  outgoing : Option RobotMode := none
  server : Option RpcServer := none

/-- The reactions waiting and running, beside what they share. -/
abbrev Loop (K : Type) [Zero K] := Pool (Reaction K) (Shared K)

/-- What happens: `SdkBridge` starts up; the controller is attached; a sample on the RPC or on the
joint topic; a reaction starts, or gets to what it is there for; the physics thread does a part of
`step`, or `mj_step`; a reset; a snapshot is taken, and is emitted. -/
inductive LoopEvent (K : Type) where
  | startup
  | attach
  | request (validData : Bool) (req : RpcReqMsg)
  | jointCtrl (validData : Bool) (cmd : LowCmdMessage K)
  | start
  | finish (i : ℕ)
  | tick
  | mjStep (obs : Observation K)
  | reset (obs : Observation K) (ctrl : ℕ → K)
  | snapshot
  | emit

/-- What can be seen: what a pass of the RPC server did, and a mode that reached the server. -/
inductive Shown (K : Type) where
  | answered (req : RpcReqMsg) (effects : List (RpcEffect K))
  | told (mode : RobotMode)

namespace Shared

variable {K : Type} [Zero K]

/-- The controller among its callers. -/
def world (s : Shared K) : World K := ⟨s.locomotion.controller, s.data, s.phase⟩

/-- The same with the controller gone on. -/
def setWorld (s : Shared K) (w : World K) : Shared K :=
  { s with locomotion.controller := w.ctl, data := w.data, phase := w.phase }

/-- What a snapshot is told of the controller. -/
def report (s : Shared K) : Option ControllerReport :=
  if s.attached then
    some ⟨s.locomotion.controller.fsm.mode, s.locomotion.controller.fsm.fallState, false⟩
  else none

/-- The mode in a snapshot. -/
def mode (s : Shared K) : RobotMode := (s.report.getD .fallback).mode

theorem mode_of_unattended {s : Shared K} (h : s.attached = false) :
    s.mode = ControllerReport.fallback.mode := by
  simp [mode, report, h]

theorem mode_of_attached {s : Shared K} (h : s.attached = true) :
    s.mode = s.world.ctl.fsm.mode := by
  simp [mode, report, h, world]

end Shared

section Loop

variable {K : Type} [Field K] (lib : JsonLibrary K)

/-- What a reaction does. -/
def react (s : Shared K) : Reaction K → Shared K
  | .command msg => { s with locomotion := s.locomotion.react msg }
  | .update mode =>
    { s with
      server := s.server.map fun server =>
        (RpcServer.machine lib).next server (.setCurrentMode mode.toInt) }

/-- The pool of the plant. -/
def pool : Machine (Loop K) (PoolEvent (Reaction K)) (Reaction K) :=
  Pool.machine LocomotionReactor.defaultPoolConcurrency (react lib)

/-- What a pass over a sample does, where there is a server that takes it. -/
def answer (p : Loop K) (validData : Bool) (req : RpcReqMsg) : Option (List (RpcEffect K)) :=
  p.state.server.bind fun server => (RpcServer.machine lib).out server (.sample validData req)

/-- The commands emitted. -/
def commands (es : Option (List (RpcEffect K))) : List (CommandMessage K) :=
  (es.getD []).filterMap RpcEffect.emitted?

variable [LinearOrder K] [Libc K] (lm : LoadedModel K) (status : ℤ)

/-- The physics thread or a reset goes on with the controller and the data. -/
def physics (p : Loop K) (e : Event K) : Loop K :=
  { p with state := p.state.setWorld ((world lm).next p.state.world e) }

/-- What each event leaves. -/
def next (p : Loop K) : LoopEvent K → Loop K
  | .startup =>
    { p with state.server := some (p.state.server.getD { unknownApiStatus := status }) }
  | .attach => { p with state.attached := true }
  | .request validData req =>
    { p with
      queue := p.queue ++ (commands (answer lib p validData req)).map .command
      state.server := p.state.server.map fun server =>
        (RpcServer.machine lib).next server (.sample validData req) }
  | .jointCtrl validData cmd =>
    if validData && p.state.server.isSome then (pool lib).next p (.emit (.command (.lowCmd cmd)))
    else p
  | .start => (pool lib).next p .start
  | .finish i => (pool lib).next p (.finish i)
  -- without a controller a pass is none of its business
  | .tick => if p.state.attached && p.state.outgoing.isNone then physics lm p .tick else p
  | .mjStep obs => if p.state.outgoing.isNone then physics lm p (.mjStep obs) else p
  | .reset obs ctrl => physics lm p (.reset obs ctrl)
  | .snapshot =>
    match p.state.phase, p.state.outgoing with
    | .idle, none => { p with state.outgoing := some p.state.mode }
    | _, _ => p
  | .emit =>
    match p.state.outgoing with
    | none => p
    | some mode => (pool lib).next { p with state.outgoing := none } (.emit (.update mode))

/-- The loop, showing what each pass of the server did and each mode that reached it. -/
def machine : Machine (Loop K) (LoopEvent K) (Shown K) where
  next := next lib lm status
  out p
    | .request validData req => (answer lib p validData req).map (.answered req)
    | .finish i =>
      match p.running[i]? with
      | some (.update mode) => p.state.server.map fun _ => .told mode
      | _ => none
    | _ => none

end Loop

/-! ## The two calls -/

section Calls

variable {K : Type} [Field K] {lib : JsonLibrary K}

variable (lib) in
/-- A request for this call, with this body. -/
def Calls (req : RpcReqMsg) (id : ApiId) (body : Json K) : Prop :=
  ∃ header value, lib.parseOrEmpty req.header = .ok header
    ∧ header.find? "api_id" = some value ∧ lib.getAsInt64 value = .ok id.toInt
    ∧ lib.parseOrEmpty req.body = .ok body

variable (lib) in
/-- The response to GET_MODE. -/
def modeResponse (req : RpcReqMsg) (mode : RobotMode) : RpcRespMsg where
  uuid := req.uuid
  header := RpcServer.replyHeader lib 0
  body := lib.dump (.object [("mode", .integer mode.toInt)])

theorem dispatchRpc_of_calls {req : RpcReqMsg} {id : ApiId} {body : Json K}
    (h : Calls lib req id body) (currentMode unknownApiStatus : ℤ) :
    lib.dispatchRpc req.header req.body currentMode unknownApiStatus
      = lib.dispatchBody body currentMode unknownApiStatus id.toInt := by
  obtain ⟨header, value, hheader, hid, hvalue, hbody⟩ := h
  simp only [JsonLibrary.dispatchRpc, hheader, hvalue, hbody, hid, bind, Except.bind]

/-- A pass that did anything did what its request asks for. -/
theorem handleRequest_of_answer {p : Loop K} {validData : Bool} {req : RpcReqMsg}
    {es : List (RpcEffect K)} (h : answer lib p validData req = some es) :
    ∃ server, p.state.server = some server ∧ RpcServer.handleRequest lib server req = .ok es := by
  obtain ⟨server, hserver, hout⟩ := Option.bind_eq_some_iff.mp h
  refine ⟨server, hserver, ?_⟩
  simp only [RpcServer.machine] at hout
  split at hout
  · revert hout
    rcases RpcServer.handleRequest lib server req with e | fs
    · intro hout
      cases hout
    · exact fun hout => congrArg Except.ok (Option.some.inj hout)
  · cases hout

/-- **GET_MODE is answered with the mode that the server was told last**, -/
theorem answer_getMode {p : Loop K} {validData : Bool} {req : RpcReqMsg} {body : Json K}
    {mode : RobotMode} (hcalls : Calls lib req .getMode body)
    (hmode : ∀ server, p.state.server = some server → server.currentMode = mode.toInt)
    {es : List (RpcEffect K)} (h : answer lib p validData req = some es) :
    es = [.write (modeResponse lib req mode)] := by
  obtain ⟨server, hserver, hhandled⟩ := handleRequest_of_answer h
  rw [RpcServer.handleRequest, dispatchRpc_of_calls hcalls, JsonLibrary.dispatchBody,
    ApiId.ofInt?_toInt, hmode server hserver] at hhandled
  exact (Except.ok.inj hhandled).symm

/-- and CHANGE_MODE emits a request for the mode in its body. -/
theorem commands_changeMode {p : Loop K} {validData : Bool} {req : RpcReqMsg} {body : Json K}
    {mode : ℤ} (hcalls : Calls lib req .changeMode body)
    (hmode : lib.getInt body "mode" RobotMode.unknown.toInt = .ok mode) {es : List (RpcEffect K)}
    (h : answer lib p validData req = some es) :
    commands (answer lib p validData req) = [.modeChange ⟨mode⟩] := by
  obtain ⟨server, -, hhandled⟩ := handleRequest_of_answer h
  rw [RpcServer.handleRequest, dispatchRpc_of_calls hcalls, JsonLibrary.dispatchBody,
    ApiId.ofInt?_toInt] at hhandled
  simp only [hmode, bind, Except.bind, pure, Except.pure] at hhandled
  obtain rfl := Except.ok.inj hhandled
  rw [h]
  rfl

/-- CHANGE_MODE, GET_MODE and a body, and what they parse to. -/
def modeDocuments : List (Bytes × Json ℚ) :=
  [(RpcServer.bytes "\x7b\"api_id\":2000\x7d", .object [("api_id", .integer 2000)]),
    (RpcServer.bytes "\x7b\"api_id\":2017\x7d", .object [("api_id", .integer 2017)]),
    (RpcServer.bytes "\x7b\"mode\":3\x7d", .object [("mode", .integer 3)])]

/-- A library that knows these texts. -/
def modeLibrary : JsonLibrary ℚ :=
  { RpcServer.smallLibrary with
    parse := fun text =>
      match modeDocuments.lookup text with
      | some value => .ok value
      | none => .error .parseError }

/-- CHANGE_MODE to CUSTOM. -/
def changeToCustom : RpcReqMsg where
  uuid := RpcServer.bytes "a"
  header := RpcServer.bytes "\x7b\"api_id\":2000\x7d"
  body := RpcServer.bytes "\x7b\"mode\":3\x7d"

/-- GET_MODE. -/
def getMode : RpcReqMsg where
  uuid := RpcServer.bytes "b"
  header := RpcServer.bytes "\x7b\"api_id\":2017\x7d"
  body := []

theorem calls_changeToCustom :
    Calls modeLibrary changeToCustom .changeMode (.object [("mode", .integer 3)]) :=
  ⟨_, _, rfl, rfl, rfl, rfl⟩

theorem calls_getMode : Calls modeLibrary getMode .getMode (.object []) :=
  ⟨_, _, rfl, rfl, rfl, rfl⟩

end Calls

/-! ## What an event does -/

section Step

variable {K : Type} [Field K] (lib : JsonLibrary K)

/-- The mode that a reaction requests. -/
def Reaction.modeOf : Reaction K → Option ℤ
  | .command msg => LocomotionReactor.modeOf msg
  | .update _ => none

/-- The modes that an event asks for. -/
def asked (p : Loop K) : LoopEvent K → List ℤ
  | .request validData req =>
    (commands (answer lib p validData req)).filterMap LocomotionReactor.modeOf
  | _ => []

/-- A reaction that an event may emit: to a command that asks for nothing else, or to the snapshot
taken. -/
def Emits (p : Loop K) (e : LoopEvent K) (r : Reaction K) : Prop :=
  (∀ v ∈ r.modeOf, v ∈ asked lib p e) ∧ ∀ mode, r = .update mode → p.state.outgoing = some mode

variable [LinearOrder K] [Libc K] (lm : LoadedModel K) (status : ℤ)

/-- **What an event can do** to the reactions to come and to the controller among its callers: it
emits reactions, or one takes effect, or the controller goes on by itself. -/
inductive Step (p : Loop K) (e : LoopEvent K) (p' : Loop K) : Prop where
  | emitted (rs : List (Reaction K)) (hemits : ∀ r ∈ rs, Emits lib p e r)
      (hpending : p'.pending = p.pending ++ rs) (hworld : p'.state.world = p.state.world)
  | finished (r : Reaction K) (hpending : (r :: p'.pending).Perm p.pending)
      (hworld : p'.state.world = (react lib p.state r).world)
  | went (f : Event K) (hf : ∀ call, f ≠ .call call) (hpending : p'.pending = p.pending)
      (hworld : p'.state.world = (world lm).next p.state.world f)

variable {lib lm status}

theorem Step.of_frame {p p' : Loop K} {e : LoopEvent K} (hpending : p'.pending = p.pending)
    (hworld : p'.state.world = p.state.world) : Step lib lm p e p' :=
  .emitted [] (fun _ hr => absurd hr List.not_mem_nil) (hpending.trans (List.append_nil _).symm)
    hworld

theorem step_pool {p : Loop K} {e : LoopEvent K} {f : PoolEvent (Reaction K)}
    (hemit : ∀ r ∈ Pool.emitted [f], Emits lib p e r) :
    Step lib lm p e ((pool lib).next p f) := by
  cases f with
  | emit r => exact .emitted [r] hemit (Pool.pending_emit ..) rfl
  | start =>
    have hframe := Pool.start_frame LocomotionReactor.defaultPoolConcurrency (react lib) p
    exact .of_frame hframe.1 (congrArg Shared.world hframe.2)
  | finish i =>
    rcases hi : p.running[i]? with - | r
    · rw [pool, Pool.finish_of_none _ _ hi]
      exact .of_frame rfl rfl
    · refine .finished r ?_ ?_
      · have hperm := Pool.pending_next_perm LocomotionReactor.defaultPoolConcurrency (react lib) p
          (.finish i)
        simpa [Pool.machine, hi, Pool.emitted, pool] using hperm
      · rw [pool, Pool.finish_of_getElem? _ _ hi]

variable (lib lm status) in
theorem step_next (p : Loop K) (e : LoopEvent K) : Step lib lm p e (next lib lm status p e) := by
  cases e with
  | startup => exact .of_frame rfl rfl
  | attach => exact .of_frame rfl rfl
  | request validData req =>
    refine .emitted ((commands (answer lib p validData req)).map .command) (fun r hr => ?_)
      (List.append_assoc ..).symm rfl
    obtain ⟨msg, hmsg, rfl⟩ := List.mem_map.mp hr
    exact ⟨fun v hv => List.mem_filterMap.mpr ⟨msg, hmsg, hv⟩, fun _ hmode => by cases hmode⟩
  | jointCtrl validData cmd =>
    rw [next]
    split_ifs
    · refine step_pool fun r hr => ?_
      obtain rfl := List.mem_singleton.mp hr
      exact ⟨fun _ hv => (by cases hv), fun _ hmode => by cases hmode⟩
    · exact .of_frame rfl rfl
  | start => exact step_pool fun _ hr => absurd hr List.not_mem_nil
  | finish i => exact step_pool fun _ hr => absurd hr List.not_mem_nil
  | tick =>
    rw [next]
    split_ifs
    · exact .went .tick (fun _ hcall => by cases hcall) rfl rfl
    · exact .of_frame rfl rfl
  | mjStep obs =>
    rw [next]
    split_ifs
    · exact .went (.mjStep obs) (fun _ hcall => by cases hcall) rfl rfl
    · exact .of_frame rfl rfl
  | reset obs ctrl => exact .went (.reset obs ctrl) (fun _ hcall => by cases hcall) rfl rfl
  | snapshot =>
    rw [next]
    split
    · exact .of_frame rfl rfl
    · exact .of_frame rfl rfl
  | emit =>
    rw [next]
    split
    · exact .of_frame rfl rfl
    · next mode hmode =>
      refine .emitted [.update mode] (fun r hr => ?_) (Pool.pending_emit ..) rfl
      obtain rfl := List.mem_singleton.mp hr
      refine ⟨fun _ hv => (by cases hv), fun other hother => ?_⟩
      obtain rfl := Reaction.update.inj hother
      exact hmode

omit [LinearOrder K] [Libc K] in
variable (lib) in
theorem pool_frame (p : Loop K) (f : PoolEvent (Reaction K)) :
    ((pool lib).next p f).state.outgoing = p.state.outgoing
      ∧ ((pool lib).next p f).state.attached = p.state.attached
      ∧ ((pool lib).next p f).state.server.isSome = p.state.server.isSome := by
  rw [pool, Pool.state_next]
  rcases (Pool.machine LocomotionReactor.defaultPoolConcurrency (react lib)).out p f with - | r
  · exact ⟨rfl, rfl, rfl⟩
  · cases r with
    | command msg => exact ⟨rfl, rfl, rfl⟩
    | update mode => exact ⟨rfl, rfl, Option.isSome_map⟩

/-- **Only a snapshot is ever to be emitted**, -/
theorem outgoing_next {p : Loop K} {e : LoopEvent K} {mode : RobotMode}
    (h : (next lib lm status p e).state.outgoing = some mode) :
    p.state.outgoing = some mode ∨ (e = .snapshot ∧ mode = p.state.mode) := by
  cases e with
  | startup | attach | request | reset => exact .inl h
  | start | finish => exact .inl ((pool_frame lib p _).1.symm.trans h)
  | jointCtrl | tick | mjStep =>
    rw [next] at h
    split_ifs at h <;> exact .inl h
  | snapshot =>
    rw [next] at h
    split at h
    · exact .inr ⟨rfl, (Option.some.inj h).symm⟩
    · exact .inl h
  | emit =>
    rw [next] at h
    split at h
    · exact .inl h
    · cases (pool_frame lib _ _).1.symm.trans h

/-- and neither the controller nor the server goes away. -/
theorem stays_next (p : Loop K) (e : LoopEvent K) :
    (p.state.attached = true → (next lib lm status p e).state.attached = true)
      ∧ (p.state.server.isSome = true → (next lib lm status p e).state.server.isSome = true) := by
  cases e with
  | startup => exact ⟨id, fun _ => rfl⟩
  | attach => exact ⟨fun _ => rfl, id⟩
  | request => exact ⟨id, fun h => Option.isSome_map.trans h⟩
  | reset => exact ⟨id, id⟩
  | start | finish =>
    obtain ⟨-, hattached, hserver⟩ := pool_frame lib p _
    exact ⟨hattached.trans, hserver.trans⟩
  | jointCtrl | tick | mjStep =>
    rw [next]
    split_ifs <;> exact ⟨id, id⟩
  | snapshot =>
    rw [next]
    split <;> exact ⟨id, id⟩
  | emit =>
    rw [next]
    split
    · exact ⟨id, id⟩
    · exact ⟨id, id⟩

omit [LinearOrder K] [Libc K] in
/-- A pass leaves the mode of the server alone. -/
theorem currentMode_sample (server : RpcServer) (validData : Bool) (req : RpcReqMsg) :
    ((RpcServer.machine lib).next server (.sample validData req)).currentMode
      = server.currentMode := by
  simp only [RpcServer.machine]
  split_ifs
  · split <;> rfl
  · rfl

omit [LinearOrder K] [Libc K] in
theorem server_pool {p : Loop K} {f : PoolEvent (Reaction K)} (hf : ∀ i, f ≠ .finish i) :
    ((pool lib).next p f).state.server = p.state.server := by
  cases f with
  | emit r => rfl
  | start =>
    have hframe := Pool.start_frame LocomotionReactor.defaultPoolConcurrency (react lib) p
    exact congrArg Shared.server hframe.2
  | finish i => exact absurd rfl (hf i)

/-- **The server keeps the mode it was told last**, and starts in DAMPING. -/
theorem currentMode_next {p : Loop K} {e : LoopEvent K} {server' : RpcServer}
    (h : (next lib lm status p e).state.server = some server') :
    (∃ mode, (machine lib lm status).out p e = some (.told mode)
        ∧ server'.currentMode = mode.toInt)
      ∨ (∃ server, p.state.server = some server ∧ server'.currentMode = server.currentMode)
      ∨ (p.state.server = none ∧ server'.currentMode = RobotMode.damping.toInt) := by
  have hsame : (next lib lm status p e).state.server = p.state.server →
      ∃ server, p.state.server = some server ∧ server'.currentMode = server.currentMode :=
    fun heq => ⟨server', heq.symm.trans h, rfl⟩
  cases e with
  | attach | reset => exact .inr (.inl (hsame rfl))
  | startup =>
    obtain rfl := Option.some.inj h
    rcases hold : p.state.server with - | old
    · exact .inr (.inr ⟨rfl, rfl⟩)
    · exact .inr (.inl ⟨old, rfl, rfl⟩)
  | request validData req =>
    obtain ⟨old, hold, rfl⟩ := Option.map_eq_some_iff.mp h
    exact .inr (.inl ⟨old, hold, currentMode_sample old validData req⟩)
  | start => exact .inr (.inl (hsame (server_pool fun _ hfinish => by cases hfinish)))
  | finish i =>
    rcases hi : p.running[i]? with - | r
    · refine .inr (.inl (hsame ?_))
      rw [next, pool, Pool.finish_of_none _ _ hi]
    · rw [next, pool, Pool.finish_of_getElem? _ _ hi] at h
      cases r with
      | command msg => exact .inr (.inl ⟨server', h, rfl⟩)
      | update mode =>
        obtain ⟨old, hold, rfl⟩ := Option.map_eq_some_iff.mp h
        refine .inl ⟨mode, ?_, rfl⟩
        simp [machine, hi, hold]
  | jointCtrl | tick | mjStep =>
    refine .inr (.inl (hsame ?_))
    rw [next]
    split_ifs <;> rfl
  | snapshot =>
    refine .inr (.inl (hsame ?_))
    rw [next]
    split <;> rfl
  | emit =>
    refine .inr (.inl (hsame ?_))
    rw [next]
    split
    · rfl
    · exact server_pool fun _ hfinish => by cases hfinish

/-- A mode that reaches the server was on its way to it, and is then the server's. -/
theorem told_next {p : Loop K} {e : LoopEvent K} {mode : RobotMode}
    (h : (machine lib lm status).out p e = some (.told mode)) :
    .update mode ∈ p.pending ∧ ∃ server, (next lib lm status p e).state.server = some server
      ∧ server.currentMode = mode.toInt := by
  cases e with
  | finish i =>
    simp only [machine] at h
    split at h
    · next other hi =>
      obtain ⟨old, hold, hmode⟩ := Option.map_eq_some_iff.mp h
      obtain rfl := Shown.told.inj hmode
      refine ⟨List.mem_append_left _ (List.mem_of_getElem? hi),
        { old with currentMode := other.toInt }, ?_, rfl⟩
      rw [next, pool, Pool.finish_of_getElem? _ _ hi]
      simp only [react, hold, Option.map_some, RpcServer.machine]
    · cases h
  | request validData req =>
    obtain ⟨_, _, hshown⟩ := Option.map_eq_some_iff.mp h
    cases hshown
  | _ => cases h

end Step

end ModeLoop

end K1Sim
