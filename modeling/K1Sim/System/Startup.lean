import K1Sim.Locomotion.Reactions
import K1Sim.SdkBridge.RpcServer
import Mathlib.Data.List.TakeWhile

/-!
# System/Startup — commands that arrive while the modules start

`SdkBridge` takes requests from the moment its Startup has created the RPC server, `Locomotion` has
a controller from the moment its own Startup has assigned one, and neither waits for the other.
`controllerUsedAssigned_iff` says along which orders no reaction goes through the null pointer.
-/

namespace K1Sim

open Foundations

/-- `Locomotion`, whose controller is null until Startup has assigned it; `nullUse` says that a
reaction has called through the null pointer. -/
structure Locomotion (K : Type*) [Zero K] where
  controller : Option (LocomotionController K) := none
  walkWarned : Bool := false
  getupWarned : Bool := false
  liedownWarned : Bool := false
  kickWarned : Bool := false
  log : List String := []
  nullUse : Bool := false

namespace Locomotion

variable {K : Type*} [Zero K]

/-- A call through `controller_`. -/
def useController (r : Locomotion K) (call : LocomotionController K → LocomotionController K) :
    Locomotion K :=
  match r.controller with
  | some controller => { r with controller := some (call controller) }
  | none => { r with nullUse := true }

/-- The reaction to a message. -/
def react (r : Locomotion K) : CommandMessage K → Locomotion K
  | .head cmd => r.useController fun c => c.setHeadCommand cmd.pitch cmd.yaw
  | .modeChange req =>
    { r with log := r.log ++ ["ChangeMode requested: mode " ++ toString req.mode] }.useController
      fun c => c.requestModeChange req.mode
  | .lowCmd cmd => r.useController fun c => c.setLowCmd cmd.cmdType cmd.motors
  | .walk _ =>
    { r with
      walkWarned := true
      log := r.log ++ LocomotionReactor.warnOnce r.walkWarned "Move" }
  | .getUp _ =>
    { r with
      getupWarned := true
      log := r.log ++ LocomotionReactor.warnOnce r.getupWarned "GetUp" }
  | .lieDown _ =>
    { r with
      liedownWarned := true
      log := r.log ++ LocomotionReactor.warnOnce r.liedownWarned "LieDown" }
  | .visualKick _ =>
    { r with
      kickWarned := true
      log := r.log ++ LocomotionReactor.warnOnce r.kickWarned "VisualKick" }

/-- Startup, with what the controller's constructor makes of the two config files; an exception is
logged and thrown again. -/
def startup (build : Except String (LocomotionController K)) (r : Locomotion K) : Locomotion K :=
  match build with
  | .ok controller =>
    { r with
      controller := some controller
      log := r.log
        ++ ["Locomotion ready (servo-command listener; policies live in NUbots_K1)"] }
  | .error what =>
    { r with log := r.log ++ ["Locomotion: failed to build the mode controller: " ++ what] }

/-- The messages whose reactions call through `controller_`. -/
def usesController : CommandMessage K → Bool
  | .head _ | .modeChange _ | .lowCmd _ => true
  | .walk _ | .getUp _ | .lieDown _ | .visualKick _ => false

/-- The reactor once it has its controller. -/
def ofReactor (r : LocomotionReactor K) : Locomotion K :=
  { controller := some r.controller
    walkWarned := r.walkWarned
    getupWarned := r.getupWarned
    liedownWarned := r.liedownWarned
    kickWarned := r.kickWarned
    log := r.log }

/-- **With its controller assigned, the module reacts as the reactor does.** -/
theorem react_ofReactor (r : LocomotionReactor K) (msg : CommandMessage K) :
    (ofReactor r).react msg = ofReactor (r.react msg) := by
  cases msg <;> rfl

theorem react_of_none {r : Locomotion K} (h : r.controller = none) (msg : CommandMessage K) :
    (r.react msg).controller = none
      ∧ (r.react msg).nullUse = (r.nullUse || usesController msg) := by
  cases msg <;> simp [react, useController, usesController, h]

theorem react_of_some {r : Locomotion K} (h : r.controller.isSome = true)
    (msg : CommandMessage K) :
    (r.react msg).controller.isSome = true ∧ (r.react msg).nullUse = r.nullUse := by
  obtain ⟨controller, hcontroller⟩ := Option.isSome_iff_exists.mp h
  cases msg <;> simp [react, useController, hcontroller]

end Locomotion

/-- What reaches the two modules from outside: the two Startup reactions, a request or the mode
stored for the next one, and a sample on `rt/joint_ctrl`. -/
inductive LaunchInput (K : Type) where
  | locomotionStartup
  | sdkBridgeStartup
  | rpc (event : RpcEvent)
  | jointCtrl (validData : Bool) (cmd : LowCmdMessage K)

/-- What can happen: an input; a thread of the pool takes up a reaction, or runs it. -/
inductive LaunchEvent (K : Type) where
  | input (input : LaunchInput K)
  | start
  | finish (i : ℕ)

/-- The two modules while they start: the RPC server, once `SdkBridge`'s Startup has created it, and
the reactions of `Locomotion`. -/
structure Launch (K : Type) [Zero K] where
  server : Option RpcServer := none
  reactions : Pool (CommandMessage K) (Locomotion K) := ⟨[], [], {}⟩

namespace Launch

variable {K : Type} [Zero K] (lib : JsonLibrary K) (unknownApiStatus : ℤ)
  (build : Except String (LocomotionController K))

/-- The RPC server: an input shows the messages it makes the server emit. -/
def front : Machine (Option RpcServer) (LaunchInput K) (List (CommandMessage K)) where
  next
    | server, .locomotionStartup => server
    | _, .sdkBridgeStartup => some { unknownApiStatus := unknownApiStatus }
    | server, .rpc event => server.map fun s => (RpcServer.machine lib).next s event
    | server, .jointCtrl _ _ => server
  out
    | some server, .rpc event =>
      ((RpcServer.machine lib).out server event).map fun effects =>
        effects.filterMap RpcEffect.emitted?
    | some _, .jointCtrl true cmd => some [.lowCmd cmd]
    | _, _ => none

/-- The messages an input makes the server emit. -/
def emittedBy (server : Option RpcServer) (input : LaunchInput K) : List (CommandMessage K) :=
  ((front lib unknownApiStatus).out server input).getD []

/-- The pool that runs `Locomotion`'s reactions. -/
def pool : Machine (Pool (CommandMessage K) (Locomotion K)) (PoolEvent (CommandMessage K))
    (CommandMessage K) :=
  Pool.machine LocomotionReactor.defaultPoolConcurrency Locomotion.react

/-- What an input does to the module itself. -/
def assign (input : LaunchInput K) (r : Locomotion K) : Locomotion K :=
  match input with
  | .locomotionStartup => r.startup build
  | .sdkBridgeStartup | .rpc _ | .jointCtrl _ _ => r

/-- The two modules.  The outputs are the messages reacted to. -/
def machine : Machine (Launch K) (LaunchEvent K) (CommandMessage K) where
  next s
    | .input input =>
      { server := (front lib unknownApiStatus).next s.server input
        reactions := pool.run { s.reactions with state := assign build input s.reactions.state }
          ((emittedBy lib unknownApiStatus s.server input).map .emit) }
    | .start => { s with reactions := pool.next s.reactions .start }
    | .finish i => { s with reactions := pool.next s.reactions (.finish i) }
  out s
    | .finish i => s.reactions.running[i]?
    | _ => none

/-- The input of an event. -/
def input? : LaunchEvent K → Option (LaunchInput K)
  | .input input => some input
  | _ => none

/-- The input that assigns the controller: none, where the constructor throws. -/
def assigns : LaunchInput K → Bool
  | .locomotionStartup => build.toBool
  | _ => false

/-- The events before the controller is assigned. -/
def beforeAssigned (es : List (LaunchEvent K)) : List (LaunchEvent K) :=
  es.takeWhile fun e => !(input? e).any (assigns build)

variable {lib unknownApiStatus build}

theorem next_input (s : Launch K) (input : LaunchInput K) :
    ((machine lib unknownApiStatus build).next s (.input input)).reactions
      = { s.reactions with
          queue := s.reactions.queue ++ emittedBy lib unknownApiStatus s.server input
          state := assign build input s.reactions.state } :=
  Pool.run_map_emit _ _ _ _

/-- Only the Startup reaction and the reactions to messages touch the module's state. -/
theorem state_next (s : Launch K) (e : LaunchEvent K) :
    ((machine lib unknownApiStatus build).next s e).reactions.state
      = ((machine lib unknownApiStatus build).out s e).toList.foldl Locomotion.react
        ((input? e).elim s.reactions.state fun input => assign build input s.reactions.state) := by
  rcases e with input | - | i
  case input =>
    rw [next_input]
    rfl
  case start =>
    exact (Pool.start_frame LocomotionReactor.defaultPoolConcurrency Locomotion.react
      s.reactions).2
  case finish =>
    exact Pool.state_next LocomotionReactor.defaultPoolConcurrency Locomotion.react s.reactions
      (.finish i)

/-- An input that does not assign the controller leaves it and the use of the pointer alone. -/
theorem assign_of_not_assigns {input : LaunchInput K} (h : assigns build input = false)
    (r : Locomotion K) :
    (assign build input r).controller = r.controller
      ∧ (assign build input r).nullUse = r.nullUse := by
  rcases input with - | - | event | ⟨validData, cmd⟩
  case locomotionStartup =>
    rcases build with what | controller
    case error => exact ⟨rfl, rfl⟩
    case ok => cases h
  case sdkBridgeStartup | rpc | jointCtrl => exact ⟨rfl, rfl⟩

theorem assign_of_assigns {input : LaunchInput K} (h : assigns build input = true)
    (r : Locomotion K) :
    (assign build input r).controller.isSome = true
      ∧ (assign build input r).nullUse = r.nullUse := by
  rcases input with - | - | event | ⟨validData, cmd⟩
  case locomotionStartup =>
    rcases build with what | controller
    case error => cases h
    case ok => exact ⟨rfl, rfl⟩
  case sdkBridgeStartup | rpc | jointCtrl => cases h

variable (lib unknownApiStatus) in
theorem next_of_none {s : Launch K} {e : LaunchEvent K}
    (h : s.reactions.state.controller = none) (he : (input? e).any (assigns build) = false) :
    ((machine lib unknownApiStatus build).next s e).reactions.state.controller = none
      ∧ ((machine lib unknownApiStatus build).next s e).reactions.state.nullUse
        = (s.reactions.state.nullUse || ((machine lib unknownApiStatus build).out s
          e).toList.any Locomotion.usesController) := by
  rw [state_next]
  rcases e with input | - | i
  case input =>
    obtain ⟨hcontroller, hnull⟩ := assign_of_not_assigns he s.reactions.state
    exact ⟨hcontroller.trans h, hnull.trans (Bool.or_false _).symm⟩
  case start => exact ⟨h, (Bool.or_false _).symm⟩
  case finish =>
    rcases (machine lib unknownApiStatus build).out s (.finish i) with - | msg
    case none => exact ⟨h, (Bool.or_false _).symm⟩
    case some => simpa [input?] using Locomotion.react_of_none h msg

variable (lib unknownApiStatus build) in
theorem next_of_some {s : Launch K} (h : s.reactions.state.controller.isSome = true)
    (e : LaunchEvent K) :
    ((machine lib unknownApiStatus build).next s e).reactions.state.controller.isSome = true
      ∧ ((machine lib unknownApiStatus build).next s e).reactions.state.nullUse
        = s.reactions.state.nullUse := by
  rw [state_next]
  rcases e with input | - | i
  case input =>
    rcases hassigns : assigns build input with - | -
    case false =>
      obtain ⟨hcontroller, hnull⟩ := assign_of_not_assigns hassigns s.reactions.state
      exact ⟨(congrArg Option.isSome hcontroller).trans h, hnull⟩
    case true => exact assign_of_assigns hassigns s.reactions.state
  case start => exact ⟨h, rfl⟩
  case finish =>
    rcases (machine lib unknownApiStatus build).out s (.finish i) with - | msg
    case none => exact ⟨h, rfl⟩
    case some => exact Locomotion.react_of_some h msg

/-- Once the controller is there, it stays, and no reaction calls through the null pointer. -/
theorem run_of_some {s : Launch K} (h : s.reactions.state.controller.isSome = true)
    (es : List (LaunchEvent K)) :
    ((machine lib unknownApiStatus build).run s es).reactions.state.nullUse
      = s.reactions.state.nullUse := by
  induction es generalizing s with
  | nil => rfl
  | cons e es ih =>
    obtain ⟨hsome, hnull⟩ := next_of_some lib unknownApiStatus build h e
    exact (ih hsome).trans hnull

/-- **The null pointer is used exactly when a reaction to a command runs before the controller is
assigned.** -/
theorem run_nullUse (es : List (LaunchEvent K)) {s : Launch K}
    (h : s.reactions.state.controller = none) :
    ((machine lib unknownApiStatus build).run s es).reactions.state.nullUse
      = (s.reactions.state.nullUse || ((machine lib unknownApiStatus build).trace s
        (beforeAssigned build es)).any Locomotion.usesController) := by
  induction es generalizing s with
  | nil => simp [beforeAssigned]
  | cons e es ih =>
    rcases he : (input? e).any (assigns build) with - | -
    case false =>
      obtain ⟨hnone, hnull⟩ := next_of_none lib unknownApiStatus h he
      have hbefore : beforeAssigned build (e :: es) = e :: beforeAssigned build es :=
        List.takeWhile_cons_of_pos (by rw [he]; rfl)
      rw [Machine.run_cons, hbefore, Machine.trace_cons, List.any_append, ih hnone, hnull,
        Bool.or_assoc]
    case true =>
      have hbefore : beforeAssigned build (e :: es) = [] :=
        List.takeWhile_cons_of_neg (by rw [he]; decide)
      rcases e with input | - | i
      case start | finish => cases he
      obtain ⟨hsome, hnull⟩ := assign_of_assigns he s.reactions.state
      rw [Machine.run_cons, run_of_some (by rw [next_input]; exact hsome), next_input, hbefore]
      exact hnull.trans (Bool.or_false _).symm

/-! ## The reactions that some schedule runs first -/

theorem flatten_front_trace (server : Option RpcServer) (input : LaunchInput K)
    (inputs : List (LaunchInput K)) :
    ((front lib unknownApiStatus).trace server (input :: inputs)).flatten
      = emittedBy lib unknownApiStatus server input
        ++ ((front lib unknownApiStatus).trace ((front lib unknownApiStatus).next server input)
          inputs).flatten := by
  rw [Machine.trace_cons, List.flatten_append, emittedBy]
  rcases (front lib unknownApiStatus).out server input with - | msgs
  case none => rfl
  case some => rw [Option.toList_some, List.flatten_singleton, Option.getD_some]

/-- What a run reacts to was on its way, or is emitted on account of its inputs. -/
theorem mem_emitted_of_mem_trace (es : List (LaunchEvent K)) (s : Launch K)
    {msg : CommandMessage K} (h : msg ∈ (machine lib unknownApiStatus build).trace s es) :
    msg ∈ s.reactions.pending ++ ((front lib unknownApiStatus).trace s.server
      (es.filterMap input?)).flatten := by
  induction es generalizing s with
  | nil => exact absurd h List.not_mem_nil
  | cons e es ih =>
    rcases e with input | - | i
    case input =>
      have hrest := ih _ h
      rw [List.filterMap_cons_some (f := input?) rfl, flatten_front_trace]
      have hserver : ((machine lib unknownApiStatus build).next s (.input input)).server
          = (front lib unknownApiStatus).next s.server input := rfl
      rw [next_input, hserver] at hrest
      simpa only [Pool.pending, List.append_assoc] using hrest
    case start =>
      have hrest := ih _ h
      have hpending := (Pool.start_frame LocomotionReactor.defaultPoolConcurrency Locomotion.react
        s.reactions).1
      simp only [machine, pool, hpending] at hrest
      exact hrest
    case finish =>
      have hperm := Pool.pending_next_perm LocomotionReactor.defaultPoolConcurrency
        Locomotion.react s.reactions (.finish i)
      rw [Pool.emitted, Pool.emitted, List.append_nil] at hperm
      rcases List.mem_append.mp h with hnow | hlater
      · exact List.mem_append_left _ (hperm.subset (List.mem_append_left _ hnow))
      · rcases List.mem_append.mp (ih _ hlater) with hpending | hemitted
        · exact List.mem_append_left _ (hperm.subset (List.mem_append_right _ hpending))
        · exact List.mem_append_right _ hemitted

/-- One thread takes up a reaction and runs it, `n` times over. -/
def turns (n : ℕ) : List (LaunchEvent K) := (List.replicate n [.start, .finish 0]).flatten

/-- The schedule that runs every reaction as soon as its message is emitted. -/
def promptly (lib : JsonLibrary K) (unknownApiStatus : ℤ) :
    Option RpcServer → List (LaunchInput K) → List (LaunchEvent K)
  | _, [] => []
  | server, input :: inputs =>
    .input input :: turns (emittedBy lib unknownApiStatus server input).length
      ++ promptly lib unknownApiStatus ((front lib unknownApiStatus).next server input) inputs

omit [Zero K] in
theorem filterMap_turns (n : ℕ) : (turns n : List (LaunchEvent K)).filterMap input? = [] := by
  induction n with
  | zero => rfl
  | succ n ih => exact ih

theorem filterMap_promptly (server : Option RpcServer) (inputs : List (LaunchInput K)) :
    (promptly lib unknownApiStatus server inputs).filterMap input? = inputs := by
  induction inputs generalizing server with
  | nil => rfl
  | cons input inputs ih =>
    rw [promptly, List.cons_append, List.filterMap_cons_some (f := input?) rfl,
      List.filterMap_append, filterMap_turns, List.nil_append, ih]

variable (lib unknownApiStatus build) in
/-- **Reactions taken in turn run in the order of their messages**, and then nothing is left. -/
theorem trace_turns (msgs : List (CommandMessage K)) (server : Option RpcServer)
    (r : Locomotion K) :
    (machine lib unknownApiStatus build).trace ⟨server, msgs, [], r⟩ (turns msgs.length) = msgs
      ∧ (machine lib unknownApiStatus build).run ⟨server, msgs, [], r⟩ (turns msgs.length)
        = ⟨server, [], [], msgs.foldl Locomotion.react r⟩ := by
  induction msgs generalizing r with
  | nil => exact ⟨rfl, rfl⟩
  | cons msg msgs ih =>
    obtain ⟨htrace, hrun⟩ := ih (r.react msg)
    exact ⟨congrArg (msg :: ·) htrace, hrun⟩

theorem trace_promptly (inputs : List (LaunchInput K)) (server : Option RpcServer)
    (r : Locomotion K) :
    (machine lib unknownApiStatus build).trace ⟨server, [], [], r⟩
        (promptly lib unknownApiStatus server inputs)
      = ((front lib unknownApiStatus).trace server inputs).flatten := by
  induction inputs generalizing server r with
  | nil => rfl
  | cons input inputs ih =>
    have hnext : (machine lib unknownApiStatus build).next ⟨server, [], [], r⟩ (.input input)
        = ⟨(front lib unknownApiStatus).next server input,
          emittedBy lib unknownApiStatus server input, [], assign build input r⟩ :=
      congrArg (Launch.mk _) (next_input _ input)
    obtain ⟨htrace, hrun⟩ := trace_turns lib unknownApiStatus build
      (emittedBy lib unknownApiStatus server input) ((front lib unknownApiStatus).next server input)
      (assign build input r)
    rw [promptly, List.cons_append, Machine.trace_cons, hnext, Machine.trace_append, htrace, hrun,
      ih, flatten_front_trace]
    rfl

theorem filterMap_beforeAssigned (es : List (LaunchEvent K)) :
    (beforeAssigned build es).filterMap input?
      = (es.filterMap input?).takeWhile fun input => !assigns build input := by
  induction es with
  | nil => rfl
  | cons e es ih =>
    rcases hinput : input? e with - | input
    case none =>
      rw [beforeAssigned, List.takeWhile_cons_of_pos (by rw [hinput]; rfl),
        List.filterMap_cons_none hinput, List.filterMap_cons_none hinput]
      exact ih
    case some =>
      rcases hassigns : assigns build input with - | -
      case false =>
        rw [beforeAssigned, List.takeWhile_cons_of_pos (by simp [hinput, hassigns]),
          List.filterMap_cons_some hinput, List.filterMap_cons_some hinput,
          List.takeWhile_cons_of_pos (by simp [hassigns])]
        exact congrArg (input :: ·) ih
      case true =>
        rw [beforeAssigned, List.takeWhile_cons_of_neg (by simp [hinput, hassigns]),
          List.filterMap_cons_some hinput, List.takeWhile_cons_of_neg (by simp [hassigns])]
        rfl

variable (lib unknownApiStatus) in
/-- The schedule that runs every reaction to what is emitted before the assignment, and none to what
is emitted from then on. -/
theorem beforeAssigned_promptly (before after : List (LaunchInput K))
    (hbefore : ∀ input ∈ before, assigns build input = false) (server : Option RpcServer) :
    ∃ rest, beforeAssigned build (promptly lib unknownApiStatus server before
        ++ after.map LaunchEvent.input)
      = promptly lib unknownApiStatus server before ++ rest := by
  refine ⟨_, List.takeWhile_append_of_pos fun e he => ?_⟩
  rcases hinput : input? e with - | input
  case none => rfl
  case some =>
    have hmem : input ∈ (promptly lib unknownApiStatus server before).filterMap input? :=
      List.mem_filterMap.mpr ⟨e, he, hinput⟩
    rw [filterMap_promptly] at hmem
    simp [hbefore input hmem]

/-- **No schedule of the reactions goes through the null pointer exactly when no command for the
controller is emitted before it is assigned.**  For every order of the two Startup reactions and of
the requests and samples that arrive, `controller_` is assigned whenever a reaction uses it, in
whatever order the pool runs the reactions, if and only if every request that makes the RPC server
emit a HeadCommand or a ModeChangeRequest, and every valid sample on `rt/joint_ctrl` that the server
reads, arrives after `Locomotion`'s Startup has built the controller. -/
theorem controllerUsedAssigned_iff (lib : JsonLibrary K) (unknownApiStatus : ℤ)
    (build : Except String (LocomotionController K)) (inputs : List (LaunchInput K)) :
    (∀ es : List (LaunchEvent K), es.filterMap input? = inputs →
      ((machine lib unknownApiStatus build).run {} es).reactions.state.nullUse = false)
      ↔ ∀ msg ∈ ((front lib unknownApiStatus).trace none
          (inputs.takeWhile fun input => !assigns build input)).flatten,
        Locomotion.usesController msg = false := by
  constructor
  · intro hsafe msg hmsg
    set before := inputs.takeWhile fun input => !assigns build input with hbefore
    set after := inputs.dropWhile fun input => !assigns build input
    have hnone : ∀ input ∈ before, assigns build input = false := fun input hinput => by
      simpa using List.mem_takeWhile_imp hinput
    obtain ⟨rest, hrest⟩ :=
      beforeAssigned_promptly lib unknownApiStatus before after hnone none
    have hinputs : (promptly lib unknownApiStatus none before
        ++ after.map LaunchEvent.input).filterMap input? = inputs := by
      have hafter : (after.map LaunchEvent.input).filterMap input? = after := by
        rw [List.filterMap_map]
        exact List.filterMap_some
      rw [List.filterMap_append, filterMap_promptly, hafter]
      exact List.takeWhile_append_dropWhile
    have hrun := hsafe _ hinputs
    rw [run_nullUse _ rfl, Bool.false_or, hrest, Machine.trace_append, trace_promptly] at hrun
    have hall := List.any_eq_false.mp hrun msg (List.mem_append_left _ hmsg)
    simpa using hall
  · rintro hquiet es rfl
    rw [run_nullUse es rfl, Bool.false_or, List.any_eq_false]
    intro msg hmsg
    have hemitted := mem_emitted_of_mem_trace _ _ hmsg
    rw [filterMap_beforeAssigned] at hemitted
    simpa using hquiet msg hemitted

/-- `SdkBridge` is up first, and a sample on `rt/joint_ctrl` arrives: its reaction can run while
`Locomotion` has no controller. -/
theorem controllerUsed_beforeAssigned :
    let M := machine RpcServer.smallLibrary 0
      (.ok { cfg := LocomotionController.Config.ofYaml {} {} })
    (M.run {} [.input .sdkBridgeStartup, .input (.jointCtrl true ⟨1, []⟩), .start, .finish 0,
      .input .locomotionStartup]).reactions.state.nullUse ≠ false := by
  decide +kernel

end Launch

end K1Sim
