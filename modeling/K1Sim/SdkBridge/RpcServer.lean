import K1Sim.Foundations.Machine
import K1Sim.SdkBridge.RpcDispatch
import Mathlib.Algebra.Order.Ring.Rat

/-!
# SdkBridge/RpcServer — one reply for each request

`RpcServer::handle_rpc_request` takes the samples one by one: a pass of its loop is a letter of
`machine`, which shows what the pass did.  An exception leaves the callback, and the samples behind
it stay where they are.  `everyRequestAnswered_iff` says which requests get their reply.
-/

namespace K1Sim

open Foundations

/-- `RpcReqMsg_`. -/
structure RpcReqMsg where
  uuid : Bytes
  header : Bytes
  body : Bytes

/-- `RpcRespMsg_`. -/
structure RpcRespMsg where
  uuid : Bytes
  header : Bytes
  body : Bytes

/-- What a pass does: a warning, a message emitted, a response written. -/
inductive RpcEffect (K : Type) where
  | warn (text : String)
  | emit (msg : CommandMessage K)
  | write (resp : RpcRespMsg)

namespace RpcEffect

variable {K : Type}

/-- The message emitted. -/
def emitted? : RpcEffect K → Option (CommandMessage K)
  | .emit msg => some msg
  | _ => none

/-- The response written. -/
def written? : RpcEffect K → Option RpcRespMsg
  | .write resp => some resp
  | _ => none

end RpcEffect

/-- A sample taken by the loop, and the mode that the state handler stores between passes. -/
inductive RpcEvent where
  | sample (validData : Bool) (req : RpcReqMsg)
  | setCurrentMode (mode : ℤ)

/-- The request of a sample with valid data. -/
def RpcEvent.request? : RpcEvent → Option RpcReqMsg
  | .sample true req => some req
  | _ => none

/-- `RpcServer`, and the exception that left its callback. -/
structure RpcServer where
  unknownApiStatus : ℤ
  currentMode : ℤ := 0
  escaped : Option JsonException := none

namespace RpcServer

variable {K : Type} [Zero K]

/-- The switch on the kind of the action. -/
def message? (action : RpcAction K) : Option (CommandMessage K) :=
  match action.kind with
  | .modeChange => some (.modeChange action.modeChange)
  | .walk => some (.walk action.walk)
  | .head => some (.head action.head)
  | .getUp => some (.getUp action.getUp)
  | .lieDown => some (.lieDown action.lieDown)
  | .visualKick => some (.visualKick action.visualKick)
  | .none => none

/-- The warning about an unknown `api_id`. -/
def unknownWarning (outcome : RpcOutcome K) : String :=
  "SdkBridge: RPC unknown/unparseable api_id " ++ toString outcome.apiId
    ++ " — replying status " ++ toString outcome.status

variable (lib : JsonLibrary K)

/-- The reply header. -/
def replyHeader (status : ℤ) : Bytes := lib.dump (.object [("status", .integer status)])

/-- What a pass does with the outcome of its request. -/
def effects (req : RpcReqMsg) (outcome : RpcOutcome K) : List (RpcEffect K) :=
  (if outcome.unknownApiId then [.warn (unknownWarning outcome)] else [])
    ++ ((message? outcome.action).map .emit).toList
    ++ [.write
      { uuid := req.uuid
        header := replyHeader lib outcome.status
        body := outcome.responseBody }]

/-- One pass of `handle_rpc_request` over a valid sample. -/
def handleRequest (server : RpcServer) (req : RpcReqMsg) :
    Except JsonException (List (RpcEffect K)) := do
  let outcome ← lib.dispatchRpc req.header req.body server.currentMode server.unknownApiStatus
  pure (effects lib req outcome)

/-- The server, taking samples as long as no exception has left the callback. -/
def machine : Machine RpcServer RpcEvent (List (RpcEffect K)) where
  next server
    | .sample validData req =>
      if validData && server.escaped.isNone then
        match handleRequest lib server req with
        | .ok _ => server
        | .error e => { server with escaped := some e }
      else server
    | .setCurrentMode mode => { server with currentMode := mode }
  out server
    | .sample validData req =>
      if validData && server.escaped.isNone then (handleRequest lib server req).toOption else none
    | .setCurrentMode _ => none

/-! ## Every request is answered -/

/-- `dispatch_rpc` returns, and reports an unrecognised request as unknown. -/
def Dispatches (currentMode unknownApiStatus : ℤ) (req : RpcReqMsg) : Prop :=
  ∃ outcome, lib.dispatchRpc req.header req.body currentMode unknownApiStatus = .ok outcome
    ∧ (lib.Unrecognised req.header → outcome.unknownApiId = true
      ∧ outcome.status = unknownApiStatus ∧ outcome.action.kind = .none)

/-- One response carrying the request's uuid, at most one message, and none for an unrecognised
request, whose response carries the configured status. -/
structure AnsweredBy (unknownApiStatus : ℤ) (req : RpcReqMsg) (effects : List (RpcEffect K)) :
    Prop where
  response : ∃ resp, effects.filterMap RpcEffect.written? = [resp] ∧ resp.uuid = req.uuid
    ∧ (lib.Unrecognised req.header → resp.header = replyHeader lib unknownApiStatus)
  atMostOne : (effects.filterMap RpcEffect.emitted?).length ≤ 1
  none : lib.Unrecognised req.header → effects.filterMap RpcEffect.emitted? = []

/-- Along the run no exception leaves the callback, every request is dispatched whatever the mode,
and the passes answer the requests one by one, in order. -/
structure EveryRequestAnswered (server : RpcServer) (es : List RpcEvent) : Prop where
  noEscape : ((machine lib).run server es).escaped = none
  dispatches : ∀ req ∈ es.filterMap RpcEvent.request?, ∀ mode,
    Dispatches lib mode server.unknownApiStatus req
  answered : List.Forall₂ (AnsweredBy lib server.unknownApiStatus)
    (es.filterMap RpcEvent.request?) ((machine lib).trace server es)

variable {lib}

theorem emitted_effects (req : RpcReqMsg) (outcome : RpcOutcome K) :
    (effects lib req outcome).filterMap RpcEffect.emitted? = (message? outcome.action).toList := by
  unfold effects
  rcases message? outcome.action with - | msg <;> split_ifs <;> rfl

theorem written_effects (req : RpcReqMsg) (outcome : RpcOutcome K) :
    (effects lib req outcome).filterMap RpcEffect.written?
      = [⟨req.uuid, replyHeader lib outcome.status, outcome.responseBody⟩] := by
  rw [effects]
  rcases message? outcome.action with - | msg <;> split_ifs <;> rfl

theorem message?_of_kind_none {action : RpcAction K} (h : action.kind = .none) :
    message? action = none := by
  rw [message?, h]

theorem dispatches_iff (hdoc : lib.Documented) (currentMode unknownApiStatus : ℤ)
    (req : RpcReqMsg) :
    Dispatches lib currentMode unknownApiStatus req ↔ lib.WellKinded req.header req.body := by
  rw [← JsonLibrary.returns_dispatchRpc_iff hdoc _ _ currentMode unknownApiStatus]
  constructor
  · rintro ⟨outcome, houtcome, -⟩
    exact ⟨outcome, houtcome⟩
  · rintro ⟨outcome, houtcome⟩
    exact ⟨outcome, houtcome, fun h => JsonLibrary.reports_of_unrecognised h houtcome⟩

/-- A pass over a dispatched request answers it. -/
theorem handleRequest_of_dispatches {server : RpcServer} {req : RpcReqMsg}
    (h : Dispatches lib server.currentMode server.unknownApiStatus req) :
    ∃ effects, handleRequest lib server req = .ok effects
      ∧ AnsweredBy lib server.unknownApiStatus req effects := by
  obtain ⟨outcome, houtcome, hunknown⟩ := h
  refine ⟨effects lib req outcome, ?_, ?_, ?_, ?_⟩
  · rw [handleRequest]
    rw [houtcome]
    rfl
  · refine ⟨_, written_effects req outcome, rfl, fun h => ?_⟩
    rw [(hunknown h).2.1]
  · rw [emitted_effects]
    exact Option.length_toList_le
  · intro h
    rw [emitted_effects, message?_of_kind_none (hunknown h).2.2]
    rfl

/-- A pass over a sample with valid data, before any exception. -/
theorem next_sample {server : RpcServer} (h : server.escaped = none) {req : RpcReqMsg}
    {effects : List (RpcEffect K)} (hok : handleRequest lib server req = .ok effects) :
    (machine lib).next server (.sample true req) = server
      ∧ (machine lib).out server (.sample true req) = some effects := by
  simp [machine, h, hok, Except.toOption]

/-- **Requests of the right kinds are answered one by one.** -/
theorem run_answers (hdoc : lib.Documented) : ∀ (es : List RpcEvent) (server : RpcServer),
    server.escaped = none →
    (∀ req ∈ es.filterMap RpcEvent.request?, lib.WellKinded req.header req.body) →
    ((machine lib).run server es).escaped = none
      ∧ List.Forall₂ (AnsweredBy lib server.unknownApiStatus) (es.filterMap RpcEvent.request?)
        ((machine lib).trace server es)
  | [], _, h, _ => ⟨h, .nil⟩
  | .setCurrentMode mode :: es, server, h, hkinds =>
      run_answers hdoc es { server with currentMode := mode } h hkinds
  | .sample false _ :: es, server, h, hkinds => run_answers hdoc es server h hkinds
  | .sample true req :: es, server, h, hkinds => by
      obtain ⟨hreq, hrest⟩ := List.forall_mem_cons.mp hkinds
      obtain ⟨effects, hok, hanswered⟩ :=
        handleRequest_of_dispatches ((dispatches_iff hdoc server.currentMode _ req).mpr hreq)
      obtain ⟨hnext, hout⟩ := next_sample h hok
      obtain ⟨hescaped, hrest⟩ := run_answers hdoc es server h hrest
      rw [Machine.run_cons, Machine.trace_cons, hnext, hout]
      exact ⟨hescaped, .cons hanswered hrest⟩

/-- **Every request is answered exactly when every request is of the right kinds.** -/
theorem everyRequestAnswered_iff (hdoc : lib.Documented) (currentMode unknownApiStatus : ℤ)
    (es : List RpcEvent) :
    EveryRequestAnswered lib
        { unknownApiStatus := unknownApiStatus, currentMode := currentMode } es
      ↔ ∀ req ∈ es.filterMap RpcEvent.request?, lib.WellKinded req.header req.body := by
  constructor
  · intro h req hreq
    exact (dispatches_iff hdoc currentMode _ req).mp (h.dispatches req hreq currentMode)
  · intro h
    obtain ⟨hescaped, hanswered⟩ := run_answers hdoc es
      { unknownApiStatus := unknownApiStatus, currentMode := currentMode } rfl h
    exact ⟨hescaped, fun req hreq mode => (dispatches_iff hdoc mode _ req).mpr (h req hreq),
      hanswered⟩

/-! ## Three requests -/

/-- The bytes of a text. -/
def bytes (text : String) : Bytes := text.toUTF8.data.toList

/-- The texts below and what they parse to. -/
def documents : List (Bytes × Json ℚ) :=
  [(bytes "\x7b\"api_id\":2001\x7d", .object [("api_id", .integer 2001)]),
    (bytes "\x7b\"api_id\":\"2001\"\x7d", .object [("api_id", .string "2001")]),
    (bytes "\x7b\"vx\":1\x7d", .object [("vx", .integer 1)])]

/-- A library that knows these texts, and one with a number too large. -/
def smallLibrary : JsonLibrary ℚ where
  parse text :=
    match documents.lookup text with
    | some value => .ok value
    | none => .error (if text = bytes "\x7b\"vx\":1e999\x7d" then .outOfRange else .parseError)
  getAsInt64
    | .integer n => .ok n
    | .real x => .ok (x.num.tdiv x.den)
    | _ => .error .typeError
  getAsInt
    | .integer n => .ok (n.bmod (2 ^ 32))
    | .real x => .ok (x.num.tdiv x.den)
    | .boolean b => .ok b.toInt
    | _ => .error .typeError
  getAsDouble
    | .integer n => .ok n
    | .real x => .ok x
    | _ => .error .typeError
  getAsBool
    | .boolean b => .ok b
    | _ => .error .typeError
  dump
    | .object [(key, .integer n)] => bytes ("\x7b\"" ++ key ++ "\":" ++ toString n ++ "\x7d")
    | _ => []

theorem smallLibrary_documented : smallLibrary.Documented where
  parse text e h := by
    simp only [smallLibrary] at h
    split at h
    · exact nomatch h
    · obtain rfl := Except.error.inj h
      split_ifs <;> simp
  int64 := .of_forall (by rintro ⟨⟩ <;> simp [smallLibrary, Json.isNumber])
  int := .of_forall (by rintro ⟨⟩ <;> simp [smallLibrary, Json.isNumber, Json.isBoolean])
  double := .of_forall (by rintro ⟨⟩ <;> simp [smallLibrary, Json.isNumber])
  bool := .of_forall (by rintro ⟨⟩ <;> simp [smallLibrary, Json.isBoolean])

/-- A walk, a change of mode and a malformed header: all answered. -/
theorem everyRequestAnswered_smallLibrary :
    EveryRequestAnswered smallLibrary { unknownApiStatus := 7, currentMode := 0 }
      [.sample true ⟨bytes "a", bytes "\x7b\"api_id\":2001\x7d", bytes "\x7b\"vx\":1\x7d"⟩,
        .setCurrentMode 4, .sample true ⟨bytes "b", bytes "\x7b", bytes ""⟩] := by
  refine (everyRequestAnswered_iff smallLibrary_documented 0 7 _).mpr fun req hreq => ?_
  obtain rfl | rfl := List.mem_pair.mp hreq
  · exact (JsonLibrary.returns_dispatchRpc_iff smallLibrary_documented _ _ 0 0).mp ⟨_, rfl⟩
  · exact (JsonLibrary.returns_dispatchRpc_iff smallLibrary_documented _ _ 0 0).mp ⟨_, rfl⟩

/-- An `api_id` that is a string, or a body with a number too large: no reply, and an exception
leaves the callback. -/
theorem not_everyRequestAnswered :
    ¬ EveryRequestAnswered smallLibrary { unknownApiStatus := 7, currentMode := 0 }
        [.sample true ⟨bytes "a", bytes "\x7b\"api_id\":\"2001\"\x7d", bytes ""⟩]
      ∧ ¬ EveryRequestAnswered smallLibrary { unknownApiStatus := 7, currentMode := 0 }
        [.sample true
          ⟨bytes "a", bytes "\x7b\"api_id\":2001\x7d", bytes "\x7b\"vx\":1e999\x7d"⟩] := by
  constructor
  · intro h
    exact absurd h.noEscape (by decide +kernel)
  · intro h
    exact absurd h.noEscape (by decide +kernel)

end RpcServer

end K1Sim
