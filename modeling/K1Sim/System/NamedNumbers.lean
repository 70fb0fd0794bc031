import K1Sim.Locomotion.Controller
import K1Sim.SdkBridge.RpcServer

/-!
# System/NamedNumbers — the modes and the calls that numbers name

A request names its call and its mode by numbers, which the bridge casts to the widths of its
enumerations.  `namesTruly_iff` says which requests are taken for what their numbers name.
-/

namespace K1Sim

open Foundations LocomotionController

/-- The mode that a recognised mode comes to: the walking modes are held in PREPARE. -/
def RobotMode.effective : RobotMode → Option RobotMode
  | .unknown => none
  | .damping => some .damping
  | .prepare | .walking | .soccer => some .prepare
  | .custom => some .custom

theorem RobotMode.inWidth_toInt (mode : RobotMode) : InWidth 32 mode.toInt := by
  rcases mode <;> decide

theorem ApiId.inWidth_toInt (id : ApiId) : InWidth 64 id.toInt := by
  rcases id <;> decide

/-- **The controller enters what a recognised mode comes to.** -/
theorem LocomotionController.effectiveState_eq_some_iff {requestedMode : ℤ} {state : State} :
    effectiveState requestedMode = some state
      ↔ ∃ named : RobotMode, named.toInt = requestedMode ∧ named.effective = some state.mode := by
  constructor
  · intro h
    rw [effectiveState] at h
    rcases hnamed : RobotMode.ofInt? requestedMode with - | named
    · rw [hnamed] at h
      exact nomatch h
    · rw [hnamed] at h
      refine ⟨named, RobotMode.toInt_of_ofInt? hnamed, ?_⟩
      rcases named
      case unknown => exact nomatch h
      all_goals
        obtain rfl := Option.some.inj h
        rfl
  · rintro ⟨named, rfl, h⟩
    rw [effectiveState, RobotMode.ofInt?_toInt]
    rcases named <;> rcases state <;> first | rfl | exact nomatch h

theorem LocomotionController.exists_state_of_effective {named : RobotMode}
    (h : named.effective ≠ none) : ∃ state : State, named.effective = some state.mode := by
  rcases named
  case unknown => exact absurd rfl h
  case damping => exact ⟨.damping, rfl⟩
  case custom => exact ⟨.custom, rfl⟩
  all_goals exact ⟨.prepare, rfl⟩

/-- The mode reported is the one entered, if any. -/
theorem LocomotionController.mode_handleModeRequest {K : Type*} [Field K] [LinearOrder K]
    (lm : LoadedModel K) (c : LocomotionController K) (requestedMode : ℤ) (d : MjData K) :
    (handleModeRequest lm c requestedMode d).fsm.mode
      = ((effectiveState requestedMode).map State.mode).getD c.fsm.mode := by
  rw [handleModeRequest]
  split <;> simp [*, State.mode]

namespace JsonLibrary

variable {K : Type} (lib : JsonLibrary K)

/-- The text has this field. -/
def Carries (text : Bytes) (key : String) (value : Json K) : Prop :=
  ∃ json, lib.parseOrEmpty text = .ok json ∧ json.find? key = some value

variable [Field K] [LinearOrder K]

/-- A CHANGE_MODE request makes the robot enter only the mode that its number names, and a call
whose number names none is reported as unknown. -/
structure NamesTruly (lm : LoadedModel K) (headerJson bodyJson : Bytes)
    (currentMode unknownApiStatus : ℤ) : Prop where
  mode : ∀ apiId value outcome, lib.Carries headerJson "api_id" apiId →
    apiId.HasValue ApiId.changeMode.toInt → lib.Carries bodyJson "mode" value →
    value.isNumber = true →
    lib.dispatchRpc headerJson bodyJson currentMode unknownApiStatus = .ok outcome →
    ∀ (c : LocomotionController K) d m, c.fsm.mode ≠ m →
      (handleModeRequest lm c outcome.action.modeChange.mode d).fsm.mode = m →
      ∃ named : RobotMode, value.HasValue named.toInt ∧ named.effective = some m
  apiId : ∀ value, lib.Carries headerJson "api_id" value → value.isNumber = true →
    (∀ id : ApiId, ¬ value.HasValue id.toInt) →
    ∃ outcome, lib.dispatchRpc headerJson bodyJson currentMode unknownApiStatus = .ok outcome
      ∧ outcome.unknownApiId = true

/-- The mode of a CHANGE_MODE request aliases no recognised mode, and a number that names no call
aliases none that the bridge dispatches, with a body that no number of overflows. -/
structure Unaliased [FloorRing K] (headerJson bodyJson : Bytes) : Prop where
  mode : ∀ apiId value, lib.Carries headerJson "api_id" apiId →
    apiId.HasValue ApiId.changeMode.toInt → lib.Carries bodyJson "mode" value →
    ∀ named : RobotMode, named.effective ≠ none → ¬ value.Aliases 32 lib.getAsInt named.toInt
  apiId : ∀ value, lib.Carries headerJson "api_id" value → value.isNumber = true →
    (∀ id : ApiId, ¬ value.HasValue id.toInt) →
    ¬ lib.Overflows bodyJson
      ∧ ∀ id ∈ ApiId.dispatched, ¬ value.Aliases 64 lib.getAsInt64 id.toInt

variable {lib}

section Dispatch

omit [LinearOrder K]

omit [Field K] in
/-- A field has one value. -/
theorem Carries.eq {text : Bytes} {key : String} {json value value' : Json K}
    (hparse : lib.parseOrEmpty text = .ok json) (hfind : json.find? key = some value)
    (h : lib.Carries text key value') : value' = value := by
  obtain ⟨json', hparse', hfind'⟩ := h
  obtain rfl := Except.ok.inj (hparse.symm.trans hparse')
  exact Option.some.inj (hfind'.symm.trans hfind)

/-- The switch is reached with the cast `api_id`. -/
theorem dispatchRpc_eq_dispatchBody {headerJson bodyJson : Bytes} {value body : Json K} {apiId : ℤ}
    (hheader : lib.Carries headerJson "api_id" value) (hapiId : lib.getAsInt64 value = .ok apiId)
    (hbody : lib.parseOrEmpty bodyJson = .ok body) (currentMode unknownApiStatus : ℤ) :
    lib.dispatchRpc headerJson bodyJson currentMode unknownApiStatus
      = lib.dispatchBody body currentMode unknownApiStatus apiId := by
  obtain ⟨header, hparse, hfind⟩ := hheader
  rw [dispatchRpc, hparse]
  simp only [bind, Except.bind, hfind, hapiId, hbody]

/-- A CHANGE_MODE request asks for its mode as cast. -/
theorem dispatchBody_changeMode {body value : Json K} (hfind : body.find? "mode" = some value)
    {currentMode unknownApiStatus : ℤ} {outcome : RpcOutcome K} :
    lib.dispatchBody body currentMode unknownApiStatus ApiId.changeMode.toInt = .ok outcome
      ↔ ∃ mode, lib.getAsInt value = .ok mode
        ∧ outcome =
          { action := { kind := .modeChange, modeChange := { mode := mode } }
            apiId := ApiId.changeMode.toInt } := by
  rw [dispatchBody, ApiId.ofInt?_toInt]
  refine bind_eq_ok_iff.trans (exists_congr fun mode => ?_)
  rw [getInt, field, hfind]
  refine and_congr_right fun _ => ⟨fun h => (Except.ok.inj h).symm, ?_⟩
  rintro rfl
  rfl

/-- What the switch has a case for is not reported as unknown. -/
theorem dispatchBody_known {id : ApiId} (hid : id ∈ ApiId.dispatched) (body : Json K)
    (currentMode unknownApiStatus : ℤ) :
    Ensures (lib.dispatchBody body currentMode unknownApiStatus id.toInt)
      fun outcome => outcome.unknownApiId = false := by
  rw [dispatchBody, ApiId.ofInt?_toInt]
  rcases id
  case waveHand => exact absurd hid (by decide)
  case rotateHeadWithDirection => exact absurd hid (by decide)
  case move => exact .bind fun _ => .bind fun _ => .bind fun _ => .pure rfl
  case rotateHead => exact .bind fun _ => .bind fun _ => .pure rfl
  case visualKick => exact .bind fun _ => .bind fun _ => .pure rfl
  case changeMode => exact .bind fun _ => .pure rfl
  case getUpWithMode => exact .bind fun _ => .pure rfl
  all_goals exact .pure rfl

end Dispatch

variable [IsStrictOrderedRing K] [FloorRing K]

omit [IsStrictOrderedRing K] [FloorRing K] in
/-- A recognised mode is entered by some controller. -/
theorem exists_enters (lm : LoadedModel K) {named : RobotMode} (h : named.effective ≠ none) :
    ∃ (c : LocomotionController K) (d : MjData K) (m : RobotMode), named.effective = some m
      ∧ c.fsm.mode ≠ m ∧ (handleModeRequest lm c named.toInt d).fsm.mode = m := by
  obtain ⟨state, hstate⟩ := exists_state_of_effective h
  have henters : effectiveState named.toInt = some state :=
    effectiveState_eq_some_iff.mpr ⟨named, rfl, hstate⟩
  refine ⟨{ cfg := Config.ofYaml {} {}, fsm.mode := .unknown },
    ⟨0, fun _ => 0, fun _ => 0, fun _ => 0, fun _ => 0⟩, state.mode, hstate, ?_, ?_⟩
  · rcases state <;> exact nofun
  · rw [mode_handleModeRequest, henters]
    rfl

/-- **The modes entered on a number are those it names exactly when it aliases no recognised
mode.** -/
theorem entersNamed_iff (lm : LoadedModel K) (hint : StaticCasts 32 lib.getAsInt) {value : Json K}
    (hnumber : value.isNumber = true) :
    (∀ mode, lib.getAsInt value = .ok mode → ∀ (c : LocomotionController K) d m, c.fsm.mode ≠ m →
        (handleModeRequest lm c mode d).fsm.mode = m →
        ∃ named : RobotMode, value.HasValue named.toInt ∧ named.effective = some m)
      ↔ ∀ named : RobotMode, named.effective ≠ none →
        ¬ value.Aliases 32 lib.getAsInt named.toInt := by
  constructor
  · rintro h named heffective halias
    have hcast : lib.getAsInt value = .ok named.toInt :=
      hint.get_of_aliases named.inWidth_toInt halias
    obtain ⟨c, d, m, -, hne, henters⟩ := exists_enters lm heffective
    obtain ⟨other, hother, -⟩ := h named.toInt hcast c d m hne henters
    -- the number is another mode's, and is cast to that one
    have hcast' : lib.getAsInt value = .ok other.toInt :=
      hint.get_of_hasValue other.inWidth_toInt hother
    rw [Except.ok.inj (hcast'.symm.trans hcast)] at hother
    exact halias.not_hasValue named.inWidth_toInt hother
  · rintro halias mode hmode c d m hne henters
    rw [mode_handleModeRequest] at henters
    rcases hstate : effectiveState mode with - | state
    case none =>
      rw [hstate] at henters
      exact absurd henters hne
    case some =>
      rw [hstate] at henters
      obtain rfl : state.mode = m := henters
      obtain ⟨named, rfl, heffective⟩ := effectiveState_eq_some_iff.mp hstate
      refine ⟨named, ?_, heffective⟩
      refine ((hint.get_eq_ok_iff named.inWidth_toInt hnumber).mp hmode).resolve_right ?_
      exact halias named (heffective ▸ Option.some_ne_none _)

/-- **A number that names no call is reported as unknown exactly when it aliases none and the body
does not overflow.** -/
theorem reportsUnknown_iff (hdoc : lib.Documented) (hint64 : StaticCasts 64 lib.getAsInt64)
    {headerJson : Bytes} {value : Json K} (hheader : lib.Carries headerJson "api_id" value)
    (hnumber : value.isNumber = true) (hnone : ∀ id : ApiId, ¬ value.HasValue id.toInt)
    (bodyJson : Bytes) (currentMode unknownApiStatus : ℤ) :
    (∃ outcome, lib.dispatchRpc headerJson bodyJson currentMode unknownApiStatus = .ok outcome
        ∧ outcome.unknownApiId = true)
      ↔ ¬ lib.Overflows bodyJson
        ∧ ∀ id ∈ ApiId.dispatched, ¬ value.Aliases 64 lib.getAsInt64 id.toInt := by
  constructor
  · rintro ⟨outcome, houtcome, hunknown⟩
    have hkinds : lib.WellKinded headerJson bodyJson :=
      (returns_dispatchRpc_iff hdoc _ _ _ _).mp ⟨outcome, houtcome⟩
    have ⟨header, hparse, hfind⟩ := hheader
    obtain ⟨-, hfits, -⟩ := hkinds.body header value hparse hfind
    refine ⟨hfits, fun id hid halias => ?_⟩
    have hcast : lib.getAsInt64 value = .ok id.toInt :=
      hint64.get_of_aliases id.inWidth_toInt halias
    obtain ⟨body, hbody⟩ := (returns_parseOrEmpty_iff hdoc bodyJson).mpr hfits
    rw [dispatchRpc_eq_dispatchBody hheader hcast hbody] at houtcome
    exact absurd ((dispatchBody_known hid body _ _ outcome houtcome).symm.trans hunknown)
      Bool.false_ne_true
  · rintro ⟨hfits, halias⟩
    obtain ⟨body, hbody⟩ := (returns_parseOrEmpty_iff hdoc bodyJson).mpr hfits
    obtain ⟨apiId, hcast⟩ := hdoc.int64.ok value hnumber
    refine ⟨{ unknownApiId := true, status := unknownApiStatus, apiId := apiId }, ?_, rfl⟩
    rw [dispatchRpc_eq_dispatchBody hheader hcast hbody]
    refine dispatchBody_of_not_dispatched (fun id hid => ?_) body _ _
    rintro rfl
    rcases (hint64.get_eq_ok_iff id.inWidth_toInt hnumber).mp hcast with hvalue | haliased
    · exact hnone id hvalue
    · exact halias id hid haliased

/-- A CHANGE_MODE request asks for its mode as cast. -/
theorem dispatchRpc_changeMode (hint64 : StaticCasts 64 lib.getAsInt64)
    {headerJson bodyJson : Bytes} {apiId value : Json K}
    (hheader : lib.Carries headerJson "api_id" apiId)
    (hchange : apiId.HasValue ApiId.changeMode.toInt) (hbody : lib.Carries bodyJson "mode" value)
    {currentMode unknownApiStatus : ℤ} {outcome : RpcOutcome K} :
    lib.dispatchRpc headerJson bodyJson currentMode unknownApiStatus = .ok outcome
      ↔ ∃ mode, lib.getAsInt value = .ok mode
        ∧ outcome =
          { action := { kind := .modeChange, modeChange := { mode := mode } }
            apiId := ApiId.changeMode.toInt } := by
  obtain ⟨body, hparse, hfind⟩ := hbody
  rw [dispatchRpc_eq_dispatchBody hheader
    (hint64.get_of_hasValue (ApiId.inWidth_toInt _) hchange) hparse]
  exact dispatchBody_changeMode hfind

/-- **A request is taken for what its numbers name exactly when they are unaliased.** -/
theorem namesTruly_iff (hdoc : lib.Documented) (hint : StaticCasts 32 lib.getAsInt)
    (hint64 : StaticCasts 64 lib.getAsInt64) (lm : LoadedModel K) (headerJson bodyJson : Bytes)
    (currentMode unknownApiStatus : ℤ) :
    lib.NamesTruly lm headerJson bodyJson currentMode unknownApiStatus
      ↔ lib.Unaliased headerJson bodyJson := by
  constructor
  · rintro ⟨hmode, hapiId⟩
    constructor
    case mode =>
      rintro apiId value hheader hchange hbody named heffective halias
      refine (entersNamed_iff lm hint halias.isNumber).mp (fun mode hcast => ?_) named heffective
        halias
      exact hmode apiId value _ hheader hchange hbody halias.isNumber
        ((dispatchRpc_changeMode hint64 hheader hchange hbody).mpr ⟨mode, hcast, rfl⟩)
    case apiId =>
      rintro value hheader hnumber hnone
      exact (reportsUnknown_iff hdoc hint64 hheader hnumber hnone _ _ _).mp
        (hapiId value hheader hnumber hnone)
  · rintro ⟨hmode, hapiId⟩
    constructor
    case mode =>
      rintro apiId value outcome hheader hchange hbody hnumber houtcome
      obtain ⟨mode, hcast, rfl⟩ :=
        (dispatchRpc_changeMode hint64 hheader hchange hbody).mp houtcome
      exact (entersNamed_iff lm hint hnumber).mpr (hmode apiId value hheader hchange hbody) mode
        hcast
    case apiId =>
      rintro value hheader hnumber hnone
      exact (reportsUnknown_iff hdoc hint64 hheader hnumber hnone _ _ _).mpr
        (hapiId value hheader hnumber hnone)

/-! ## Numbers off by a revolution or a fraction -/

/-- The texts below and what they parse to. -/
def numberedDocuments : List (Bytes × Json ℚ) :=
  [(RpcServer.bytes "\x7b\"api_id\":2000\x7d", .object [("api_id", .integer 2000)]),
    (RpcServer.bytes "\x7b\"api_id\":2001.5\x7d", .object [("api_id", .real (4003 / 2))]),
    (RpcServer.bytes "\x7b\"mode\":2\x7d", .object [("mode", .integer 2)]),
    (RpcServer.bytes "\x7b\"mode\":4294967299\x7d", .object [("mode", .integer 4294967299)])]

/-- A library that knows these texts, and casts numbers to integers. -/
def castingLibrary : JsonLibrary ℚ :=
  { RpcServer.smallLibrary with
    parse := fun text =>
      match numberedDocuments.lookup text with
      | some value => .ok value
      | none => .error .parseError
    getAsInt64 := fun
      | .integer n => .ok (n.bmod (2 ^ 64))
      | .real x => .ok (truncate x)
      | _ => .error .typeError
    getAsInt := fun
      | .integer n => .ok (n.bmod (2 ^ 32))
      | .real x => .ok (truncate x)
      | .boolean b => .ok b.toInt
      | _ => .error .typeError }

theorem castingLibrary_documented : castingLibrary.Documented where
  parse text e h := by
    simp only [castingLibrary] at h
    split at h
    · exact nomatch h
    · exact .inl (Except.error.inj h).symm
  int64 := .of_forall (by rintro ⟨⟩ <;> simp [castingLibrary, Json.isNumber])
  int := .of_forall (by rintro ⟨⟩ <;> simp [castingLibrary, Json.isNumber, Json.isBoolean])
  double := RpcServer.smallLibrary_documented.double
  bool := RpcServer.smallLibrary_documented.bool

theorem castingLibrary_casts :
    StaticCasts 32 castingLibrary.getAsInt ∧ StaticCasts 64 castingLibrary.getAsInt64 :=
  ⟨⟨fun _ => rfl, fun _ _ => rfl⟩, ⟨fun _ => rfl, fun _ _ => rfl⟩⟩

/-- WALKING, which comes to PREPARE. -/
theorem namesTruly_walking :
    castingLibrary.NamesTruly (k1Plant 0) (RpcServer.bytes "\x7b\"api_id\":2000\x7d")
      (RpcServer.bytes "\x7b\"mode\":2\x7d") 0 7 := by
  refine (namesTruly_iff castingLibrary_documented castingLibrary_casts.1 castingLibrary_casts.2
    (k1Plant 0) _ _ 0 7).mpr ⟨?_, ?_⟩
  · rintro apiId value - - hbody named - halias
    obtain rfl := Carries.eq rfl rfl hbody
    rcases named <;> revert halias <;> simp [Json.Aliases, RobotMode.toInt]
  · rintro value hheader - hnone
    obtain rfl := Carries.eq rfl rfl hheader
    exact absurd rfl (hnone .changeMode)

/-- The mode 2³² + 3 enters CUSTOM, and the call 2001.5 is a MOVE. -/
theorem not_namesTruly :
    ¬ castingLibrary.NamesTruly (k1Plant 0) (RpcServer.bytes "\x7b\"api_id\":2000\x7d")
        (RpcServer.bytes "\x7b\"mode\":4294967299\x7d") 0 7
      ∧ ¬ castingLibrary.NamesTruly (k1Plant 0) (RpcServer.bytes "\x7b\"api_id\":2001.5\x7d")
        [] 0 7 := by
  constructor
  · intro h
    obtain ⟨named, hvalue, -⟩ := h.mode (.integer 2000) (.integer 4294967299) _
      ⟨_, rfl, rfl⟩ rfl ⟨_, rfl, rfl⟩ rfl rfl { cfg := Config.ofYaml {} {} } k1Upright .custom
      nofun rfl
    rcases named <;> exact absurd hvalue (by decide)
  · intro h
    obtain ⟨outcome, houtcome, hunknown⟩ := h.apiId (.real (4003 / 2)) ⟨_, rfl, rfl⟩ rfl
      (fun id hid => by rcases id <;> exact absurd hid (by decide +kernel))
    have hcast : castingLibrary.getAsInt64 (.real (4003 / 2)) = .ok ApiId.move.toInt :=
      congrArg Except.ok (by decide +kernel : truncate (4003 / 2 : ℚ) = 2001)
    rw [dispatchRpc_eq_dispatchBody ⟨_, rfl, rfl⟩ hcast rfl] at houtcome
    exact absurd ((dispatchBody_known (by decide) _ _ _ outcome houtcome).symm.trans hunknown)
      Bool.false_ne_true

end JsonLibrary

end K1Sim
