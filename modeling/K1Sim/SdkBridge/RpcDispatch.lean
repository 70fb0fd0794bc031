import K1Sim.SdkBridge.JsonLibrary
import K1Sim.Shared.BoosterApi

/-!
# SdkBridge/RpcDispatch — from a request to what to do about it

`dispatchRpc` parses the header and the body of a request and reads the fields its `api_id` asks
for.  It promises to return whatever the two strings hold; `returns_dispatchRpc_iff` says for which
strings it does.
-/

namespace K1Sim

open Foundations

/-- `RpcActionKind`. -/
inductive RpcActionKind where
  | none | modeChange | walk | head | getUp | lieDown | visualKick
  deriving DecidableEq, Repr

/-- `RpcAction`: the payload meant is the one `kind` names. -/
structure RpcAction (K : Type) [Zero K] where
  kind : RpcActionKind := .none
  modeChange : ModeChangeRequest := {}
  walk : WalkCommand K := ⟨0, 0, 0⟩
  head : HeadCommand K := ⟨0, 0⟩
  getUp : GetUpRequest := {}
  lieDown : LieDownRequest := {}
  visualKick : VisualKickRequest := {}

/-- `RpcOutcome`. -/
structure RpcOutcome (K : Type) [Zero K] where
  action : RpcAction K := {}
  status : ℤ := 0
  responseBody : Bytes := "{}".toUTF8.data.toList
  unknownApiId : Bool := false
  apiId : ℤ := 0

/-- The identifier a wire value names. -/
def ApiId.ofInt? : ℤ → Option ApiId
  | 2000 => some .changeMode
  | 2001 => some .move
  | 2004 => some .rotateHead
  | 2005 => some .waveHand
  | 2006 => some .rotateHeadWithDirection
  | 2007 => some .lieDown
  | 2008 => some .getUp
  | 2017 => some .getMode
  | 2025 => some .getUpWithMode
  | 2038 => some .visualKick
  | _ => none

@[simp] theorem ApiId.ofInt?_toInt (id : ApiId) : ofInt? id.toInt = some id := by
  rcases id <;> rfl

theorem ApiId.toInt_of_ofInt? {n : ℤ} {id : ApiId} (h : ofInt? n = some id) : id.toInt = n := by
  unfold ofInt? at h
  split at h
  any_goals
    obtain rfl := Option.some.inj h
    rfl
  exact nomatch h

/-- The identifiers that `dispatch_rpc` has a case for. -/
def ApiId.dispatched : List ApiId :=
  [.changeMode, .move, .rotateHead, .lieDown, .getUp, .getUpWithMode, .visualKick, .getMode]

namespace JsonLibrary

variable {K : Type}

/-- `std::isspace` in the C locale. -/
def isSpace (c : UInt8) : Bool := c == 32 || (9 ≤ c && c ≤ 13)

/-- `parse_or_empty`. -/
def parseOrEmpty (lib : JsonLibrary K) (text : Bytes) : Except JsonException (Json K) :=
  if text.all isSpace then .ok (.object [])
  else
    match lib.parse text with
    | .error .parseError => .ok (.object [])
    | result => result

/-- A field of the body, converted, or its fallback. -/
def field {α : Type*} (get : Json K → Except JsonException α) (body : Json K) (key : String)
    (fallback : α) : Except JsonException α :=
  match body.find? key with
  | some value => get value
  | none => pure fallback

variable (lib : JsonLibrary K)

/-- `get_double`. -/
def getDouble [Zero K] (body : Json K) (key : String) : Except JsonException K :=
  field lib.getAsDouble body key 0

/-- `get_int`. -/
def getInt (body : Json K) (key : String) (fallback : ℤ) : Except JsonException ℤ :=
  field lib.getAsInt body key fallback

/-- `get_bool`. -/
def getBool (body : Json K) (key : String) (fallback : Bool) : Except JsonException Bool :=
  field lib.getAsBool body key fallback

variable [Zero K]

/-- The switch on `api_id`. -/
def dispatchBody (body : Json K) (currentMode unknownApiStatus apiId : ℤ) :
    Except JsonException (RpcOutcome K) :=
  match ApiId.ofInt? apiId with
  | some .changeMode => do
    let mode ← lib.getInt body "mode" RobotMode.unknown.toInt
    pure { action := { kind := .modeChange, modeChange := { mode := mode } }, apiId := apiId }
  | some .move => do
    let vx ← lib.getDouble body "vx"
    let vy ← lib.getDouble body "vy"
    let vyaw ← lib.getDouble body "vyaw"
    pure { action := { kind := .walk, walk := ⟨vx, vy, vyaw⟩ }, apiId := apiId }
  | some .rotateHead => do
    let pitch ← lib.getDouble body "pitch"
    let yaw ← lib.getDouble body "yaw"
    pure { action := { kind := .head, head := ⟨pitch, yaw⟩ }, apiId := apiId }
  | some .lieDown => pure { action := { kind := .lieDown }, apiId := apiId }
  | some .getUp => pure { action := { kind := .getUp }, apiId := apiId }
  | some .getUpWithMode => do
    let mode ← lib.getInt body "mode" ({} : GetUpRequest).targetMode
    pure { action := { kind := .getUp, getUp := { targetMode := mode } }, apiId := apiId }
  | some .visualKick => do
    let start ← lib.getBool body "start" ({} : VisualKickRequest).start
    let version ← lib.getInt body "version" ({} : VisualKickRequest).version
    pure { action := { kind := .visualKick, visualKick := { start := start, version := version } }
           apiId := apiId }
  | some .getMode =>
    pure { responseBody := lib.dump (.object [("mode", .integer currentMode)]), apiId := apiId }
  | some .waveHand | some .rotateHeadWithDirection | none =>
    pure { unknownApiId := true, status := unknownApiStatus, apiId := apiId }

/-- `dispatch_rpc`. -/
def dispatchRpc (headerJson bodyJson : Bytes) (currentMode unknownApiStatus : ℤ) :
    Except JsonException (RpcOutcome K) := do
  let header ← lib.parseOrEmpty headerJson
  match header.find? "api_id" with
  | none => pure { unknownApiId := true, status := unknownApiStatus }
  | some value =>
    let apiId ← lib.getAsInt64 value
    -- the body is parsed whether or not the switch reads a field of it
    let body ← lib.parseOrEmpty bodyJson
    lib.dispatchBody body currentMode unknownApiStatus apiId

/-! ## Requests of the right kinds -/

/-- The type a field of the body is read at. -/
inductive FieldType where
  | double | int | bool
  deriving DecidableEq, Repr

omit [Zero K] in
/-- The kinds of value a type takes. -/
def FieldType.kinds : FieldType → Json K → Bool
  | .double, value => value.isNumber
  | .int, value => value.isNumber || value.isBoolean
  | .bool, value => value.isBoolean

/-- The fields of the body that a call reads. -/
def bodyFields : Option ApiId → List (String × FieldType)
  | some .changeMode | some .getUpWithMode => [("mode", .int)]
  | some .move => [("vx", .double), ("vy", .double), ("vyaw", .double)]
  | some .rotateHead => [("pitch", .double), ("yaw", .double)]
  | some .visualKick => [("start", .bool), ("version", .int)]
  | _ => []

omit [Zero K] in
/-- The field is missing, or of a kind its type takes. -/
def FieldFits (body : Json K) (field : String × FieldType) : Prop :=
  ∀ value, body.find? field.1 = some value → field.2.kinds value = true

omit [Zero K] in
/-- The text holds a number too large for a double. -/
def Overflows (text : Bytes) : Prop :=
  text.all isSpace = false ∧ lib.parse text = .error .outOfRange

omit [Zero K] in
/-- Neither text overflows, `api_id` is a number, and each field that the call reads fits.  Without
an `api_id` nothing is asked of the body. -/
structure WellKinded (headerJson bodyJson : Bytes) : Prop where
  header : ¬ lib.Overflows headerJson
  body : ∀ header value, lib.parseOrEmpty headerJson = .ok header →
    header.find? "api_id" = some value →
      value.isNumber = true ∧ ¬ lib.Overflows bodyJson
        ∧ ∀ apiId body, lib.getAsInt64 value = .ok apiId → lib.parseOrEmpty bodyJson = .ok body →
          ∀ field ∈ bodyFields (ApiId.ofInt? apiId), FieldFits body field

variable {lib}

omit [Zero K] in
theorem returns_parseOrEmpty_iff (hdoc : lib.Documented) (text : Bytes) :
    Returns (lib.parseOrEmpty text) ↔ ¬ lib.Overflows text := by
  rw [parseOrEmpty, Overflows]
  split_ifs with hblank
  · simp [hblank]
  · rcases hparse : lib.parse text with e | value
    · rcases hdoc.parse text e hparse with rfl | rfl
      · simp
      · simp [hblank]
    · simp

omit [Zero K] in
theorem returns_field_iff {α : Type*} {get : Json K → Except JsonException α}
    {kinds : Json K → Bool} (hget : Converts get kinds) (body : Json K) (key : String)
    (fallback : α) :
    Returns (field get body key fallback)
      ↔ ∀ value, body.find? key = some value → kinds value = true := by
  rw [field]
  rcases body.find? key with - | value
  · simp
  · simp [hget.returns_iff]

theorem returns_dispatchBody_iff (hdoc : lib.Documented) (body : Json K)
    (currentMode unknownApiStatus apiId : ℤ) :
    Returns (lib.dispatchBody body currentMode unknownApiStatus apiId)
      ↔ ∀ field ∈ bodyFields (ApiId.ofInt? apiId), FieldFits body field := by
  have hint (key : String) (fallback : ℤ) :
      Returns (lib.getInt body key fallback) ↔ FieldFits body (key, .int) :=
    returns_field_iff hdoc.int body key fallback
  have hdouble (key : String) : Returns (lib.getDouble body key) ↔ FieldFits body (key, .double) :=
    returns_field_iff hdoc.double body key 0
  have hbool (key : String) (fallback : Bool) :
      Returns (lib.getBool body key fallback) ↔ FieldFits body (key, .bool) :=
    returns_field_iff hdoc.bool body key fallback
  rw [dispatchBody]
  rcases ApiId.ofInt? apiId with - | id
  · simp [bodyFields]
  · rcases id <;> simp [bodyFields, returns_bind_iff, hint, hdouble, hbool]

/-- **A request is dispatched without an exception exactly when it is of the right kinds.** -/
theorem returns_dispatchRpc_iff (hdoc : lib.Documented) (headerJson bodyJson : Bytes)
    (currentMode unknownApiStatus : ℤ) :
    Returns (lib.dispatchRpc headerJson bodyJson currentMode unknownApiStatus)
      ↔ lib.WellKinded headerJson bodyJson := by
  rw [dispatchRpc, returns_bind_iff]
  constructor
  · rintro ⟨header, hheader, hrest⟩
    refine ⟨(returns_parseOrEmpty_iff hdoc headerJson).mp ⟨header, hheader⟩, ?_⟩
    rintro header' value hheader' hvalue
    obtain rfl := Except.ok.inj (hheader'.symm.trans hheader)
    rw [hvalue] at hrest
    obtain ⟨apiId, hapiId, hrest⟩ := returns_bind_iff.mp hrest
    obtain ⟨body, hbody, hrest⟩ := returns_bind_iff.mp hrest
    refine ⟨(hdoc.int64.returns_iff value).mp ⟨apiId, hapiId⟩,
      (returns_parseOrEmpty_iff hdoc bodyJson).mp ⟨body, hbody⟩, ?_⟩
    rintro apiId' body' hapiId' hbody'
    obtain rfl := Except.ok.inj (hapiId'.symm.trans hapiId)
    obtain rfl := Except.ok.inj (hbody'.symm.trans hbody)
    exact (returns_dispatchBody_iff hdoc _ _ _ _).mp hrest
  · rintro ⟨hheader, hbody⟩
    obtain ⟨header, hheader⟩ := (returns_parseOrEmpty_iff hdoc headerJson).mpr hheader
    refine ⟨header, hheader, ?_⟩
    rcases hvalue : header.find? "api_id" with - | value
    · exact returns_pure _
    obtain ⟨hnumber, hfits, hfields⟩ := hbody header value hheader hvalue
    obtain ⟨apiId, hapiId⟩ := hdoc.int64.ok value hnumber
    obtain ⟨body, hbody⟩ := (returns_parseOrEmpty_iff hdoc bodyJson).mpr hfits
    refine returns_bind_iff.mpr ⟨apiId, hapiId, returns_bind_iff.mpr ⟨body, hbody, ?_⟩⟩
    exact (returns_dispatchBody_iff hdoc _ _ _ _).mpr (hfields apiId body hapiId hbody)

/-! ## Unrecognised requests -/

variable (lib) in
omit [Zero K] in
/-- The header is malformed, or its `api_id` is missing or one that the switch has no case for. -/
def Unrecognised (headerJson : Bytes) : Prop :=
  lib.parse headerJson = .error .parseError
    ∨ ∃ header, lib.parseOrEmpty headerJson = .ok header ∧ (header.find? "api_id" = none
      ∨ ∃ value apiId, header.find? "api_id" = some value ∧ lib.getAsInt64 value = .ok apiId
        ∧ ∀ id ∈ ApiId.dispatched, apiId ≠ id.toInt)

omit [Zero K] in
theorem parseOrEmpty_of_parseError {text : Bytes} (h : lib.parse text = .error .parseError) :
    lib.parseOrEmpty text = .ok (.object []) := by
  rw [parseOrEmpty]
  split_ifs
  · rfl
  · rw [h]

/-- What the switch makes of an identifier it has no case for. -/
theorem dispatchBody_of_not_dispatched {apiId : ℤ}
    (h : ∀ id ∈ ApiId.dispatched, apiId ≠ id.toInt) (body : Json K)
    (currentMode unknownApiStatus : ℤ) :
    lib.dispatchBody body currentMode unknownApiStatus apiId
      = .ok { unknownApiId := true, status := unknownApiStatus, apiId := apiId } := by
  rw [dispatchBody]
  rcases hid : ApiId.ofInt? apiId with - | id
  · rfl
  · have hne : id ∉ ApiId.dispatched := fun hmem => h id hmem (ApiId.toInt_of_ofInt? hid).symm
    rcases id
    case waveHand => rfl
    case rotateHeadWithDirection => rfl
    all_goals exact absurd hne (by decide)

/-- **An unrecognised request that is dispatched without an exception is reported as unknown**, with
the configured status and no action. -/
theorem reports_of_unrecognised {headerJson bodyJson : Bytes} {currentMode unknownApiStatus : ℤ}
    (h : lib.Unrecognised headerJson) {outcome : RpcOutcome K}
    (houtcome : lib.dispatchRpc headerJson bodyJson currentMode unknownApiStatus = .ok outcome) :
    outcome.unknownApiId = true ∧ outcome.status = unknownApiStatus
      ∧ outcome.action.kind = .none := by
  -- a malformed header reads as one without an `api_id`
  obtain ⟨header, hheader, hunknown⟩ : ∃ header, lib.parseOrEmpty headerJson = .ok header
      ∧ (header.find? "api_id" = none ∨ ∃ value apiId, header.find? "api_id" = some value
        ∧ lib.getAsInt64 value = .ok apiId ∧ ∀ id ∈ ApiId.dispatched, apiId ≠ id.toInt) := by
    rcases h with hmalformed | h
    · exact ⟨_, parseOrEmpty_of_parseError hmalformed, .inl rfl⟩
    · exact h
  obtain ⟨header', hheader', hrest⟩ := bind_eq_ok_iff.mp houtcome
  obtain rfl := Except.ok.inj (hheader.symm.trans hheader')
  rcases hunknown with hnone | ⟨value, apiId, hvalue, hapiId, hcase⟩
  · rw [hnone] at hrest
    obtain rfl := Except.ok.inj hrest
    exact ⟨rfl, rfl, rfl⟩
  · rw [hvalue] at hrest
    obtain ⟨apiId', hapiId', hrest⟩ := bind_eq_ok_iff.mp hrest
    obtain rfl := Except.ok.inj (hapiId.symm.trans hapiId')
    obtain ⟨body, -, hrest⟩ := bind_eq_ok_iff.mp hrest
    rw [dispatchBody_of_not_dispatched hcase] at hrest
    obtain rfl := Except.ok.inj hrest
    exact ⟨rfl, rfl, rfl⟩

end JsonLibrary

end K1Sim
