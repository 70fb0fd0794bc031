import K1Sim.Foundations.Packed
import K1Sim.Supervisor.GameControllerPacket
import Mathlib.Data.Fin.VecNotation
import Mathlib.Tactic.FinCases

/-!
# Supervisor/WireFormat — the bytes of a GameController packet

The structs are packed, so the wire format is the order of their members.  `tryParse` copies a
payload into one and looks at its header and version; `tryParse_wireFormat` says which payloads it
accepts and where on the wire each field is.
-/

namespace K1Sim

namespace Gc

open Foundations

/-- `RECEIVE_HEADER`. -/
def receiveHeader : Fin 4 → UInt8 := !['R'.toUInt8, 'G'.toUInt8, 'm'.toUInt8, 'e'.toUInt8]

/-- `SUPPORTED_VERSION`. -/
def supportedVersion : UInt8 := 20

/-- A packet as memory holds it: `first_half` is true of every raw byte but zero. -/
structure WirePacket where
  packet : GameControllerPacket
  firstHalfByte : UInt8
  firstHalf_eq : packet.firstHalf = (firstHalfByte != 0)

/-! ## The layouts, member by member -/

/-- The layout of `PenaltyState`. -/
def penaltyStateLayout : Packed PenaltyState :=
  Packed.uint8.ofEquiv ⟨PenaltyState.mk, PenaltyState.val, fun _ => rfl, fun _ => rfl⟩

/-- The layout of `State`. -/
def stateLayout : Packed State :=
  Packed.uint8.ofEquiv ⟨State.mk, State.val, fun _ => rfl, fun _ => rfl⟩

/-- The layout of `Robot`. -/
def robotLayout : Packed Robot :=
  (penaltyStateLayout.prod <| Packed.uint8.prod Packed.uint8).ofEquiv
    { toFun := fun (penaltyState, penalisedTimeLeft, cautions) =>
        { penaltyState, penalisedTimeLeft, cautions }
      invFun := fun r => (r.penaltyState, r.penalisedTimeLeft, r.cautions)
      left_inv := fun _ => rfl
      right_inv := fun _ => rfl }

/-- The layout of `Team`. -/
def teamLayout : Packed Team :=
  (Packed.uint8.prod <| Packed.uint8.prod <| Packed.uint8.prod <| Packed.uint8.prod <|
    Packed.uint8.prod <| Packed.uint8.prod <| Packed.uint16.prod <| Packed.uint16.prod <|
    robotLayout.array maxNumPlayers).ofEquiv
    { toFun := fun (teamId, fieldPlayerColour, goalkeeperColour, goalkeeper, score, penaltyShot,
          singleShots, messageBudget, players) =>
        { teamId, fieldPlayerColour, goalkeeperColour, goalkeeper, score, penaltyShot, singleShots
          messageBudget, players }
      invFun := fun t => (t.teamId, t.fieldPlayerColour, t.goalkeeperColour, t.goalkeeper, t.score,
        t.penaltyShot, t.singleShots, t.messageBudget, t.players)
      left_inv := fun _ => rfl
      right_inv := fun _ => rfl }

/-- The layout of `GameControllerPacket`. -/
def packetLayout : Packed WirePacket :=
  ((Packed.uint8.array 4).prod <| Packed.uint8.prod <| Packed.uint8.prod <| Packed.uint8.prod <|
    Packed.uint8.prod <| Packed.uint8.prod <| Packed.uint8.prod <| stateLayout.prod <|
    Packed.uint8.prod <| Packed.uint8.prod <| Packed.uint8.prod <| Packed.int16.prod <|
    Packed.int16.prod <| teamLayout.array 2).ofEquiv
    { toFun := fun (header, version, packetNumber, playersPerTeam, competitionType, stopped,
          gamePhase, state, setPlay, firstHalf, kickingTeam, secsRemaining, secondaryTime, teams) =>
        { packet :=
            { header, version, packetNumber, playersPerTeam, competitionType, stopped, gamePhase
              state, setPlay, firstHalf := firstHalf != 0, kickingTeam, secsRemaining
              secondaryTime, teams }
          firstHalfByte := firstHalf
          firstHalf_eq := rfl }
      invFun := fun ⟨p, firstHalf, _⟩ => (p.header, p.version, p.packetNumber, p.playersPerTeam,
        p.competitionType, p.stopped, p.gamePhase, p.state, p.setPlay, firstHalf, p.kickingTeam,
        p.secsRemaining, p.secondaryTime, p.teams)
      left_inv := fun _ => rfl
      right_inv := by
        rintro ⟨p, firstHalf, heq⟩
        cases p
        cases heq
        rfl }

/-- `sizeof(GameControllerPacket)`. -/
theorem packetLayout_size : packetLayout.size = 158 := rfl

/-! ## Parsing -/

/-- `try_parse`, of a payload or a null pointer: whether it was a packet, and `out` afterwards. -/
def tryParse (data : Option (List UInt8)) (out : WirePacket) : Bool × WirePacket :=
  match data with
  | none => (false, out)
  | some bytes =>
    if bytes.length < packetLayout.size then (false, out)
    else
      let p := packetLayout.read (Memory.ofList bytes) 0
      if p.packet.header ≠ receiveHeader ∨ p.packet.version ≠ supportedVersion then (false, out)
      else (true, p)

/-! ## The offsets -/

/-- The sixteen bits at an address, the low byte first. -/
def word (mem : Memory) (adr : ℕ) : ℕ := (mem adr).toNat + 256 * (mem (adr + 1)).toNat

/-- The robot at an address. -/
structure Robot.At (mem : Memory) (adr : ℕ) (r : Robot) : Prop where
  penaltyState : r.penaltyState = ⟨mem adr⟩
  penalisedTimeLeft : r.penalisedTimeLeft = mem (adr + 1)
  cautions : r.cautions = mem (adr + 2)

/-- The team at an address. -/
structure Team.At (mem : Memory) (adr : ℕ) (t : Team) : Prop where
  teamId : t.teamId = mem adr
  fieldPlayerColour : t.fieldPlayerColour = mem (adr + 1)
  goalkeeperColour : t.goalkeeperColour = mem (adr + 2)
  goalkeeper : t.goalkeeper = mem (adr + 3)
  score : t.score = mem (adr + 4)
  penaltyShot : t.penaltyShot = mem (adr + 5)
  singleShots : t.singleShots.toNat = word mem (adr + 6)
  messageBudget : t.messageBudget.toNat = word mem (adr + 8)
  players : ∀ k, (t.players k).At mem (adr + 10 + 3 * k)

/-- The packet at the start of a payload; signed fields are in two's complement. -/
structure WirePacket.At (mem : Memory) (p : WirePacket) : Prop where
  header : ∀ i, p.packet.header i = mem i
  version : p.packet.version = mem 4
  packetNumber : p.packet.packetNumber = mem 5
  playersPerTeam : p.packet.playersPerTeam = mem 6
  competitionType : p.packet.competitionType = mem 7
  stopped : p.packet.stopped = mem 8
  gamePhase : p.packet.gamePhase = mem 9
  state : p.packet.state = ⟨mem 10⟩
  setPlay : p.packet.setPlay = mem 11
  firstHalf : p.firstHalfByte = mem 12
  kickingTeam : p.packet.kickingTeam = mem 13
  secsRemaining : p.packet.secsRemaining.toInt = (word mem 14 : ℤ).bmod (2 ^ 16)
  secondaryTime : p.packet.secondaryTime.toInt = (word mem 16 : ℤ).bmod (2 ^ 16)
  teams : ∀ k, (p.packet.teams k).At mem (18 + 70 * k)

theorem word_lt (mem : Memory) (adr : ℕ) : word mem adr < 2 ^ 16 := by
  have hlow := (mem adr).toNat_lt
  have hhigh := (mem (adr + 1)).toNat_lt
  rw [word]
  omega

theorem toNat_read_uint16 (mem : Memory) (adr : ℕ) :
    (Packed.uint16.read mem adr).toNat = word mem adr :=
  UInt16.toNat_ofNat_of_lt' (word_lt mem adr)

theorem toInt_read_int16 (mem : Memory) (adr : ℕ) :
    (Packed.int16.read mem adr).toInt = (word mem adr : ℤ).bmod (2 ^ 16) := by
  rw [← toNat_read_uint16]
  exact BitVec.toInt_eq_toNat_bmod (Packed.uint16.read mem adr).toBitVec

theorem at_read_robotLayout (mem : Memory) (adr : ℕ) : (robotLayout.read mem adr).At mem adr :=
  ⟨rfl, rfl, rfl⟩

theorem at_read_teamLayout (mem : Memory) (adr : ℕ) : (teamLayout.read mem adr).At mem adr where
  teamId := rfl
  fieldPlayerColour := rfl
  goalkeeperColour := rfl
  goalkeeper := rfl
  score := rfl
  penaltyShot := rfl
  singleShots := toNat_read_uint16 mem (adr + 6)
  messageBudget := toNat_read_uint16 mem (adr + 8)
  players k := by
    rw [Nat.mul_comm 3]
    exact at_read_robotLayout mem (adr + 10 + k * 3)

/-- **Every field is read at its offset.** -/
theorem at_read_packetLayout (mem : Memory) : (packetLayout.read mem 0).At mem where
  header i := by
    have hmember : (packetLayout.read mem 0).packet.header i = mem (0 + i * 1) := rfl
    rw [hmember, zero_add, mul_one]
  version := rfl
  packetNumber := rfl
  playersPerTeam := rfl
  competitionType := rfl
  stopped := rfl
  gamePhase := rfl
  state := rfl
  setPlay := rfl
  firstHalf := rfl
  kickingTeam := rfl
  secsRemaining := toInt_read_int16 mem 14
  secondaryTime := toInt_read_int16 mem 16
  teams k := by
    rw [Nat.mul_comm 70]
    exact at_read_teamLayout mem (18 + k * 70)

/-! ## The wire format -/

/-- A packet of the GameController: long enough, and of the header and version we speak. -/
def IsPacket (bytes : List UInt8) : Prop :=
  158 ≤ bytes.length ∧ bytes.take 4 = ['R'.toUInt8, 'G'.toUInt8, 'm'.toUInt8, 'e'.toUInt8]
    ∧ bytes[4]? = some 20

instance (bytes : List UInt8) : Decidable (IsPacket bytes) :=
  inferInstanceAs (Decidable (_ ∧ _ ∧ _))

theorem header_eq_iff {bytes : List UInt8} (h : 158 ≤ bytes.length) :
    (packetLayout.read (Memory.ofList bytes) 0).packet.header = receiveHeader
      ↔ bytes.take 4 = ['R'.toUInt8, 'G'.toUInt8, 'm'.toUInt8, 'e'.toUInt8] := by
  have hheader : (packetLayout.read (Memory.ofList bytes) 0).packet.header
      = fun i : Fin 4 => Memory.ofList bytes i := funext (at_read_packetLayout _).header
  rw [hheader, ← Memory.ofFn_ofList (le_trans (by decide) h)]
  exact List.ofFn_inj.symm

theorem version_eq_iff {bytes : List UInt8} (h : 158 ≤ bytes.length) :
    (packetLayout.read (Memory.ofList bytes) 0).packet.version = supportedVersion
      ↔ bytes[4]? = some 20 := by
  have hlt : 4 < bytes.length := lt_of_lt_of_le (by decide) h
  rw [(at_read_packetLayout _).version, Memory.ofList, List.getD_eq_getElem _ _ hlt,
    List.getElem?_eq_getElem hlt, Option.some_inj]
  rfl

/-- **A payload is parsed exactly when it is a packet.** -/
theorem tryParse_eq (bytes : List UInt8) (out : WirePacket) :
    tryParse (some bytes) out = if IsPacket bytes then
      (true, packetLayout.read (Memory.ofList bytes) 0) else (false, out) := by
  rw [tryParse]
  dsimp only
  rcases Nat.lt_or_ge bytes.length 158 with hshort | hlong
  · rw [if_pos (show bytes.length < packetLayout.size from hshort),
      if_neg fun h => Nat.not_lt_of_le h.1 hshort]
  rw [if_neg (show ¬ bytes.length < packetLayout.size from Nat.not_lt_of_le hlong)]
  by_cases hpacket : IsPacket bytes
  · rw [if_pos hpacket, if_neg]
    exact not_or.mpr ⟨not_not_intro ((header_eq_iff hlong).mpr hpacket.2.1),
      not_not_intro ((version_eq_iff hlong).mpr hpacket.2.2)⟩
  · rw [if_neg hpacket, if_pos]
    rw [ne_eq, ne_eq, header_eq_iff hlong, version_eq_iff hlong, ← not_and_or]
    exact fun h => hpacket ⟨hlong, h⟩

theorem isPacket_encode {p : WirePacket} (hheader : p.packet.header = receiveHeader)
    (hversion : p.packet.version = supportedVersion) (tail : List UInt8) :
    IsPacket (packetLayout.encode p ++ tail) := by
  have hlong : 158 ≤ (packetLayout.encode p ++ tail).length := by
    rw [List.length_append, packetLayout.length_encode]
    exact Nat.le_add_right _ _
  refine ⟨hlong, (header_eq_iff hlong).mp ?_, (version_eq_iff hlong).mp ?_⟩
  · rw [packetLayout.read_encode]
    exact hheader
  · rw [packetLayout.read_encode]
    exact hversion

/-- **The wire format**: which payloads are accepted, that a rejection leaves `out` alone, where
each field of an accepted packet is, that nothing behind it has any influence, and that parsing and
encoding undo each other. -/
theorem tryParse_wireFormat (bytes : List UInt8) (out : WirePacket) :
    ((tryParse (some bytes) out).1 = true ↔ IsPacket bytes)
      ∧ ((tryParse (some bytes) out).1 = false → (tryParse (some bytes) out).2 = out)
      ∧ ((tryParse (some bytes) out).1 = true →
        (tryParse (some bytes) out).2.At (Memory.ofList bytes)
        ∧ packetLayout.encode (tryParse (some bytes) out).2 = bytes.take 158
        ∧ ∀ tail, tryParse (some (bytes.take 158 ++ tail)) out = tryParse (some bytes) out)
      ∧ ∀ p : WirePacket, p.packet.header = receiveHeader → p.packet.version = supportedVersion →
        tryParse (some (packetLayout.encode p)) out = (true, p) := by
  have hparsed (p : WirePacket) (hheader : p.packet.header = receiveHeader)
      (hversion : p.packet.version = supportedVersion) (tail : List UInt8) :
      tryParse (some (packetLayout.encode p ++ tail)) out = (true, p) := by
    rw [tryParse_eq, if_pos (isPacket_encode hheader hversion tail), packetLayout.read_encode]
  rw [tryParse_eq]
  refine ⟨?_, ?_, fun haccepted => ?_, fun p hheader hversion => ?_⟩
  · split_ifs with hpacket <;> simp [hpacket]
  · split_ifs <;> simp
  · by_cases hpacket : IsPacket bytes
    case neg => simp [if_neg hpacket] at haccepted
    have hlong := hpacket.1
    rw [if_pos hpacket]
    refine ⟨at_read_packetLayout _, packetLayout.encode_read hlong, fun tail => ?_⟩
    rw [← packetLayout_size, ← packetLayout.encode_read hlong]
    exact hparsed _ ((header_eq_iff hlong).mpr hpacket.2.1)
      ((version_eq_iff hlong).mpr hpacket.2.2) tail
  · rw [← List.append_nil (packetLayout.encode p)]
    exact hparsed p hheader hversion []

end Gc

end K1Sim
