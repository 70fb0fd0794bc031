import Mathlib.Data.List.GetD
import Mathlib.Data.List.OfFn
import Mathlib.Data.UInt
import Mathlib.Logic.Equiv.Defs
import Mathlib.Tactic.Common

/-!
# Foundations/Packed — values laid out in memory without padding

A layout says how many bytes a value takes, what value some bytes are and which bytes a value has.
Every byte pattern is a value and every value has one byte pattern, so layouts compose: members one
behind the other, arrays, and a structure by the order of its members.
-/

namespace Foundations

/-- Memory, by address. -/
abbrev Memory := ℕ → UInt8

/-- Memory that starts with the bytes of a list. -/
def Memory.ofList (bytes : List UInt8) : Memory := fun i => bytes.getD i 0

theorem Memory.ofList_append {bytes : List UInt8} {i : ℕ} (hi : i < bytes.length)
    (tail : List UInt8) : ofList (bytes ++ tail) i = ofList bytes i := by
  rw [ofList, ofList, List.getD_append _ _ _ _ hi]

theorem Memory.ofFn_ofList {bytes : List UInt8} {n : ℕ} (hn : n ≤ bytes.length) :
    (List.ofFn fun i : Fin n => ofList bytes i) = bytes.take n := by
  refine List.ext_getElem (by simp [hn]) fun i hi _ => ?_
  have hlt : i < bytes.length := (List.length_ofFn ▸ hi).trans_le hn
  rw [List.getElem_ofFn, List.getElem_take, ofList, List.getD_eq_getElem _ _ hlt]

/-- **A packed layout**: reading a value depends on the bytes of the value alone, and reading and
laying out undo each other. -/
structure Packed (α : Type*) where
  size : ℕ
  read : Memory → ℕ → α
  byte : α → ℕ → UInt8
  read_byte : ∀ v mem adr, (∀ i < size, mem (adr + i) = byte v i) → read mem adr = v
  byte_read : ∀ mem adr, ∀ i < size, byte (read mem adr) i = mem (adr + i)

namespace Packed

variable {α β : Type*} (A : Packed α) (B : Packed β)

/-- The bytes of a value, in order. -/
def encode (v : α) : List UInt8 := List.ofFn fun i : Fin A.size => A.byte v i

@[simp] theorem length_encode (v : α) : (A.encode v).length = A.size := List.length_ofFn

/-- **Reading the encoding of a value gives the value**, whatever follows it. -/
theorem read_encode (v : α) (tail : List UInt8) :
    A.read (Memory.ofList (A.encode v ++ tail)) 0 = v := by
  refine A.read_byte _ _ _ fun i hi => ?_
  have hlt : i < (A.encode v).length := by rwa [A.length_encode]
  rw [zero_add, Memory.ofList_append hlt, Memory.ofList, List.getD_eq_getElem _ _ hlt]
  exact List.getElem_ofFn hlt

/-- **The encoding of what was read is what it was read from.** -/
theorem encode_read {bytes : List UInt8} (h : A.size ≤ bytes.length) :
    A.encode (A.read (Memory.ofList bytes) 0) = bytes.take A.size := by
  rw [← Memory.ofFn_ofList h, encode]
  congr 1
  funext i
  rw [A.byte_read _ 0 i i.isLt, zero_add]

/-! ## The layouts -/

/-- `std::uint8_t`. -/
def uint8 : Packed UInt8 where
  size := 1
  read mem adr := mem adr
  byte v _ := v
  read_byte _ _ _ h := h 0 Nat.one_pos
  byte_read mem adr i hi := by rw [Nat.lt_one_iff.mp hi, add_zero]

/-- `std::uint16_t`, the low byte first. -/
def uint16 : Packed UInt16 where
  size := 2
  read mem adr := UInt16.ofNat ((mem adr).toNat + 256 * (mem (adr + 1)).toNat)
  byte v i := UInt8.ofNat (v.toNat / 256 ^ i)
  read_byte v mem adr h := by
    have hlow : (mem adr).toNat = v.toNat % 256 := by
      rw [← add_zero adr, h 0 (by decide), UInt8.toNat_ofNat', pow_zero, Nat.div_one]
    have hhigh : (mem (adr + 1)).toNat = v.toNat / 256 % 256 := by
      rw [h 1 (by decide), UInt8.toNat_ofNat', pow_one]
    have hv := v.toNat_lt
    have hall : v.toNat % 256 + 256 * (v.toNat / 256 % 256) = v.toNat := by omega
    rw [hlow, hhigh, hall, UInt16.ofNat_toNat]
  byte_read mem adr i hi := by
    have hlow := (mem adr).toNat_lt
    have hhigh := (mem (adr + 1)).toNat_lt
    have hword : (UInt16.ofNat ((mem adr).toNat + 256 * (mem (adr + 1)).toNat)).toNat
        = (mem adr).toNat + 256 * (mem (adr + 1)).toNat := by
      rw [UInt16.toNat_ofNat']
      omega
    rw [hword]
    have hcases : i = 0 ∨ i = 1 := by omega
    rcases hcases with rfl | rfl
    · refine UInt8.toNat_inj.mp ?_
      rw [UInt8.toNat_ofNat', add_zero, pow_zero, Nat.div_one]
      omega
    · refine UInt8.toNat_inj.mp ?_
      rw [UInt8.toNat_ofNat', pow_one]
      omega

/-- One member behind the other. -/
def prod : Packed (α × β) where
  size := A.size + B.size
  read mem adr := (A.read mem adr, B.read mem (adr + A.size))
  byte v i := if i < A.size then A.byte v.1 i else B.byte v.2 (i - A.size)
  read_byte v mem adr h := by
    refine Prod.ext (A.read_byte _ _ _ fun i hi => ?_) (B.read_byte _ _ _ fun i hi => ?_)
    · rw [h i (Nat.lt_add_right _ hi), if_pos hi]
    · rw [add_assoc, h (A.size + i) (Nat.add_lt_add_left hi _),
        if_neg (Nat.not_lt_of_le (Nat.le_add_right _ _)), Nat.add_sub_cancel_left]
  byte_read mem adr i hi := by
    split_ifs with hfirst
    · exact A.byte_read mem adr i hfirst
    · have hle : A.size ≤ i := Nat.le_of_not_lt hfirst
      rw [B.byte_read mem _ _ (by omega), add_assoc, Nat.add_sub_of_le hle]

/-- `std::array`: `n` members of one layout. -/
def array (n : ℕ) : Packed (Fin n → α) where
  size := n * A.size
  read mem adr k := A.read mem (adr + k * A.size)
  byte v i := if h : i / A.size < n then A.byte (v ⟨i / A.size, h⟩) (i % A.size) else 0
  read_byte v mem adr h := by
    funext k
    refine A.read_byte _ _ _ fun i hi => ?_
    have hlt : k * A.size + i < n * A.size :=
      calc k * A.size + i < k * A.size + A.size := Nat.add_lt_add_left hi _
        _ = (k + 1) * A.size := (Nat.succ_mul _ _).symm
        _ ≤ n * A.size := Nat.mul_le_mul_right _ k.isLt
    have hdiv : (k * A.size + i) / A.size = k := by
      rw [Nat.mul_comm, Nat.mul_add_div (Nat.zero_lt_of_lt hi), Nat.div_eq_of_lt hi, add_zero]
    have hmod : (k * A.size + i) % A.size = i := by
      rw [Nat.mul_comm, Nat.mul_add_mod, Nat.mod_eq_of_lt hi]
    have hplace : (k * A.size + i) / A.size < n := hdiv.symm ▸ k.isLt
    have hk : (⟨(k * A.size + i) / A.size, hplace⟩ : Fin n) = k := Fin.ext hdiv
    rw [add_assoc, h _ hlt, dif_pos hplace, hk, hmod]
  byte_read mem adr i hi := by
    have hpos : 0 < A.size := Nat.pos_of_ne_zero fun hzero => by simp [hzero] at hi
    rw [dif_pos (Nat.div_lt_of_lt_mul (by rwa [Nat.mul_comm])),
      A.byte_read mem _ _ (Nat.mod_lt _ hpos), add_assoc, Nat.div_add_mod']

/-- A structure, by its members. -/
def ofEquiv (e : α ≃ β) : Packed β where
  size := A.size
  read mem adr := e (A.read mem adr)
  byte v := A.byte (e.symm v)
  read_byte v mem adr h := by rw [A.read_byte (e.symm v) mem adr h, e.apply_symm_apply]
  byte_read mem adr i hi := by rw [e.symm_apply_apply, A.byte_read mem adr i hi]

/-- `std::int16_t`: the same bytes, in two's complement. -/
def int16 : Packed Int16 :=
  uint16.ofEquiv ⟨Int16.ofUInt16, Int16.toUInt16, fun _ => rfl, fun _ => rfl⟩

end Packed

end Foundations
