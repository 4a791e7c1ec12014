import PlatformRte.Checksum.VitalMessage
import PlatformRte.Lib.ShiftRegister

/-! The CRC-64 as a register that takes one bit after the other. The table holds what
eight steps do to each byte. -/
namespace PlatformRte.Checksum
open Bytes ShiftRegister

def crc64Constant : Crc64Polynomial → UInt64
  | .ertms => 0x1D4F63B86E40E541
  | .iso => 0x1B
  | .xz => 0x142F0E1EBA9EA3C3

def bitStep (constant crc : UInt64) : UInt64 :=
  if crc &&& 1 = 1 then (crc >>> 1) ^^^ constant else crc >>> 1

def bitwiseByte (constant crc : UInt64) (byte : UInt8) : UInt64 := (bitStep constant)^[8] (crc ^^^ byte.toUInt64)

/- The definition the table is made from. -/
def crc64Bitwise (constant : UInt64) (data : Bytes) : UInt64 :=
  ~~~(data.foldl (bitwiseByte constant) 0xFFFFFFFFFFFFFFFF)

theorem bitStepBits (constant crc : UInt64) :
    (bitStep constant crc).toBitVec = shift constant.toBitVec crc.toBitVec := by
  have low : crc &&& 1 = 1 ↔ crc.toBitVec.getLsbD 0 = true := by
    rw [← UInt64.toBitVec_inj, UInt64.toBitVec_and]
    have one : crc.toBitVec &&& (1 : UInt64).toBitVec =
        BitVec.setWidth 64 (BitVec.ofBool (crc.toBitVec.getLsbD 0)) := BitVec.and_one_eq_setWidth_ofBool_getLsbD
    rw [one]
    cases crc.toBitVec.getLsbD 0 <;> decide
  rw [bitStep, shift]
  by_cases odd : crc.toBitVec.getLsbD 0 = true
  · rw [if_pos (low.mpr odd), if_pos odd]
    rfl
  · rw [if_neg (low.not.mpr odd), if_neg odd]
    rfl

theorem bitStepsBits (constant : UInt64) (n : Nat) (crc : UInt64) :
    ((bitStep constant)^[n] crc).toBitVec = (shift constant.toBitVec)^[n] crc.toBitVec := by
  induction n generalizing crc with
  | zero => rfl
  | succ n ih => rw [Function.iterate_succ_apply, ih, bitStepBits, Function.iterate_succ_apply]

theorem eachEntryOf {β : Type} {table : Crc64Table} {seen : UInt64 → β} {expected : Nat → β}
    (entries : table.toList.map seen = (List.range 256).map expected) (i : Fin 256) :
    seen (table.get i) = expected i := by
  have listed : i.val < table.toList.length := by simp
  have one := congrArg (fun entries => entries[i.val]?) entries
  simp only [List.getElem?_map, List.getElem?_eq_getElem listed, List.getElem?_range i.isLt, Option.map_some,
    Option.some.injEq, Vector.getElem_toList] at one
  exact one

theorem tableEntries (polynomial : Crc64Polynomial) : (crc64Table polynomial).toList.map id =
    (List.range 256).map fun i => (bitStep (crc64Constant polynomial))^[8] (UInt64.ofNat i) := by
  cases polynomial with
  | ertms => decide +kernel
  | iso => decide +kernel
  | xz => decide +kernel

theorem tableEntry (polynomial : Crc64Polynomial) (i : Fin 256) :
    (crc64Table polynomial).get i = (bitStep (crc64Constant polynomial))^[8] (UInt64.ofNat i) :=
  eachEntryOf (tableEntries polynomial) i

theorem lowByte (x : UInt64) : (x &&& 0xFF).toUInt8.toNat = x.toNat % 2 ^ 8 := by
  have mask : x.toNat &&& 255 = x.toNat % 2 ^ 8 := Nat.and_two_pow_sub_one_eq_mod x.toNat 8
  rw [UInt64.toNat_toUInt8, UInt64.toNat_and]
  change (x.toNat &&& 255) % 2 ^ 8 = x.toNat % 2 ^ 8
  rw [mask, Nat.mod_mod]

theorem bitStepsSplit (constant x : UInt64) :
    (bitStep constant)^[8] x = (x >>> 8) ^^^ (bitStep constant)^[8] (UInt64.ofNat (x &&& 0xFF).toUInt8.toNat) := by
  have small : x.toNat % 2 ^ 8 < 2 ^ 8 := Nat.mod_lt _ (by decide)
  have low : (UInt64.ofNat (x &&& 0xFF).toUInt8.toNat).toBitVec = BitVec.ofNat 64 (x.toNat % 2 ^ 8) := by
    rw [lowByte]
    rfl
  have whole := shiftsSplit constant.toBitVec 8 x.toBitVec (BitVec.ofNat 64 (x.toNat % 2 ^ 8)) ?_ ?_
  · apply UInt64.toBitVec_inj.mp
    rw [bitStepsBits, whole, UInt64.toBitVec_xor, bitStepsBits, low]
    rfl
  · intro i less
    rw [BitVec.getLsbD_ofNat, Nat.testBit_mod_two_pow]
    simp only [less, Nat.lt_trans less (by decide : 8 < 64), decide_true, Bool.true_and]
    rfl
  · apply BitVec.eq_of_toNat_eq
    rw [BitVec.toNat_ushiftRight, BitVec.toNat_ofNat, Nat.mod_eq_of_lt (Nat.lt_trans small (by decide)),
      Nat.shiftRight_eq_div_pow, Nat.div_eq_of_lt small]
    rfl

theorem tableStep (polynomial : Crc64Polynomial) (crc : UInt64) (byte : UInt8) :
    crc64Step (crc64Table polynomial) crc byte = bitwiseByte (crc64Constant polynomial) crc byte := by
  have gone : byte.toUInt64 >>> 8 = 0 := by
    apply UInt64.toNat_inj.mp
    have bound := byte.toNat_lt
    simp [Nat.shiftRight_eq_div_pow, Nat.div_eq_of_lt bound]
  rw [crc64Step, tableEntry, bitwiseByte, bitStepsSplit _ (crc ^^^ byte.toUInt64), UInt64.shiftRight_xor, gone,
    UInt64.xor_zero]

theorem tableFold (polynomial : Crc64Polynomial) (data : Bytes) (crc : UInt64) :
    data.foldl (crc64Step (crc64Table polynomial)) crc =
      data.foldl (bitwiseByte (crc64Constant polynomial)) crc := by
  induction data generalizing crc with
  | nil => rfl
  | cons byte rest ih => rw [List.foldl_cons, List.foldl_cons, tableStep, ih]

theorem crc64OfBitwise (polynomial : Crc64Polynomial) (data : Bytes) :
    crc64Of (crc64Table polynomial) data = crc64Bitwise (crc64Constant polynomial) data := by
  rw [crc64Of, crc64Bitwise, tableFold]
  apply UInt64.toBitVec_inj.mp
  rw [UInt64.toBitVec_xor, UInt64.toBitVec_not]
  exact BitVec.xor_allOnes

structure Uses (m : ChecksumManager) (polynomial : Crc64Polynomial) : Prop where
  ready : m.initialized = true
  table : m.table = some polynomial

theorem crcUses {m : ChecksumManager} {polynomial : Crc64Polynomial} (uses : Uses m polynomial) (data : Bytes) :
    (checksumCrc64 m data).2 = crc64Bitwise (crc64Constant polynomial) data := by
  simp only [checksumCrc64, uses.ready, uses.table, if_true]
  exact crc64OfBitwise polynomial data

theorem tableCrcIsBitwise {m : ChecksumManager} {polynomial : Crc64Polynomial} (uses : Uses m polynomial)
    (data : Bytes) : (checksumCrc64 m data).2 = crc64Bitwise (crc64Constant polynomial) data :=
  crcUses uses data

def ertmsManager : ChecksumManager := (checksumCrc64Init checksumManager .ertms).1

theorem ertmsCrcIsBitwise : (checksumCrc64 ertmsManager [0x31, 0x32]).2 =
    crc64Bitwise (crc64Constant .ertms) [0x31, 0x32] := by
  have uses : Uses ertmsManager .ertms := ⟨rfl, rfl⟩
  exact tableCrcIsBitwise uses [0x31, 0x32]

end PlatformRte.Checksum
