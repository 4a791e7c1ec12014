import PlatformRte.Checksum.Bitwise

/-! What the CRC makes of two byte strings that differ in a pattern of bits: they get
the same checksum if and only if the register loses the pattern. -/
namespace PlatformRte.Checksum
open Bytes ShiftRegister

structure Corrupted (data data' : Bytes) (offset : Nat) (pattern : UInt64) : Prop where
  length : data'.length = data.length
  differs : ∀ n, bitAt data' n = (bitAt data n ^^ (decide (offset ≤ n) && pattern.toNat.testBit (n - offset)))

theorem bitwiseByteBits (constant crc : UInt64) (byte : UInt8) :
    (bitwiseByte constant crc byte).toBitVec = feedAll constant.toBitVec crc.toBitVec (bitsOf 8 byte.toNat) := by
  have wide : byte.toNat < 2 ^ 64 := lt_trans byte.toNat_lt (by decide)
  have value : byte.toUInt64.toBitVec = BitVec.ofNat 64 byte.toNat := by
    apply BitVec.eq_of_toNat_eq
    rw [BitVec.toNat_ofNat, Nat.mod_eq_of_lt wide]
    exact UInt8.toNat_toUInt64 byte
  rw [bitwiseByte, bitStepsBits, feedBits _ 8 _ _ byte.toNat_lt wide, UInt64.toBitVec_xor, value]

theorem bitwiseFold (constant crc : UInt64) (data : Bytes) :
    (data.foldl (bitwiseByte constant) crc).toBitVec =
      feedAll constant.toBitVec crc.toBitVec (bitsOf (8 * data.length) (leValue data)) := by
  induction data generalizing crc with
  | nil => rfl
  | cons byte rest ih =>
    have parts := bitsAppend 8 (8 * rest.length) byte.toNat (leValue rest) byte.toNat_lt
    have size : 8 * (byte :: rest).length = 8 + 8 * rest.length := by
      rw [List.length_cons]
      omega
    rw [List.foldl_cons, ih, bitwiseByteBits, ← feedAppend, size, leValue]
    exact congrArg (feedAll _ _) parts.symm

theorem sameCrcIff (constant : UInt64) {data data' : Bytes} (length : data'.length = data.length) :
    crc64Bitwise constant data' = crc64Bitwise constant data ↔
      feedAll constant.toBitVec 0#64 (bitsOf (8 * data.length) (leValue data' ^^^ leValue data)) = 0#64 := by
  have apart := feedAllXor constant.toBitVec (0xFFFFFFFFFFFFFFFF : UInt64).toBitVec (0xFFFFFFFFFFFFFFFF : UInt64).toBitVec
    (bitsOf (8 * data.length) (leValue data')) (bitsOf (8 * data.length) (leValue data)) (by simp)
  rw [BitVec.xor_self, ← bitsXor, ← bitwiseFold, ← length, ← bitwiseFold] at apart
  rw [← length, apart, BitVec.xor_eq_zero_iff, crc64Bitwise, crc64Bitwise, ← UInt64.toBitVec_inj]
  simp

theorem corruptedValue {data data' : Bytes} {offset : Nat} {pattern : UInt64}
    (corrupted : Corrupted data data' offset pattern) :
    leValue data' ^^^ leValue data = 2 ^ offset * pattern.toNat := by
  apply Nat.eq_of_testBit_eq
  intro n
  rw [Nat.testBit_xor, leValueTestBit, leValueTestBit, corrupted.differs, Nat.testBit_two_pow_mul]
  cases bitAt data n <;> cases decide (offset ≤ n) && pattern.toNat.testBit (n - offset) <;> rfl

theorem corruptedInside {data data' : Bytes} {offset : Nat} {pattern : UInt64}
    (corrupted : Corrupted data data' offset pattern) (some : pattern ≠ 0) :
    ∃ rest, 8 * data.length = offset + rest ∧ pattern.toNat < 2 ^ rest := by
  have bound (raw : Bytes) (same : raw.length = data.length) : leValue raw < 2 ^ (8 * data.length) := by
    have below := leValueBound raw
    rwa [same, show (256 : Nat) = 2 ^ 8 from rfl, ← pow_mul] at below
  have value := corruptedValue corrupted
  have below : 2 ^ offset * pattern.toNat < 2 ^ (8 * data.length) := by
    rw [← value]
    exact Nat.xor_lt_two_pow (bound data' corrupted.length) (bound data rfl)
  have positive : 0 < pattern.toNat := Nat.pos_of_ne_zero fun zero => some (UInt64.toNat_inj.mp zero)
  have inside : offset < 8 * data.length := by
    by_contra outside
    have long := Nat.pow_le_pow_right (by decide : 0 < 2) (Nat.not_lt.mp outside)
    have more := Nat.le_mul_of_pos_right (2 ^ offset) positive
    omega
  refine ⟨8 * data.length - offset, by omega, ?_⟩
  rw [← Nat.add_sub_cancel' inside.le, pow_add] at below
  exact Nat.lt_of_mul_lt_mul_left below

theorem lostIff (constant : UInt64) {data data' : Bytes} {offset : Nat} {pattern : UInt64}
    (corrupted : Corrupted data data' offset pattern) {rest : Nat} (size : 8 * data.length = offset + rest)
    (short : pattern.toNat < 2 ^ rest) :
    crc64Bitwise constant data' = crc64Bitwise constant data ↔
      (shift constant.toBitVec)^[rest] pattern.toBitVec = 0#64 := by
  rw [sameCrcIff constant corrupted.length, corruptedValue corrupted, size,
    feedPattern _ _ _ _ short pattern.toNat_lt, show BitVec.ofNat 64 pattern.toNat = pattern.toBitVec by simp]

end PlatformRte.Checksum
