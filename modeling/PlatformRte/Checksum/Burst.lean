import PlatformRte.Checksum.Differences

/-! Bursts under the ERTMS polynomial. The constant is used as it is written in a register
that moves to the right, where its three upper bits are zero: of the generator only the
lower 61 degrees are left, and a burst of 64 bits may be a multiple of it. -/
namespace PlatformRte.Checksum
open Bytes ShiftRegister

def ertmsLostBursts : List UInt64 :=
  [0x3A9EC770DC81CA83, 0x753D8EE1B9039506, 0x4FA3499165825F85, 0xEA7B1DC372072A0C, 0xD0E5DAB3AE86E08F,
    0x9F469322CB04BF0A, 0xA5D8545217857589]

theorem ertmsDegree : Degree (crc64Constant .ertms).toBitVec 61 := ⟨by decide, by decide⟩

theorem ertmsRoom : 2 * (crc64Constant .ertms).toBitVec.toNat + 1 < 2 ^ 64 := by decide

theorem ertmsLostThree (pattern : BitVec 64) :
    (shift (crc64Constant .ertms).toBitVec)^[3] pattern = 0#64 ↔
      pattern = 0#64 ∨ pattern ∈ ertmsLostBursts.map UInt64.toBitVec := by
  have once (s : BitVec 64) := shiftLostIff (crc64Constant .ertms).toBitVec ertmsRoom s
  have back {s t u : BitVec 64} := shiftToIff (s := s) (t := t) (u := u) (crc64Constant .ertms).toBitVec ertmsRoom
  have generator : BitVec.ofNat 64 (2 * (crc64Constant .ertms).toBitVec.toNat + 1) = 0x3A9EC770DC81CA83#64 := by decide
  rw [generator] at once
  simp only [generator] at back
  have twice (s : BitVec 64) : shift (crc64Constant .ertms).toBitVec s = 0x3A9EC770DC81CA83#64 ↔
      s = 0x753D8EE1B9039506#64 ∨ s = 0x4FA3499165825F85#64 := back (by decide)
  have double (s : BitVec 64) : shift (crc64Constant .ertms).toBitVec s = 0x753D8EE1B9039506#64 ↔
      s = 0xEA7B1DC372072A0C#64 ∨ s = 0xD0E5DAB3AE86E08F#64 := back (by decide)
  have triple (s : BitVec 64) : shift (crc64Constant .ertms).toBitVec s = 0x4FA3499165825F85#64 ↔
      s = 0x9F469322CB04BF0A#64 ∨ s = 0xA5D8545217857589#64 := back (by decide)
  have lost : ertmsLostBursts.map UInt64.toBitVec = [0x3A9EC770DC81CA83#64, 0x753D8EE1B9039506#64,
      0x4FA3499165825F85#64, 0xEA7B1DC372072A0C#64, 0xD0E5DAB3AE86E08F#64, 0x9F469322CB04BF0A#64,
      0xA5D8545217857589#64] := by decide
  simp only [lost, Function.iterate_succ_apply, Function.iterate_zero_apply, once, twice, double, triple, or_assoc,
    List.mem_cons, List.not_mem_nil, or_false]

theorem ertmsLostIff {data data' : Bytes} {offset : Nat} {pattern : UInt64}
    (corrupted : Corrupted data data' offset pattern) (some : pattern ≠ 0) :
    crc64Bitwise (crc64Constant .ertms) data' = crc64Bitwise (crc64Constant .ertms) data ↔
      pattern ∈ ertmsLostBursts := by
  obtain ⟨rest, size, short⟩ := corruptedInside corrupted some
  have nonzero : pattern.toBitVec ≠ 0#64 := fun zero => some (UInt64.toBitVec_inj.mp zero)
  have three : (shift (crc64Constant .ertms).toBitVec)^[rest] pattern.toBitVec = 0#64 ↔
      (shift (crc64Constant .ertms).toBitVec)^[3] pattern.toBitVec = 0#64 := by
    by_cases long : 3 ≤ rest
    · exact lostEarly ertmsDegree long pattern.toNat_lt
    · have small : pattern.toBitVec.toNat < 2 ^ 61 :=
        lt_of_lt_of_le short (Nat.pow_le_pow_right (by decide) (by omega))
      rw [shiftsKeepApart ertmsDegree rest small, shiftsKeepApart ertmsDegree 3 small]
  rw [lostIff _ corrupted size short, three, ertmsLostThree, or_iff_right nonzero]
  exact List.mem_map_of_injective fun _ _ => UInt64.toBitVec_inj.mp

/- Bursts of up to 64 bits are detected but for seven patterns. -/
theorem burstDetectedIff {m : ChecksumManager} (uses : Uses m .ertms) {data data' : Bytes} {offset : Nat}
    {pattern : UInt64} (corrupted : Corrupted data data' offset pattern) (some : pattern ≠ 0) :
    (checksumCrc64 m data').2 ≠ (checksumCrc64 m data).2 ↔ pattern ∉ ertmsLostBursts := by
  rw [crcUses uses, crcUses uses, Ne, ertmsLostIff corrupted some]

def eightZeros : Bytes := [0, 0, 0, 0, 0, 0, 0, 0]
def generatorBurst : Bytes := [0x83, 0xCA, 0x81, 0xDC, 0x70, 0xC7, 0x9E, 0x3A]

theorem generatorCorrupts : Corrupted eightZeros generatorBurst 0 0x3A9EC770DC81CA83 := by
  refine ⟨rfl, fun n => ?_⟩
  have zeros : leValue eightZeros = 0 := by decide
  have burst : leValue generatorBurst = (0x3A9EC770DC81CA83 : UInt64).toNat := by decide
  rw [← leValueTestBit, ← leValueTestBit, zeros, burst]
  simp

/- The generator itself, written over eight zero bytes, leaves their checksum. -/
theorem generatorUndetected : Corrupted eightZeros generatorBurst 0 0x3A9EC770DC81CA83 ∧
    (0x3A9EC770DC81CA83 : UInt64) ≠ 0 ∧
      (checksumCrc64 ertmsManager generatorBurst).2 = (checksumCrc64 ertmsManager eightZeros).2 := by
  have uses : Uses ertmsManager .ertms := ⟨rfl, rfl⟩
  have nonzero : (0x3A9EC770DC81CA83 : UInt64) ≠ 0 := by decide
  refine ⟨generatorCorrupts, nonzero, ?_⟩
  rw [crcUses uses, crcUses uses]
  exact (ertmsLostIff generatorCorrupts nonzero).mpr (by decide)

theorem lastBitDetected : (checksumCrc64 ertmsManager [0, 0x80]).2 ≠ (checksumCrc64 ertmsManager [0, 0]).2 := by
  have uses : Uses ertmsManager .ertms := ⟨rfl, rfl⟩
  have corrupted : Corrupted [0, 0] [0, 0x80] 15 1 := by
    refine ⟨rfl, fun n => ?_⟩
    have zeros : leValue [0, 0] = 0 := by decide
    have last : leValue [0, 0x80] = 2 ^ 15 * (1 : UInt64).toNat := by decide
    rw [← leValueTestBit, ← leValueTestBit, zeros, last, Nat.testBit_two_pow_mul, Nat.zero_testBit]
    simp
  exact (burstDetectedIff uses corrupted (by decide)).mpr (by decide)

end PlatformRte.Checksum
