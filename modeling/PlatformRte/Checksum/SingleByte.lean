import PlatformRte.Checksum.Differences

/-! One byte of a vital message replaced. The ISO constant is used as it is written in a
register that moves to the right, which leaves a generator of degree five: seven
differences of a byte are multiples of it and pass unseen. -/
namespace PlatformRte.Checksum
open Bytes ShiftRegister

def vitalCoveredSize : Nat := 264

theorem coveredLength (msg : VitalMessage) : msg.covered.length = vitalCoveredSize := by
  simp [VitalMessage.covered, msg.payloadLength, vitalPayloadMax, vitalCoveredSize]

def ofCovered (raw : Bytes) (size : raw.length = vitalCoveredSize) (crc64 : UInt64) : VitalMessage where
  sequenceNumber := UInt32.ofNat (readLe raw 0 4)
  senderId := UInt32.ofNat (readLe raw 4 4)
  timestampMs := UInt32.ofNat (readLe raw 8 4)
  payloadSize := UInt8.ofNat (readLe raw 12 1)
  padding := UInt8.ofNat (readLe raw 13 1)
  reserved := UInt16.ofNat (readLe raw 14 2)
  payload := field raw vitalPayloadOffset vitalPayloadMax
  payloadLength := fieldLength (by rw [size]; decide)
  crc64 := crc64

def VitalMessage.withByte (msg : VitalMessage) (position : Nat) (byte : UInt8) : VitalMessage :=
  ofCovered (msg.covered.set position byte) ((List.length_set ..).trans (coveredLength msg)) msg.crc64

theorem readLeBound {raw : Bytes} {offset width : Nat} (fits : offset + width ≤ raw.length) :
    readLe raw offset width < 256 ^ width := by
  have bound := leValueBound (field raw offset width)
  rwa [fieldLength fits] at bound

theorem ofCoveredCovered {raw : Bytes} (size : raw.length = vitalCoveredSize) (crc64 : UInt64) :
    (ofCovered raw size crc64).covered = raw := by
  have word (offset : Nat) (fits : offset + 4 ≤ raw.length) :
      leBytes 4 (UInt32.ofNat (readLe raw offset 4)).toNat = field raw offset 4 := by
    rw [UInt32.toNat_ofNat', Nat.mod_eq_of_lt (lt_of_lt_of_eq (readLeBound fits) (by decide)), leBytesRead fits]
  have half (offset : Nat) (fits : offset + 2 ≤ raw.length) :
      leBytes 2 (UInt16.ofNat (readLe raw offset 2)).toNat = field raw offset 2 := by
    rw [UInt16.toNat_ofNat', Nat.mod_eq_of_lt (lt_of_lt_of_eq (readLeBound fits) (by decide)), leBytesRead fits]
  have byte (offset : Nat) (fits : offset + 1 ≤ raw.length) :
      [UInt8.ofNat (readLe raw offset 1)] = field raw offset 1 := leBytesRead fits
  have pair (a b : UInt8) : [a, b] = [a] ++ [b] := rfl
  have whole : field raw 0 264 = raw := by
    rw [field, List.drop_zero, List.take_of_length_le (by rw [size]; decide)]
  simp only [VitalMessage.covered, ofCovered]
  rw [word 0 (by rw [size]; decide), word 4 (by rw [size]; decide), word 8 (by rw [size]; decide),
    half 14 (by rw [size]; decide), pair, byte 12 (by rw [size]; decide), byte 13 (by rw [size]; decide),
    ← List.append_assoc]
  rw [fieldJoin raw 0 4 4, fieldJoin raw 0 8 4, fieldJoin raw 0 12 1, fieldJoin raw 0 13 1, fieldJoin raw 0 14 2,
    vitalPayloadOffset, vitalPayloadMax, fieldJoin raw 0 16 248, whole]

theorem withByteCovered (msg : VitalMessage) (position : Nat) (byte : UInt8) :
    (msg.withByte position byte).covered = msg.covered.set position byte := ofCoveredCovered _ _

def isoLostBytes : List UInt8 := [0x37, 0x59, 0x6E, 0x85, 0xB2, 0xDC, 0xEB]

theorem tableZeros (polynomial : Crc64Polynomial) :
    (crc64Table polynomial).toList.map (fun entry => decide (entry = 0)) = (List.range 256).map fun difference =>
      decide (difference = 0 ∨ polynomial = .iso ∧ UInt8.ofNat difference ∈ isoLostBytes) := by
  cases polynomial with
  | ertms => decide +kernel
  | iso => decide +kernel
  | xz => decide +kernel

theorem tableLosesIff (polynomial : Crc64Polynomial) (difference : Fin 256) :
    (crc64Table polynomial).get difference = 0 ↔
      difference = 0 ∨ polynomial = .iso ∧ UInt8.ofNat difference ∈ isoLostBytes := by
  rw [decide_eq_decide.mp (eachEntryOf (tableZeros polynomial) difference), Fin.ext_iff]
  rfl

theorem crcDegree (polynomial : Crc64Polynomial) : ∃ k, Degree (crc64Constant polynomial).toBitVec k := by
  cases polynomial with
  | ertms => exact ⟨61, by decide, by decide⟩
  | iso => exact ⟨5, by decide, by decide⟩
  | xz => exact ⟨61, by decide, by decide⟩

theorem replacedCorrupts {data : Bytes} {position : Nat} (inside : position < data.length) (byte : UInt8) :
    Corrupted data (data.set position byte) (8 * position) (data[position] ^^^ byte).toUInt64 := by
  refine ⟨List.length_set .., fun n => ?_⟩
  have value : (data[position] ^^^ byte).toUInt64.toNat = data[position].toNat ^^^ byte.toNat := by simp
  rw [value, bitAt, bitAt]
  by_cases here : n / 8 = position
  · have place : n - 8 * position = n % 8 := by omega
    have after : 8 * position ≤ n := by omega
    subst here
    rw [place, List.getD_eq_getElem _ _ (by simpa using inside), List.getD_eq_getElem _ _ inside,
      List.getElem_set_self, Nat.testBit_xor, decide_eq_true after]
    cases data[n / 8].toNat.testBit (n % 8) <;> cases byte.toNat.testBit (n % 8) <;> rfl
  · have outside : (decide (8 * position ≤ n) && (data[position].toNat ^^^ byte.toNat).testBit (n - 8 * position)) =
        false := by
      by_cases after : 8 * position ≤ n
      · have small : data[position].toNat ^^^ byte.toNat < 2 ^ 8 :=
          Nat.xor_lt_two_pow data[position].toNat_lt byte.toNat_lt
        have far : 2 ^ 8 ≤ 2 ^ (n - 8 * position) := Nat.pow_le_pow_right (by decide) (by omega)
        rw [Nat.testBit_lt_two_pow (lt_of_lt_of_le small far), Bool.and_false]
      · rw [decide_eq_false after, Bool.false_and]
    have same : (data.set position byte).getD (n / 8) 0 = data.getD (n / 8) 0 := by
      rw [List.getD_eq_getElem?_getD, List.getElem?_set_ne (Ne.symm here), ← List.getD_eq_getElem?_getD]
    rw [outside, same, Bool.xor_false]

theorem replacedLostIff (polynomial : Crc64Polynomial) {data : Bytes} {position : Nat} (inside : position < data.length)
    {byte : UInt8} (other : byte ≠ data[position]) :
    crc64Bitwise (crc64Constant polynomial) (data.set position byte) = crc64Bitwise (crc64Constant polynomial) data ↔
      polynomial = .iso ∧ data[position] ^^^ byte ∈ isoLostBytes := by
  obtain ⟨k, degree⟩ := crcDegree polynomial
  have small : (data[position] ^^^ byte).toUInt64.toNat < 2 ^ 8 := (data[position] ^^^ byte).toNat_lt
  have size : 8 * data.length = 8 * position + (8 * (data.length - position - 1) + 8) := by omega
  have short : (data[position] ^^^ byte).toUInt64.toNat < 2 ^ (8 * (data.length - position - 1) + 8) :=
    lt_of_lt_of_le small (Nat.pow_le_pow_right (by decide) (Nat.le_add_left _ _))
  have below : (data[position] ^^^ byte).toUInt64.toBitVec.toNat < 2 ^ (k + 8) :=
    lt_of_lt_of_le small (Nat.pow_le_pow_right (by decide) (Nat.le_add_left _ _))
  have entry := tableEntry polynomial ⟨(data[position] ^^^ byte).toNat, (data[position] ^^^ byte).toNat_lt⟩
  have nonzero : (⟨(data[position] ^^^ byte).toNat, (data[position] ^^^ byte).toNat_lt⟩ : Fin 256) ≠ 0 := by
    intro zero
    have none : data[position] ^^^ byte = 0 := UInt8.toNat_inj.mp (congrArg Fin.val zero)
    exact other (UInt8.xor_eq_zero_iff.mp none).symm
  rw [lostIff _ (replacedCorrupts inside byte) size short, lostEarly degree (Nat.le_add_left 8 _) below,
    ← bitStepsBits, show (0#64) = (0 : UInt64).toBitVec from rfl, UInt64.toBitVec_inj]
  have wide : (data[position] ^^^ byte).toUInt64 = UInt64.ofNat (data[position] ^^^ byte).toNat :=
    UInt64.toNat_inj.mp (by simp)
  rw [wide, ← entry, tableLosesIff, or_iff_right nonzero, UInt8.ofNat_toNat]

theorem verifyCorrupted {m : ChecksumManager} (msg : VitalMessage) (ready : m.initialized = true)
    (other : (checksumCrc64 m msg.covered).2 ≠ msg.crc64) (expected : UInt32) (room : Nat) :
    ∃ status, (checksumVitalMessageVerify m msg expected room).2 = .error status := by
  have corrupt : (checksumCrc64Verify m msg.covered msg.crc64).2.2 ≠ .ok := (intactIff ready _ _).not.mpr other
  exact ⟨(checksumCrc64Verify m msg.covered msg.crc64).2.2, by simp only [checksumVitalMessageVerify, if_pos corrupt]⟩

theorem createdCrc {m m' : ChecksumManager} {polynomial : Crc64Polynomial} (uses : Uses m polynomial)
    {senderId sequence : UInt32} {payload : Bytes} {nowMs : UInt64} {msg : VitalMessage}
    (created : checksumVitalMessageCreate m senderId sequence payload nowMs = (m', .ok msg)) :
    msg.crc64 = crc64Bitwise (crc64Constant polynomial) msg.covered := by
  obtain ⟨_, _, rfl⟩ := createdMessage created
  exact crcUses uses _

theorem lostAccepted {m m' v : ChecksumManager} {polynomial : Crc64Polynomial} (uses : Uses m polynomial)
    (verifier : Uses v polynomial) {senderId sequence : UInt32} {payload : Bytes} {nowMs : UInt64} {msg : VitalMessage}
    (created : checksumVitalMessageCreate m senderId sequence payload nowMs = (m', .ok msg)) {position : Nat}
    (inside : position < msg.covered.length) {byte : UInt8} (other : byte ≠ msg.covered[position])
    (lost : polynomial = .iso ∧ msg.covered[position] ^^^ byte ∈ isoLostBytes) :
    (checksumVitalMessageVerify v (msg.withByte position byte) (msg.withByte position byte).sequenceNumber
      (msg.withByte position byte).payloadSize.toNat).2 =
        .ok (field (msg.withByte position byte).bytes vitalPayloadOffset (msg.withByte position byte).payloadSize.toNat) := by
  have same := (replacedLostIff polynomial inside other).mpr lost
  rw [← createdCrc uses created, ← withByteCovered, ← crcUses verifier] at same
  exact verifyAccepts ((intactIff verifier.ready _ _).mpr same) rfl (le_refl _)

theorem singleByteDetectedIff {m m' v : ChecksumManager} {polynomial : Crc64Polynomial} (uses : Uses m polynomial)
    (verifier : Uses v polynomial) {senderId sequence : UInt32} {payload : Bytes} {nowMs : UInt64} {msg : VitalMessage}
    (created : checksumVitalMessageCreate m senderId sequence payload nowMs = (m', .ok msg)) {position : Nat}
    (inside : position < msg.covered.length) {byte : UInt8} (other : byte ≠ msg.covered[position]) :
    (∀ expected room taken, (checksumVitalMessageVerify v (msg.withByte position byte) expected room).2 ≠ .ok taken) ↔
      ¬(polynomial = .iso ∧ msg.covered[position] ^^^ byte ∈ isoLostBytes) := by
  constructor
  · intro rejected lost
    exact rejected _ _ _ (lostAccepted uses verifier created inside other lost)
  · intro kept expected room taken accepted
    have differs := (replacedLostIff polynomial inside other).not.mpr kept
    rw [← createdCrc uses created, ← withByteCovered, ← crcUses verifier] at differs
    obtain ⟨status, rejected⟩ := verifyCorrupted (msg.withByte position byte) verifier.ready differs expected room
    rw [rejected] at accepted
    cases accepted

def oneZeroFrom (m : ChecksumManager) : VitalMessage :=
  (filledMessage 1 7 [0] 0).sealed (checksumCrc64 m (filledMessage 1 7 [0] 0).covered).2

theorem oneZeroCreated {m : ChecksumManager} (ready : m.initialized = true) :
    checksumVitalMessageCreate m 1 7 [0] 0 =
      ((checksumCrc64 m (filledMessage 1 7 [0] 0).covered).1, .ok (oneZeroFrom m)) :=
  createsMessage ready 1 7 (by decide) 0

theorem oneZeroCovered (m : ChecksumManager) : (oneZeroFrom m).covered = (filledMessage 1 7 [0] 0).covered := rfl

theorem firstPayloadByte : (filledMessage 1 7 [0] 0).covered[16]? = some 0 := by decide

def isoManager : ChecksumManager := (checksumCrc64Init checksumManager .iso).1

/- The payload byte 0x00 replaced by 0x37 under the ISO polynomial. -/
theorem isoByteUndetected : (oneZeroFrom isoManager).covered[16]? = some 0 ∧
    (checksumVitalMessageCreate isoManager 1 7 [0] 0).2 = .ok (oneZeroFrom isoManager) ∧
      ∃ expected room taken, (checksumVitalMessageVerify isoManager ((oneZeroFrom isoManager).withByte 16 0x37)
        expected room).2 = .ok taken := by
  have uses : Uses isoManager .iso := ⟨rfl, rfl⟩
  have here := firstPayloadByte
  rw [← oneZeroCovered isoManager] at here
  obtain ⟨inside, zero⟩ := List.getElem?_eq_some_iff.mp here
  have other : (0x37 : UInt8) ≠ (oneZeroFrom isoManager).covered[16] := by
    rw [zero]
    decide
  have accepted := lostAccepted uses uses (oneZeroCreated uses.ready) inside other (by rw [zero]; decide)
  exact ⟨here, by rw [oneZeroCreated uses.ready], _, _, _, accepted⟩

theorem ertmsByteDetected : (oneZeroFrom ertmsManager).covered[16]? = some 0 ∧
    ∀ expected room taken, (checksumVitalMessageVerify ertmsManager ((oneZeroFrom ertmsManager).withByte 16 0x37)
      expected room).2 ≠ .ok taken := by
  have uses : Uses ertmsManager .ertms := ⟨rfl, rfl⟩
  have here := firstPayloadByte
  rw [← oneZeroCovered ertmsManager] at here
  obtain ⟨inside, zero⟩ := List.getElem?_eq_some_iff.mp here
  exact ⟨here, (singleByteDetectedIff uses uses (oneZeroCreated uses.ready) inside (by rw [zero]; decide)).mpr (by simp)⟩

end PlatformRte.Checksum
