import PlatformRte.Checksum.RoundTrip

/-! The payload size of a received message. It is a byte of the message, the payload area
has 248 bytes, and a verify call holds the size against the room of its caller only. -/
namespace PlatformRte.Checksum
open Bytes

structure TakenInside (msg : VitalMessage) (taken : Bytes) : Prop where
  inside : msg.payloadSize.toNat ≤ msg.payload.length
  taken : taken = msg.payload.take msg.payloadSize.toNat

theorem acceptedIff {m : ChecksumManager} {msg : VitalMessage} {expected : UInt32} {room : Nat} {taken : Bytes} :
    (checksumVitalMessageVerify m msg expected room).2 = .ok taken ↔
      (checksumCrc64Verify m msg.covered msg.crc64).2.2 = .ok ∧ msg.sequenceNumber = expected ∧
        msg.payloadSize.toNat ≤ room ∧ taken = field msg.bytes vitalPayloadOffset msg.payloadSize.toNat := by
  constructor
  · intro accepted
    exact verifiedMessage (Prod.ext rfl accepted)
  · rintro ⟨intact, inOrder, fits, rfl⟩
    exact verifyAccepts intact inOrder fits

/- The messages whose size byte points past the payload area while all the checks pass. -/
structure Oversized (m : ChecksumManager) (msg : VitalMessage) (expected : UInt32) (room : Nat) : Prop where
  ready : m.initialized = true
  intact : (checksumCrc64 m msg.covered).2 = msg.crc64
  inOrder : msg.sequenceNumber = expected
  past : msg.payload.length < msg.payloadSize.toNat
  fits : msg.payloadSize.toNat ≤ room

theorem intactReady {m : ChecksumManager} {data : Bytes} {expected : UInt64}
    (intact : (checksumCrc64Verify m data expected).2.2 = .ok) : m.initialized = true := by
  unfold checksumCrc64Verify at intact
  split at intact
  · assumption
  · cases intact

theorem takenInsideIff (m : ChecksumManager) (msg : VitalMessage) (expected : UInt32) (room : Nat) :
    (∀ taken, (checksumVitalMessageVerify m msg expected room).2 = .ok taken → TakenInside msg taken) ↔
      ¬Oversized m msg expected room := by
  constructor
  · intro inside oversized
    have intact := (intactIff oversized.ready msg.covered msg.crc64).mpr oversized.intact
    have taken := inside _ (verifyAccepts intact oversized.inOrder oversized.fits)
    exact Nat.not_lt.mpr taken.inside oversized.past
  · intro regular taken accepted
    obtain ⟨intact, inOrder, fits, rfl⟩ := acceptedIff.mp accepted
    have ready := intactReady intact
    have inside : msg.payloadSize.toNat ≤ msg.payload.length := by
      by_contra past
      exact regular ⟨ready, (intactIff ready _ _).mp intact, inOrder, Nat.not_le.mp past, fits⟩
    exact ⟨inside, payloadTaken msg (inside.trans_eq msg.payloadLength)⟩

/- A caller whose room is no larger than the payload area gets payload bytes only. -/
theorem smallRoomInside {m : ChecksumManager} {msg : VitalMessage} {expected : UInt32} {room : Nat}
    (small : room ≤ vitalPayloadMax) {taken : Bytes}
    (accepted : (checksumVitalMessageVerify m msg expected room).2 = .ok taken) : TakenInside msg taken := by
  have regular : ¬Oversized m msg expected room := by
    intro oversized
    have past := oversized.past
    rw [msg.payloadLength] at past
    exact Nat.not_lt.mpr (oversized.fits.trans small) past
  exact (takenInsideIff m msg expected room).mpr regular taken accepted

/- The sender's side keeps the bound that the receiver's side lacks. -/
theorem createdInside {m m' v : ChecksumManager} {senderId sequence expected : UInt32} {payload : Bytes} {nowMs : UInt64}
    {msg : VitalMessage} (created : checksumVitalMessageCreate m senderId sequence payload nowMs = (m', .ok msg))
    (room : Nat) : ¬Oversized v msg expected room := by
  intro oversized
  obtain ⟨_, short, _⟩ := createdMessage created
  obtain ⟨_, size, _⟩ := createdCarries created
  have past := oversized.past
  rw [msg.payloadLength, size] at past
  exact Nat.not_lt.mpr short past

def sizeBeyond (m : ChecksumManager) : VitalMessage :=
  let msg := { blankMessage with payloadSize := 255 }
  msg.sealed (checksumCrc64 m msg.covered).2

theorem sizeBeyondPast (m : ChecksumManager) :
    (sizeBeyond m).payloadSize.toNat = (sizeBeyond m).payload.length + 7 := by
  rw [VitalMessage.payloadLength]
  rfl

theorem sizeBeyondTaken {m : ChecksumManager} (ready : m.initialized = true) :
    (checksumVitalMessageVerify m (sizeBeyond m) 0 255).2 =
      .ok ((sizeBeyond m).payload ++ (leBytes 8 (sizeBeyond m).crc64.toNat).take 7) := by
  have intact : (checksumCrc64Verify m (sizeBeyond m).covered (sizeBeyond m).crc64).2.2 = .ok := sealedIntact ready _
  have first : (sizeBeyond m).sequenceNumber = 0 := rfl
  rw [verifyAccepts intact first (le_refl 255), field, payloadOnwards, sizeBeyondPast, List.take_length_add_append]

/- With room for 255 bytes the message with the size byte 255 is accepted, and what is
handed over ends with seven of the eight bytes of its CRC. -/
theorem crcHandedOver :
    (checksumVitalMessageVerify ertmsManager (sizeBeyond ertmsManager) 0 255).2 =
        .ok ((sizeBeyond ertmsManager).payload ++ (leBytes 8 (sizeBeyond ertmsManager).crc64.toNat).take 7) ∧
      ¬∀ taken, (checksumVitalMessageVerify ertmsManager (sizeBeyond ertmsManager) 0 255).2 = .ok taken →
        TakenInside (sizeBeyond ertmsManager) taken := by
  have taken := sizeBeyondTaken (m := ertmsManager) rfl
  refine ⟨taken, fun inside => ?_⟩
  have short := (inside _ taken).inside
  rw [sizeBeyondPast] at short
  omega

end PlatformRte.Checksum
