import PlatformRte.Checksum.Bitwise

/-! The vital message calls with their output pointers. What was created is taken out
again as it was put in, and a call that is refused leaves what its pointers name. -/
namespace PlatformRte.Checksum
open Bytes

/- A byte pointer and a size: NULL with any size, or the bytes it points to. -/
inductive BytesIn where
  | null (size : Nat)
  | bytes (raw : Bytes)

def BytesIn.size : BytesIn → Nat
  | .null size => size
  | .bytes raw => raw.length

def BytesIn.isNull : BytesIn → Bool
  | .null _ => true
  | .bytes _ => false

def BytesIn.read : BytesIn → Bytes
  | .null _ => []
  | .bytes raw => raw

def checksumCrc64At (m : ChecksumManager) (data : BytesIn) : ChecksumManager × UInt64 :=
  match data with
  | .bytes raw => checksumCrc64 m raw
  | .null size =>
    if !m.initialized then (m, 0) else if size ≠ 0 then (m, 0) else (m, 0xFFFFFFFFFFFFFFFF)

/- resultOut: none for NULL, else what it holds. -/
def checksumCrc64VerifyInto (m : ChecksumManager) (data : BytesIn) (expected : UInt64)
    (resultOut : Option ChecksumResult) : ChecksumManager × Option ChecksumResult × RteStatus :=
  match resultOut with
  | none => (m, none, .invalidParam)
  | some _ =>
    if !m.initialized then (m, some ⟨0, expected, false⟩, .notInitialized)
    else
      let computed := checksumCrc64At m data
      let stats := computed.1.stats
      if computed.2 = expected then
        ({ computed.1 with stats := { stats with verificationPasses := stats.verificationPasses + 1 } },
          some ⟨computed.2, expected, true⟩, .ok)
      else
        ({ computed.1 with stats := { stats with verificationFailures := stats.verificationFailures + 1 } },
          some ⟨computed.2, expected, false⟩, .dataCorruption)

-- Every field is assigned on its own; the payload area is cleared before the copy.
def fillInto (old : VitalMessage) (senderId sequence : UInt32) (payload : BytesIn) (nowMs : UInt64) : VitalMessage :=
  let header := { old with
    sequenceNumber := sequence
    senderId := senderId
    timestampMs := nowMs.toUInt32
    payloadSize := UInt8.ofNat payload.size
    padding := 0
    reserved := 0 }
  { header with
    payload := overwrite (List.replicate vitalPayloadMax 0) (payload.read.take vitalPayloadMax)
    payloadLength := by simp [overwrite] }

/- msgOut: none for NULL, else the message it points to. -/
def checksumVitalMessageCreateInto (m : ChecksumManager) (msgOut : Option VitalMessage) (senderId sequence : UInt32)
    (payload : BytesIn) (nowMs : UInt64) : ChecksumManager × Option VitalMessage × RteStatus :=
  match msgOut with
  | none => (m, none, .invalidParam)
  | some old =>
    if vitalPayloadMax < payload.size then (payloadOversize m, some old, .invalidParam)
    else if payload.isNull && payload.size != 0 then (m, some old, .invalidParam)
    else if !m.initialized then (m, some old, .notInitialized)
    else
      let msg := fillInto old senderId sequence payload nowMs
      let computed := checksumCrc64 m msg.covered
      (computed.1, some { msg with crc64 := computed.2 }, .ok)

structure PayloadOut where
  payloadOut : Option Bytes
  payloadSizeOut : Option UInt8
  deriving DecidableEq

def checksumVitalMessageVerifyInto (m : ChecksumManager) (msg : Option VitalMessage) (expectedSequence : UInt32)
    (out : PayloadOut) (payloadMaxSize : Nat) : ChecksumManager × PayloadOut × RteStatus :=
  match msg, out.payloadOut, out.payloadSizeOut with
  | some msg, some buffer, some _ =>
    let checked := checksumCrc64VerifyInto m (.bytes msg.covered) msg.crc64 (some ⟨0, 0, false⟩)
    if checked.2.2 ≠ .ok then (checked.1, out, checked.2.2)
    else if msg.sequenceNumber ≠ expectedSequence then
      ({ checked.1 with stats :=
          { checked.1.stats with sequenceErrors := checked.1.stats.sequenceErrors + 1 } }, out, .dataCorruption)
    else if payloadMaxSize < msg.payloadSize.toNat then (payloadOversize checked.1, out, .invalidParam)
    else
      (checked.1, ⟨some (overwrite buffer (field msg.bytes vitalPayloadOffset msg.payloadSize.toNat)),
        some msg.payloadSize⟩, .ok)
  | _, _, _ => (m, out, .invalidParam)

theorem cleared {payload : Bytes} (short : payload.length ≤ vitalPayloadMax) :
    overwrite (List.replicate vitalPayloadMax 0) (payload.take vitalPayloadMax) = fit vitalPayloadMax payload := by
  rw [overwrite, fit, List.take_of_length_le short, List.drop_replicate]

theorem readSize {payload : BytesIn} (given : ¬(payload.isNull && payload.size != 0) = true) :
    payload.size = payload.read.length := by
  cases payload with
  | null size => simpa [BytesIn.isNull, BytesIn.size, BytesIn.read] using given
  | bytes raw => rfl

theorem filledInto (old : VitalMessage) (senderId sequence : UInt32) {payload : BytesIn} (nowMs : UInt64)
    (short : payload.read.length ≤ vitalPayloadMax) (size : payload.size = payload.read.length) (crc64 : UInt64) :
    (fillInto old senderId sequence payload nowMs).sealed crc64 =
      (filledMessage senderId sequence payload.read nowMs).sealed crc64 := by
  simp only [fillInto, filledMessage, VitalMessage.sealed, cleared short, size]

theorem filledIntoCovered (old : VitalMessage) (senderId sequence : UInt32) {payload : BytesIn} (nowMs : UInt64)
    (short : payload.read.length ≤ vitalPayloadMax) (size : payload.size = payload.read.length) :
    (fillInto old senderId sequence payload nowMs).covered =
      (filledMessage senderId sequence payload.read nowMs).covered := by
  have same := congrArg VitalMessage.covered (filledInto old senderId sequence nowMs short size 0)
  exact same

theorem madeMessage {m m' : ChecksumManager} {msgOut out : Option VitalMessage} {senderId sequence : UInt32}
    {payload : BytesIn} {nowMs : UInt64}
    (made : checksumVitalMessageCreateInto m msgOut senderId sequence payload nowMs = (m', out, .ok)) :
    ∃ msg, out = some msg ∧ payload.size = payload.read.length ∧
      checksumVitalMessageCreate m senderId sequence payload.read nowMs = (m', .ok msg) := by
  cases msgOut with
  | none =>
    rw [checksumVitalMessageCreateInto] at made
    cases made
  | some old =>
    simp only [checksumVitalMessageCreateInto] at made
    split_ifs at made with long missing down
    · cases made
    · cases made
    · cases made
    · have size := readSize missing
      have short : payload.read.length ≤ vitalPayloadMax := by
        rw [← size]
        exact Nat.not_lt.mp long
      have ready : m.initialized = true := by simpa using down
      have covered := filledIntoCovered old senderId sequence nowMs short size
      cases made
      refine ⟨_, rfl, size, ?_⟩
      rw [createsMessage ready senderId sequence short nowMs, covered,
        ← filledInto old senderId sequence nowMs short size]
      rfl

theorem createRefusedUnwritten (m : ChecksumManager) (msgOut : Option VitalMessage) (senderId sequence : UInt32)
    (payload : BytesIn) (nowMs : UInt64)
    (refused : (checksumVitalMessageCreateInto m msgOut senderId sequence payload nowMs).2.2 ≠ .ok) :
    (checksumVitalMessageCreateInto m msgOut senderId sequence payload nowMs).2.1 = msgOut := by
  cases msgOut with
  | none => rfl
  | some old =>
    simp only [checksumVitalMessageCreateInto] at refused ⊢
    split_ifs at refused ⊢
    · rfl
    · rfl
    · rfl
    · exact absurd rfl refused

theorem crcVerifyInto (m : ChecksumManager) (data : Bytes) (expected : UInt64) (old : ChecksumResult) :
    checksumCrc64VerifyInto m (.bytes data) expected (some old) =
      ((checksumCrc64Verify m data expected).1, some (checksumCrc64Verify m data expected).2.1,
        (checksumCrc64Verify m data expected).2.2) := by
  simp only [checksumCrc64VerifyInto, checksumCrc64Verify, checksumCrc64At]
  cases m.initialized with
  | false => rfl
  | true =>
    by_cases same : (checksumCrc64 m data).2 = expected
    · simp [same]
    · simp [same]

theorem verifyInto (m : ChecksumManager) (msg : VitalMessage) (expected : UInt32) (buffer : Bytes) (oldSize : UInt8)
    (room : Nat) :
    (checksumVitalMessageVerifyInto m (some msg) expected ⟨some buffer, some oldSize⟩ room).2 =
      match (checksumVitalMessageVerify m msg expected room).2 with
      | .ok payload => (⟨some (overwrite buffer payload), some msg.payloadSize⟩, .ok)
      | .error status => (⟨some buffer, some oldSize⟩, status) := by
  simp only [checksumVitalMessageVerifyInto, checksumVitalMessageVerify, crcVerifyInto]
  split_ifs <;> rfl

theorem verifyRefusedUnwritten (m : ChecksumManager) (msg : Option VitalMessage) (expected : UInt32) (out : PayloadOut)
    (room : Nat) (refused : (checksumVitalMessageVerifyInto m msg expected out room).2.2 ≠ .ok) :
    (checksumVitalMessageVerifyInto m msg expected out room).2.1 = out := by
  obtain ⟨payloadOut, sizeOut⟩ := out
  cases msg <;> cases payloadOut <;> cases sizeOut
  case some.some.some =>
    simp only [checksumVitalMessageVerifyInto] at refused ⊢
    split_ifs at refused ⊢
    · rfl
    · rfl
    · rfl
    · exact absurd rfl refused
  all_goals rfl

def takesOut (v : ChecksumManager) (msg : Option VitalMessage) (expected : UInt32) (buffer : Bytes) (oldSize : UInt8)
    (room : Nat) : PayloadOut × RteStatus :=
  (checksumVitalMessageVerifyInto v msg expected ⟨some buffer, some oldSize⟩ room).2

structure RoundTrip (v : ChecksumManager) (msg : Option VitalMessage) (sequence : UInt32) (payload : BytesIn) : Prop where
  taken : ∀ buffer oldSize room, payload.size ≤ room → ∃ size : UInt8, size.toNat = payload.size ∧
    takesOut v msg sequence buffer oldSize room = (⟨some (overwrite buffer payload.read), some size⟩, .ok)
  wholePayload : payload.size = payload.read.length
  otherNumber : ∀ expected buffer oldSize room, expected ≠ sequence →
    takesOut v msg expected buffer oldSize room = (⟨some buffer, some oldSize⟩, .dataCorruption)
  noRoom : ∀ buffer oldSize room, room < payload.size →
    takesOut v msg sequence buffer oldSize room = (⟨some buffer, some oldSize⟩, .invalidParam)

structure NotReady (u : ChecksumManager) (msgOut : Option VitalMessage) (senderId sequence : UInt32) (payload : BytesIn)
    (nowMs : UInt64) : Prop where
  create : checksumVitalMessageCreateInto u msgOut senderId sequence payload nowMs = (u, msgOut, .notInitialized)
  verify : ∀ msg expected buffer oldSize room,
    checksumVitalMessageVerifyInto u (some msg) expected ⟨some buffer, some oldSize⟩ room =
      (u, ⟨some buffer, some oldSize⟩, .notInitialized)
  raw : ∀ data expected old, (checksumCrc64VerifyInto u data expected (some old)).2.2 = .notInitialized

theorem verifyNoRoom {m : ChecksumManager} {msg : VitalMessage} {expected : UInt32} {room : Nat}
    (intact : (checksumCrc64Verify m msg.covered msg.crc64).2.2 = .ok) (inOrder : msg.sequenceNumber = expected)
    (long : room < msg.payloadSize.toNat) :
    (checksumVitalMessageVerify m msg expected room).2 = .error .invalidParam := by
  unfold checksumVitalMessageVerify
  dsimp only
  rw [if_neg (not_not.mpr intact), if_neg (not_not.mpr inOrder), if_pos long]

theorem roundTrip {m m' v : ChecksumManager} {msgOut out : Option VitalMessage} {senderId sequence : UInt32}
    {payload : BytesIn} {nowMs : UInt64}
    (made : checksumVitalMessageCreateInto m msgOut senderId sequence payload nowMs = (m', out, .ok))
    (same : SameTable m v) : RoundTrip v out sequence payload := by
  obtain ⟨msg, rfl, size, created⟩ := madeMessage made
  obtain ⟨number, length, _⟩ := createdCarries created
  have intact := createdIntact created same
  obtain ⟨initialized, _, _⟩ := createdMessage created
  refine ⟨fun buffer oldSize room fits => ?_, size, fun expected buffer oldSize room other => ?_,
    fun buffer oldSize room long => ?_⟩
  · refine ⟨msg.payloadSize, length.trans size.symm, ?_⟩
    have accepted := createdVerifies created (same.ready.trans initialized) same.table (size.symm.trans_le fits)
    rw [takesOut, verifyInto, accepted]
  · have refused : (checksumVitalMessageVerify v msg expected room).2 = .error .dataCorruption :=
      verifyOtherNumber intact fun matched => other (matched.symm.trans number)
    rw [takesOut, verifyInto, refused]
  · have refused : (checksumVitalMessageVerify v msg sequence room).2 = .error .invalidParam :=
      verifyNoRoom intact number (by rw [length, ← size]; exact long)
    rw [takesOut, verifyInto, refused]

theorem notReady {m m' u : ChecksumManager} {msgOut out : Option VitalMessage} {senderId sequence : UInt32}
    {payload : BytesIn} {nowMs : UInt64}
    (made : checksumVitalMessageCreateInto m msgOut senderId sequence payload nowMs = (m', out, .ok))
    (down : u.initialized = false) : NotReady u msgOut senderId sequence payload nowMs := by
  refine ⟨?_, fun msg expected buffer oldSize room => ?_, fun data expected old => ?_⟩
  · cases msgOut with
    | none =>
      rw [checksumVitalMessageCreateInto] at made
      cases made
    | some old =>
      simp only [checksumVitalMessageCreateInto] at made ⊢
      split_ifs at made with long missing
      · cases made
      · cases made
      · cases made
      · rw [if_neg long, if_neg missing, down]
        rfl
  · simp [checksumVitalMessageVerifyInto, checksumCrc64VerifyInto, down]
  · simp [checksumCrc64VerifyInto, down]

/- The round trip of every message a create call makes, what is refused before the module
is initialized, and that nothing refused is written. -/
theorem vitalMessageRoundTrip {m m' : ChecksumManager} {msgOut out : Option VitalMessage} {senderId sequence : UInt32}
    {payload : BytesIn} {nowMs : UInt64}
    (made : checksumVitalMessageCreateInto m msgOut senderId sequence payload nowMs = (m', out, .ok)) :
    (∀ v, SameTable m v → RoundTrip v out sequence payload) ∧
      (∀ u, u.initialized = false → NotReady u msgOut senderId sequence payload nowMs) ∧
      (∀ n target sender number given clock,
        (checksumVitalMessageCreateInto n target sender number given clock).2.2 ≠ .ok →
          (checksumVitalMessageCreateInto n target sender number given clock).2.1 = target) ∧
      ∀ n msg expected target room, (checksumVitalMessageVerifyInto n msg expected target room).2.2 ≠ .ok →
        (checksumVitalMessageVerifyInto n msg expected target room).2.1 = target :=
  ⟨fun _ same => roundTrip made same, fun _ down => notReady made down, createRefusedUnwritten, verifyRefusedUnwritten⟩

def blankMessage : VitalMessage := (filledMessage 0 0 [] 0).sealed 0

theorem oneByteRoundTrip : RoundTrip ertmsManager
    (checksumVitalMessageCreateInto ertmsManager (some blankMessage) 1 7 (.bytes [0x2A]) 0).2.1 7 (.bytes [0x2A]) := by
  have made : checksumVitalMessageCreateInto ertmsManager (some blankMessage) 1 7 (.bytes [0x2A]) 0 =
      ((checksumVitalMessageCreateInto ertmsManager (some blankMessage) 1 7 (.bytes [0x2A]) 0).1,
        (checksumVitalMessageCreateInto ertmsManager (some blankMessage) 1 7 (.bytes [0x2A]) 0).2.1, .ok) := rfl
  exact (vitalMessageRoundTrip made).1 ertmsManager ⟨rfl, rfl⟩

end PlatformRte.Checksum
