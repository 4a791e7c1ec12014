import PlatformRte.Checksum.Tables
import PlatformRte.Lib.Bytes
import PlatformRte.Status

/-! The checksum module and the vital message it protects: 16 header bytes, 248 payload
bytes and the CRC-64 over all of them, numbers least significant byte first. -/
namespace PlatformRte.Checksum
open Bytes

inductive Crc64Polynomial where
  | ertms | iso | xz
  deriving DecidableEq, Repr

def crc64Table : Crc64Polynomial → Crc64Table
  | .ertms => crc64ErtmsTable
  | .iso => crc64IsoTable
  | .xz => crc64XzTable

structure ChecksumStats where
  totalChecksums : UInt32
  verificationPasses : UInt32
  verificationFailures : UInt32
  sequenceErrors : UInt32
  payloadOversize : UInt32
  deriving DecidableEq, Repr

/- table: the lookup table in use, none before the first init. -/
structure ChecksumManager where
  initialized : Bool
  polynomial : Crc64Polynomial
  table : Option Crc64Polynomial
  stats : ChecksumStats
  deriving DecidableEq, Repr

def noStats : ChecksumStats := ⟨0, 0, 0, 0, 0⟩

def checksumManager : ChecksumManager := ⟨false, .ertms, none, noStats⟩

def checksumCrc64Init (m : ChecksumManager) (polynomial : Crc64Polynomial) : ChecksumManager × RteStatus :=
  if m.initialized then (m, .alreadyInitialized)
  else (⟨true, polynomial, some polynomial, noStats⟩, .ok)

def crc64Step (table : Crc64Table) (crc : UInt64) (byte : UInt8) : UInt64 :=
  let index := ((crc ^^^ byte.toUInt64) &&& 0xFF).toUInt8
  (crc >>> 8) ^^^ table.get ⟨index.toNat, index.toNat_lt⟩

def crc64Of (table : Crc64Table) (data : Bytes) : UInt64 :=
  data.foldl (crc64Step table) 0xFFFFFFFFFFFFFFFF ^^^ 0xFFFFFFFFFFFFFFFF

def checksumCrc64 (m : ChecksumManager) (data : Bytes) : ChecksumManager × UInt64 :=
  if m.initialized then
    match m.table with
    | none => (m, 0)
    | some polynomial =>
        ({ m with stats := { m.stats with totalChecksums := m.stats.totalChecksums + 1 } },
          crc64Of (crc64Table polynomial) data)
  else (m, 0)

structure ChecksumResult where
  computed : UInt64
  expected : UInt64
  matched : Bool
  deriving DecidableEq, Repr

def checksumCrc64Verify (m : ChecksumManager) (data : Bytes) (expected : UInt64) :
    ChecksumManager × ChecksumResult × RteStatus :=
  if m.initialized then
    let computed := checksumCrc64 m data
    let stats := computed.1.stats
    if computed.2 = expected then
      ({ computed.1 with stats := { stats with verificationPasses := stats.verificationPasses + 1 } },
        ⟨computed.2, expected, true⟩, .ok)
    else
      ({ computed.1 with stats := { stats with verificationFailures := stats.verificationFailures + 1 } },
        ⟨computed.2, expected, false⟩, .dataCorruption)
  else (m, ⟨0, expected, false⟩, .notInitialized)

def vitalPayloadMax : Nat := 248
def vitalPayloadOffset : Nat := 16

structure VitalMessage where
  sequenceNumber : UInt32
  senderId : UInt32
  timestampMs : UInt32
  payloadSize : UInt8
  padding : UInt8
  reserved : UInt16
  payload : Bytes
  payloadLength : payload.length = vitalPayloadMax
  crc64 : UInt64
  deriving DecidableEq

def VitalMessage.covered (msg : VitalMessage) : Bytes :=
  leBytes 4 msg.sequenceNumber.toNat ++ leBytes 4 msg.senderId.toNat ++ leBytes 4 msg.timestampMs.toNat ++
    [msg.payloadSize, msg.padding] ++ leBytes 2 msg.reserved.toNat ++ msg.payload

def VitalMessage.sealed (msg : VitalMessage) (crc64 : UInt64) : VitalMessage := { msg with crc64 := crc64 }

def VitalMessage.bytes (msg : VitalMessage) : Bytes := msg.covered ++ leBytes 8 msg.crc64.toNat

def payloadOversize (m : ChecksumManager) : ChecksumManager :=
  { m with stats := { m.stats with payloadOversize := m.stats.payloadOversize + 1 } }

def filledMessage (senderId sequence : UInt32) (payload : Bytes) (nowMs : UInt64) : VitalMessage where
  sequenceNumber := sequence
  senderId := senderId
  timestampMs := nowMs.toUInt32
  payloadSize := UInt8.ofNat payload.length
  padding := 0
  reserved := 0
  payload := fit vitalPayloadMax payload
  payloadLength := fitLength vitalPayloadMax payload
  crc64 := 0

/- nowMs is the answer of rte_timer_now(), 0 without a timer. -/
def checksumVitalMessageCreate (m : ChecksumManager) (senderId sequence : UInt32) (payload : Bytes) (nowMs : UInt64) :
    ChecksumManager × Except RteStatus VitalMessage :=
  if vitalPayloadMax < payload.length then (payloadOversize m, .error .invalidParam)
  else if m.initialized then
    let msg := filledMessage senderId sequence payload nowMs
    let computed := checksumCrc64 m msg.covered
    (computed.1, .ok (msg.sealed computed.2))
  else (m, .error .notInitialized)

/- The copy of payload_size bytes starts at the payload and knows no other bound. -/
def checksumVitalMessageVerify (m : ChecksumManager) (msg : VitalMessage) (expectedSequence : UInt32)
    (payloadMaxSize : Nat) : ChecksumManager × Except RteStatus Bytes :=
  let checked := checksumCrc64Verify m msg.covered msg.crc64
  if checked.2.2 ≠ .ok then (checked.1, .error checked.2.2)
  else if msg.sequenceNumber ≠ expectedSequence then
    ({ checked.1 with stats :=
        { checked.1.stats with sequenceErrors := checked.1.stats.sequenceErrors + 1 } }, .error .dataCorruption)
  else if payloadMaxSize < msg.payloadSize.toNat then (payloadOversize checked.1, .error .invalidParam)
  else (checked.1, .ok (field msg.bytes vitalPayloadOffset msg.payloadSize.toNat))

structure SameTable (m m' : ChecksumManager) : Prop where
  ready : m'.initialized = m.initialized
  table : m'.table = m.table

theorem SameTable.trans {m m' m'' : ChecksumManager} (first : SameTable m m') (second : SameTable m' m'') :
    SameTable m m'' :=
  ⟨second.ready.trans first.ready, second.table.trans first.table⟩

theorem SameTable.symm {m m' : ChecksumManager} (same : SameTable m m') : SameTable m' m :=
  ⟨same.ready.symm, same.table.symm⟩

theorem crcDepends {m m' : ChecksumManager} (same : SameTable m m') (data : Bytes) :
    (checksumCrc64 m' data).2 = (checksumCrc64 m data).2 := by
  simp only [checksumCrc64, same.ready, same.table]
  cases m.initialized <;> cases m.table <;> rfl

theorem intactDepends {m m' : ChecksumManager} (same : SameTable m m') (data : Bytes) (expected : UInt64) :
    (checksumCrc64Verify m' data expected).2.2 = (checksumCrc64Verify m data expected).2.2 := by
  simp only [checksumCrc64Verify, crcDepends same, same.ready]
  cases m.initialized
  · rfl
  · simp only [if_true]
    split <;> rfl

theorem intactIff {m : ChecksumManager} (ready : m.initialized = true) (data : Bytes) (expected : UInt64) :
    (checksumCrc64Verify m data expected).2.2 = .ok ↔ (checksumCrc64 m data).2 = expected := by
  simp only [checksumCrc64Verify, ready, if_true]
  split <;> simp [*]

theorem sealedIntact {m : ChecksumManager} (ready : m.initialized = true) (msg : VitalMessage) :
    (checksumCrc64Verify m (msg.sealed (checksumCrc64 m msg.covered).2).covered
      (msg.sealed (checksumCrc64 m msg.covered).2).crc64).2.2 = .ok :=
  (intactIff ready _ _).mpr rfl

theorem crcKeeps (m : ChecksumManager) (data : Bytes) : SameTable m (checksumCrc64 m data).1 := by
  unfold checksumCrc64
  split
  · split <;> exact ⟨rfl, rfl⟩
  · exact ⟨rfl, rfl⟩

theorem crcVerifyKeeps (m : ChecksumManager) (data : Bytes) (expected : UInt64) :
    SameTable m (checksumCrc64Verify m data expected).1 := by
  have kept := crcKeeps m data
  unfold checksumCrc64Verify
  split
  · dsimp only
    split <;> exact ⟨kept.ready, kept.table⟩
  · exact ⟨rfl, rfl⟩

theorem createKeeps (m : ChecksumManager) (senderId sequence : UInt32) (payload : Bytes) (nowMs : UInt64) :
    SameTable m (checksumVitalMessageCreate m senderId sequence payload nowMs).1 := by
  unfold checksumVitalMessageCreate
  split
  · exact ⟨rfl, rfl⟩
  split
  · exact crcKeeps m _
  · exact ⟨rfl, rfl⟩

theorem verifyKeeps (m : ChecksumManager) (msg : VitalMessage) (expected : UInt32) (room : Nat) :
    SameTable m (checksumVitalMessageVerify m msg expected room).1 := by
  have kept := crcVerifyKeeps m msg.covered msg.crc64
  unfold checksumVitalMessageVerify
  dsimp only
  split
  · exact kept
  split
  · exact ⟨kept.ready, kept.table⟩
  split
  · exact ⟨kept.ready, kept.table⟩
  · exact kept

theorem createsMessage {m : ChecksumManager} (ready : m.initialized = true) (senderId sequence : UInt32)
    {payload : Bytes} (short : payload.length ≤ vitalPayloadMax) (nowMs : UInt64) :
    checksumVitalMessageCreate m senderId sequence payload nowMs =
      ((checksumCrc64 m (filledMessage senderId sequence payload nowMs).covered).1,
        .ok ((filledMessage senderId sequence payload nowMs).sealed
          (checksumCrc64 m (filledMessage senderId sequence payload nowMs).covered).2)) := by
  unfold checksumVitalMessageCreate
  rw [if_neg (Nat.not_lt.mpr short), if_pos ready]

theorem createdMessage {m : ChecksumManager} {senderId sequence : UInt32} {payload : Bytes} {nowMs : UInt64}
    {m' : ChecksumManager} {msg : VitalMessage}
    (created : checksumVitalMessageCreate m senderId sequence payload nowMs = (m', .ok msg)) :
    m.initialized = true ∧ payload.length ≤ vitalPayloadMax ∧
      msg = (filledMessage senderId sequence payload nowMs).sealed
        (checksumCrc64 m (filledMessage senderId sequence payload nowMs).covered).2 := by
  unfold checksumVitalMessageCreate at created
  split at created
  · cases created
  rename_i fits
  split at created
  · rename_i ready
    cases created
    exact ⟨ready, Nat.le_of_not_lt fits, rfl⟩
  · cases created

theorem verifiedMessage {m : ChecksumManager} {msg : VitalMessage} {expected : UInt32} {room : Nat}
    {m' : ChecksumManager} {payload : Bytes}
    (verified : checksumVitalMessageVerify m msg expected room = (m', .ok payload)) :
    (checksumCrc64Verify m msg.covered msg.crc64).2.2 = .ok ∧ msg.sequenceNumber = expected ∧
      msg.payloadSize.toNat ≤ room ∧ payload = field msg.bytes vitalPayloadOffset msg.payloadSize.toNat := by
  unfold checksumVitalMessageVerify at verified
  dsimp only at verified
  split at verified
  · cases verified
  rename_i intact
  split at verified
  · cases verified
  rename_i inOrder
  split at verified
  · cases verified
  rename_i fits
  cases verified
  exact ⟨not_not.mp intact, not_not.mp inOrder, Nat.le_of_not_lt fits, rfl⟩

theorem createRefused {m : ChecksumManager} {senderId sequence : UInt32} {payload : Bytes} {nowMs : UInt64}
    {m' : ChecksumManager} {status : RteStatus}
    (refused : checksumVitalMessageCreate m senderId sequence payload nowMs = (m', .error status)) : status ≠ .ok := by
  unfold checksumVitalMessageCreate at refused
  split at refused
  · cases refused
    simp
  split at refused <;> cases refused
  simp

theorem verifyRefused {m : ChecksumManager} {msg : VitalMessage} {expected : UInt32} {room : Nat}
    {m' : ChecksumManager} {status : RteStatus}
    (refused : checksumVitalMessageVerify m msg expected room = (m', .error status)) : status ≠ .ok := by
  unfold checksumVitalMessageVerify at refused
  dsimp only at refused
  split at refused
  · rename_i corrupt
    cases refused
    exact corrupt
  split at refused
  · cases refused
    simp
  split at refused <;> cases refused
  simp

theorem payloadField {payload : Bytes} (short : payload.length ≤ vitalPayloadMax) (senderId sequence : UInt32)
    (nowMs crc64 : UInt64) :
    field ((filledMessage senderId sequence payload nowMs).sealed crc64).bytes vitalPayloadOffset payload.length =
      payload := by
  have cut := fieldAppend (leBytes 4 sequence.toNat ++ leBytes 4 senderId.toNat ++ leBytes 4 nowMs.toUInt32.toNat ++
    [UInt8.ofNat payload.length, 0] ++ leBytes 2 (0 : UInt16).toNat) payload
    (List.replicate (vitalPayloadMax - payload.length) 0 ++ leBytes 8 crc64.toNat)
  have offset : (leBytes 4 sequence.toNat ++ leBytes 4 senderId.toNat ++ leBytes 4 nowMs.toUInt32.toNat ++
      [UInt8.ofNat payload.length, 0] ++ leBytes 2 (0 : UInt16).toNat).length = vitalPayloadOffset := by
    simp [vitalPayloadOffset]
  rw [offset] at cut
  simp only [VitalMessage.bytes, VitalMessage.covered, VitalMessage.sealed, filledMessage, fit,
    List.take_of_length_le short]
  simpa only [List.append_assoc] using cut

theorem payloadSizeFilled {payload : Bytes} (short : payload.length ≤ vitalPayloadMax) (senderId sequence : UInt32)
    (nowMs : UInt64) : (filledMessage senderId sequence payload nowMs).payloadSize.toNat = payload.length := by
  change (UInt8.ofNat payload.length).toNat = payload.length
  rw [UInt8.toNat_ofNat']
  exact Nat.mod_eq_of_lt (Nat.lt_of_le_of_lt short (by decide))

theorem payloadOnwards (msg : VitalMessage) :
    msg.bytes.drop vitalPayloadOffset = msg.payload ++ leBytes 8 msg.crc64.toNat := by
  have header : (leBytes 4 msg.sequenceNumber.toNat ++ leBytes 4 msg.senderId.toNat ++ leBytes 4 msg.timestampMs.toNat ++
      [msg.payloadSize, msg.padding] ++ leBytes 2 msg.reserved.toNat).length = vitalPayloadOffset := by
    simp [vitalPayloadOffset]
  rw [VitalMessage.bytes, VitalMessage.covered, List.append_assoc, ← header, List.drop_left]

theorem payloadTaken (msg : VitalMessage) {size : Nat} (short : size ≤ vitalPayloadMax) :
    field msg.bytes vitalPayloadOffset size = msg.payload.take size := by
  have room : size ≤ msg.payload.length := by rw [msg.payloadLength]; exact short
  rw [field, payloadOnwards, List.take_append_of_le_length room]

theorem verifyAccepts {m : ChecksumManager} {msg : VitalMessage} {expected : UInt32} {room : Nat}
    (intact : (checksumCrc64Verify m msg.covered msg.crc64).2.2 = .ok) (inOrder : msg.sequenceNumber = expected)
    (fits : msg.payloadSize.toNat ≤ room) :
    (checksumVitalMessageVerify m msg expected room).2 =
      .ok (field msg.bytes vitalPayloadOffset msg.payloadSize.toNat) := by
  unfold checksumVitalMessageVerify
  dsimp only
  rw [if_neg (not_not.mpr intact), if_neg (not_not.mpr inOrder), if_neg (Nat.not_lt.mpr fits)]

theorem verifyOtherNumber {m : ChecksumManager} {msg : VitalMessage} {expected : UInt32} {room : Nat}
    (intact : (checksumCrc64Verify m msg.covered msg.crc64).2.2 = .ok) (other : msg.sequenceNumber ≠ expected) :
    (checksumVitalMessageVerify m msg expected room).2 = .error .dataCorruption := by
  unfold checksumVitalMessageVerify
  dsimp only
  rw [if_neg (not_not.mpr intact), if_pos other]

theorem createdCarries {m : ChecksumManager} {senderId sequence : UInt32} {payload : Bytes} {nowMs : UInt64}
    {m' : ChecksumManager} {msg : VitalMessage}
    (created : checksumVitalMessageCreate m senderId sequence payload nowMs = (m', .ok msg)) :
    msg.sequenceNumber = sequence ∧ msg.payloadSize.toNat = payload.length ∧
      field msg.bytes vitalPayloadOffset msg.payloadSize.toNat = payload := by
  obtain ⟨_, short, same⟩ := createdMessage created
  have size : msg.payloadSize.toNat = payload.length := by
    rw [same]
    exact payloadSizeFilled short senderId sequence nowMs
  refine ⟨by rw [same]; rfl, size, ?_⟩
  rw [size, same, payloadField short]

theorem createdIntact {m : ChecksumManager} {senderId sequence : UInt32} {payload : Bytes} {nowMs : UInt64}
    {m' : ChecksumManager} {msg : VitalMessage}
    (created : checksumVitalMessageCreate m senderId sequence payload nowMs = (m', .ok msg)) {v : ChecksumManager}
    (same : SameTable m v) : (checksumCrc64Verify v msg.covered msg.crc64).2.2 = .ok := by
  obtain ⟨initialized, _, made⟩ := createdMessage created
  rw [intactIff (same.ready.trans initialized), crcDepends same, made]
  rfl

theorem createdVerifies {m : ChecksumManager} {senderId sequence : UInt32} {payload : Bytes} {nowMs : UInt64}
    {m' : ChecksumManager} {msg : VitalMessage}
    (created : checksumVitalMessageCreate m senderId sequence payload nowMs = (m', .ok msg)) {v : ChecksumManager}
    (ready : v.initialized = true) (table : v.table = m.table) {room : Nat} (fits : payload.length ≤ room) :
    (checksumVitalMessageVerify v msg sequence room).2 = .ok payload := by
  obtain ⟨initialized, _, _⟩ := createdMessage created
  obtain ⟨number, size, carried⟩ := createdCarries created
  have intact := createdIntact created ⟨ready.trans initialized.symm, table⟩
  rw [verifyAccepts intact number (size.trans_le fits), carried]

end PlatformRte.Checksum
