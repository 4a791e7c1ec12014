import PlatformRte.Checksum.VitalMessage

/-! One message channel over one link: every payload goes out in a vital message with
the sender's id and the next sequence number, and only the next one is let in. The
link is answered from outside. -/
namespace PlatformRte.Dual
open Checksum

abbrev Arrival := Except {status : RteStatus // status ≠ .ok} VitalMessage

structure DualMsgchannelConfig where
  -- whether a link handle was given
  link : Bool
  senderId : UInt32
  expectedPeerId : UInt32
  deriving DecidableEq, Repr

structure DualMsgchannel where
  senderId : UInt32
  expectedPeerId : UInt32
  nextSequence : UInt32
  expectedSequence : UInt32
  resyncOnSequenceError : Bool
  deriving DecidableEq, Repr

def dualMsgchannelInit (config : DualMsgchannelConfig) : Except RteStatus DualMsgchannel :=
  if config.link then .ok ⟨config.senderId, config.expectedPeerId, 0, 0, false⟩ else .error .invalidParam

def setResyncOnSequenceError (channel : DualMsgchannel) (enable : Bool) : DualMsgchannel :=
  { channel with resyncOnSequenceError := enable }

/- frame: what was handed to the link, if it came to that. -/
structure SendResult where
  channel : DualMsgchannel
  manager : ChecksumManager
  status : RteStatus
  frame : Option VitalMessage

def dualMsgchannelSend (channel : DualMsgchannel) (m : ChecksumManager) (payload : Bytes) (nowMs : UInt64)
    (linkStatus : RteStatus) : SendResult :=
  match checksumVitalMessageCreate m channel.senderId channel.nextSequence payload nowMs with
  | (m, .error status) => ⟨channel, m, status, none⟩
  | (m, .ok frame) =>
      -- a retry after a failure uses the same number again
      if linkStatus = .ok then
        ⟨{ channel with nextSequence := channel.nextSequence + 1 }, m, .ok, some frame⟩
      else ⟨channel, m, linkStatus, some frame⟩

/- delivered: the payload and the sequence number handed to the caller. -/
structure ReceiveResult where
  channel : DualMsgchannel
  manager : ChecksumManager
  status : RteStatus
  delivered : Option (Bytes × UInt32)

def resync (channel : DualMsgchannel) (m : ChecksumManager) (frame : VitalMessage) (status : RteStatus) :
    DualMsgchannel × ChecksumManager :=
  if status = .dataCorruption ∧ channel.resyncOnSequenceError = true ∧
      frame.sequenceNumber ≠ channel.expectedSequence then
    let checked := checksumCrc64Verify m frame.covered frame.crc64
    (if checked.2.2 = .ok then { channel with expectedSequence := frame.sequenceNumber + 1 } else channel, checked.1)
  else (channel, m)

def dualMsgchannelReceive (channel : DualMsgchannel) (m : ChecksumManager) (payloadMaxSize : UInt8)
    (arrival : Arrival) : ReceiveResult :=
  if payloadMaxSize = 0 then ⟨channel, m, .invalidParam, none⟩
  else
    match arrival with
    | .error status => ⟨channel, m, status, none⟩
    | .ok frame =>
        if frame.senderId ≠ channel.expectedPeerId then ⟨channel, m, .hardwareFault, none⟩
        else
          match checksumVitalMessageVerify m frame channel.expectedSequence payloadMaxSize.toNat with
          | (m, .error status) =>
              let synced := resync channel m frame status
              ⟨synced.1, synced.2, status, none⟩
          | (m, .ok payload) =>
              ⟨{ channel with expectedSequence := frame.sequenceNumber + 1 }, m, .ok,
                some (payload, frame.sequenceNumber)⟩

theorem sendCases (channel : DualMsgchannel) (m : ChecksumManager) (payload : Bytes) (nowMs : UInt64)
    (linkStatus : RteStatus) :
    ((dualMsgchannelSend channel m payload nowMs linkStatus).status ≠ .ok ∧
        (dualMsgchannelSend channel m payload nowMs linkStatus).channel = channel) ∨
      ∃ m' frame, linkStatus = .ok ∧
        checksumVitalMessageCreate m channel.senderId channel.nextSequence payload nowMs = (m', .ok frame) ∧
        dualMsgchannelSend channel m payload nowMs linkStatus =
          ⟨{ channel with nextSequence := channel.nextSequence + 1 }, m', .ok, some frame⟩ := by
  unfold dualMsgchannelSend
  cases created : checksumVitalMessageCreate m channel.senderId channel.nextSequence payload nowMs with
  | mk m' result =>
    cases result with
    | error status => exact Or.inl ⟨createRefused created, rfl⟩
    | ok frame =>
      by_cases up : linkStatus = .ok
      · exact Or.inr ⟨m', frame, up, rfl, by simp [up]⟩
      · simp [up]

inductive ReceiveOutcome (channel : DualMsgchannel) (m : ChecksumManager) (room : UInt8) (arrival : Arrival)
    (result : ReceiveResult) : Prop where
  | accepted (m' : ChecksumManager) (frame : VitalMessage) (payload : Bytes) (arrived : arrival = .ok frame)
      (peer : frame.senderId = channel.expectedPeerId)
      (verified : checksumVitalMessageVerify m frame channel.expectedSequence room.toNat = (m', .ok payload))
      (same : result = ⟨{ channel with expectedSequence := frame.sequenceNumber + 1 }, m', .ok,
        some (payload, frame.sequenceNumber)⟩)
  | followed (frame : VitalMessage) (arrived : arrival = .ok frame) (peer : frame.senderId = channel.expectedPeerId)
      (intact : (checksumCrc64Verify m frame.covered frame.crc64).2.2 = .ok)
      (other : frame.sequenceNumber ≠ channel.expectedSequence) (follows : channel.resyncOnSequenceError = true)
      (status : result.status = .dataCorruption)
      (same : result.channel = { channel with expectedSequence := frame.sequenceNumber + 1 })
      (nothing : result.delivered = none)
  | refused (status : result.status ≠ .ok) (same : result.channel = channel) (nothing : result.delivered = none)

theorem receiveOutcome (channel : DualMsgchannel) (m : ChecksumManager) (room : UInt8) (arrival : Arrival) :
    ReceiveOutcome channel m room arrival (dualMsgchannelReceive channel m room arrival) := by
  unfold dualMsgchannelReceive
  split
  · exact .refused (by simp) rfl rfl
  cases arrival with
  | error status => exact .refused status.2 rfl rfl
  | ok frame =>
    dsimp only
    split
    · exact .refused (by simp) rfl rfl
    rename_i peer
    cases verified : checksumVitalMessageVerify m frame channel.expectedSequence room.toNat with
    | mk m' result =>
      cases result with
      | ok payload => exact .accepted m' frame payload rfl (not_not.mp peer) verified rfl
      | error status =>
        have refused := verifyRefused verified
        dsimp only
        by_cases other : status = .dataCorruption ∧ channel.resyncOnSequenceError = true ∧
            frame.sequenceNumber ≠ channel.expectedSequence
        · obtain ⟨rfl, follows, number⟩ := other
          have kept := verifyKeeps m frame channel.expectedSequence room.toNat
          rw [verified] at kept
          by_cases intact : (checksumCrc64Verify m' frame.covered frame.crc64).2.2 = .ok
          · refine .followed frame rfl (not_not.mp peer) ?_ number follows rfl ?_ rfl
            · rw [← intactDepends kept]
              exact intact
            · simp [resync, follows, number, intact]
          · refine .refused refused ?_ rfl
            simp [resync, follows, number, intact]
        · refine .refused refused ?_ rfl
          simp only [resync, if_neg other]

theorem receiveCases {channel : DualMsgchannel} (strict : channel.resyncOnSequenceError = false)
    (m : ChecksumManager) (room : UInt8) (arrival : Arrival) :
    ((dualMsgchannelReceive channel m room arrival).status ≠ .ok ∧
        (dualMsgchannelReceive channel m room arrival).channel = channel ∧
        (dualMsgchannelReceive channel m room arrival).delivered = none) ∨
      ∃ m' frame payload, arrival = .ok frame ∧ frame.senderId = channel.expectedPeerId ∧
        checksumVitalMessageVerify m frame channel.expectedSequence room.toNat = (m', .ok payload) ∧
        dualMsgchannelReceive channel m room arrival =
          ⟨{ channel with expectedSequence := frame.sequenceNumber + 1 }, m', .ok,
            some (payload, frame.sequenceNumber)⟩ := by
  cases receiveOutcome channel m room arrival with
  | accepted m' frame payload arrived peer verified same =>
    exact Or.inr ⟨m', frame, payload, arrived, peer, verified, same⟩
  | followed _ _ _ _ _ follows => simp [strict] at follows
  | refused status same nothing => exact Or.inl ⟨status, same, nothing⟩

theorem receiveWrongSender {channel : DualMsgchannel} {m : ChecksumManager} {room : UInt8} {frame : VitalMessage}
    (open_ : room ≠ 0) (wrong : frame.senderId ≠ channel.expectedPeerId) :
    dualMsgchannelReceive channel m room (.ok frame) = ⟨channel, m, .hardwareFault, none⟩ := by
  unfold dualMsgchannelReceive
  rw [if_neg open_]
  exact if_pos wrong

theorem receiveVerified {channel : DualMsgchannel} {m : ChecksumManager} {room : UInt8} {frame : VitalMessage}
    (open_ : room ≠ 0) (peer : frame.senderId = channel.expectedPeerId) :
    dualMsgchannelReceive channel m room (.ok frame) =
      match checksumVitalMessageVerify m frame channel.expectedSequence room.toNat with
      | (m, .error status) => ⟨(resync channel m frame status).1, (resync channel m frame status).2, status, none⟩
      | (m, .ok payload) =>
          ⟨{ channel with expectedSequence := frame.sequenceNumber + 1 }, m, .ok,
            some (payload, frame.sequenceNumber)⟩ := by
  unfold dualMsgchannelReceive
  rw [if_neg open_]
  exact if_neg (not_not.mpr peer)

theorem receiveAccepts {channel : DualMsgchannel} {m : ChecksumManager} {room : UInt8} {frame : VitalMessage}
    {payload : Bytes} (open_ : room ≠ 0) (peer : frame.senderId = channel.expectedPeerId)
    (verified : (checksumVitalMessageVerify m frame channel.expectedSequence room.toNat).2 = .ok payload) :
    (dualMsgchannelReceive channel m room (.ok frame)).status = .ok ∧
      (dualMsgchannelReceive channel m room (.ok frame)).delivered = some (payload, frame.sequenceNumber) ∧
      (dualMsgchannelReceive channel m room (.ok frame)).channel =
        { channel with expectedSequence := frame.sequenceNumber + 1 } := by
  cases checked : checksumVitalMessageVerify m frame channel.expectedSequence room.toNat with
  | mk m' result =>
    rw [checked] at verified
    cases verified
    rw [receiveVerified open_ peer, checked]
    exact ⟨rfl, rfl, rfl⟩

theorem receiveFollows {channel : DualMsgchannel} {m : ChecksumManager} {room : UInt8} {frame : VitalMessage}
    (open_ : room ≠ 0) (peer : frame.senderId = channel.expectedPeerId)
    (intact : (checksumCrc64Verify m frame.covered frame.crc64).2.2 = .ok)
    (other : frame.sequenceNumber ≠ channel.expectedSequence) (follows : channel.resyncOnSequenceError = true) :
    (dualMsgchannelReceive channel m room (.ok frame)).status = .dataCorruption ∧
      (dualMsgchannelReceive channel m room (.ok frame)).channel =
        { channel with expectedSequence := frame.sequenceNumber + 1 } := by
  have rejected : (checksumVitalMessageVerify m frame channel.expectedSequence room.toNat).2 =
      .error .dataCorruption := verifyOtherNumber intact other
  have kept := verifyKeeps m frame channel.expectedSequence room.toNat
  cases checked : checksumVitalMessageVerify m frame channel.expectedSequence room.toNat with
  | mk m' result =>
    rw [checked] at rejected kept
    cases rejected
    rw [receiveVerified open_ peer, checked]
    have intact' := (intactDepends kept frame.covered frame.crc64).trans intact
    exact ⟨rfl, by simp [resync, follows, other, intact']⟩

theorem receiveKeepsTable (channel : DualMsgchannel) (m : ChecksumManager) (room : UInt8) (arrival : Arrival) :
    SameTable m (dualMsgchannelReceive channel m room arrival).manager := by
  unfold dualMsgchannelReceive
  split
  · exact ⟨rfl, rfl⟩
  cases arrival with
  | error status => exact ⟨rfl, rfl⟩
  | ok frame =>
    dsimp only
    split
    · exact ⟨rfl, rfl⟩
    have kept := verifyKeeps m frame channel.expectedSequence room.toNat
    cases checked : checksumVitalMessageVerify m frame channel.expectedSequence room.toNat with
    | mk m' result =>
      rw [checked] at kept
      cases result with
      | ok payload => exact kept
      | error status =>
        unfold resync
        dsimp only
        split
        · exact kept.trans (crcVerifyKeeps m' _ _)
        · exact kept

end PlatformRte.Dual
