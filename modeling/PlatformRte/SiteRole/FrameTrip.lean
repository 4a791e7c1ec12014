import PlatformRte.SiteRole.HealthyLink
import PlatformRte.SiteRole.Received

/-! A frame on its way from one site to the other: encoded by the sender, carried as the
payload of one DATA message, and decoded by the counterpart. -/
namespace PlatformRte.SiteRole
open Bytes PlatformRte.Dual PlatformRte.Dual.Channel Checksum

structure Learned (faulted singleMode : Bool) (cycle : UInt32) (online : Bool) (before after : RteSiteRole) : Prop where
  peerFaulted : after.peerFaulted = faulted
  peerSingleMode : after.peerSingleMode = if singleMode then 1 else 0
  peerOnlineNow : after.peerOnlineNow = (online && !faulted)
  answering : after.peerLastRxCycle = before.cycle
  confirmed : after.peerUnresponsive = false ∧ after.takeoverConfirmed = false
  snapshot : online = true →
    after.peerSnapshotCycle = cycle ∧ after.peerSnapshotValid = true ∧ after.standbyRxCycle = before.cycle
  noSnapshot : online = false → after.peerSnapshotCycle = before.peerSnapshotCycle ∧
    after.peerSnapshotValid = before.peerSnapshotValid ∧ after.standbyRxCycle = before.standbyRxCycle

section Decoded
variable {frameSize : Nat} (rs : RteSiteRole) (faulted singleMode : Bool) (cycle : UInt32) (online : Bool)
  (region : Bytes)

theorem bufferedFrame (room : frameOverhead < frameSize) (size : rs.cfg.frameSize = frameSize) :
    (buffered rs (encodeFrame frameSize faulted singleMode cycle online region)).rxBuf =
      encodeFrame frameSize faulted singleMode cycle online region ++ rs.rxBuf.drop frameSize := by
  have length := encodedLength faulted singleMode cycle online region room
  rw [buffered, size, List.take_of_length_le (Nat.le_of_eq length), overwrite, length]

theorem frameStated (accepted : Bool) (room : frameOverhead < frameSize) (size : rs.cfg.frameSize = frameSize) :
    receivedState rs ⟨.ok, encodeFrame frameSize faulted singleMode cycle online region, accepted⟩ =
      some (fit (stateSize frameSize) region, online) := by
  have inside : frameStateOffset ≤ rs.cfg.frameSize := by
    rw [size]
    exact Nat.le_of_lt (Nat.lt_trans (by decide) room)
  simp only [receivedState, inside, and_self, if_true]
  rw [bufferedFrame rs faulted singleMode cycle online region room size, size, encodedState,
    encodedValid faulted singleMode cycle online region _ room]

theorem frameLearned (room : frameOverhead < frameSize) (size : rs.cfg.frameSize = frameSize) :
    Learned faulted singleMode cycle online rs
      (decodeFrame (buffered rs (encodeFrame frameSize faulted singleMode cycle online region))) := by
  have front := bufferedFrame rs faulted singleMode cycle online region room size
  have valid : frameValid rs.cfg.frameSize
      (buffered rs (encodeFrame frameSize faulted singleMode cycle online region)).rxBuf = online := by
    rw [front, size]
    exact encodedValid faulted singleMode cycle online region _ room
  have mark : frameFaulted (buffered rs (encodeFrame frameSize faulted singleMode cycle online region)).rxBuf =
      faulted := by
    rw [front, encodedFaulted]
  have mode : frameSingleMode (buffered rs (encodeFrame frameSize faulted singleMode cycle online region)).rxBuf =
      if singleMode then 1 else 0 := by
    rw [front, encodedSingleMode]
  refine ⟨mark, mode, ?_, rfl, ⟨rfl, rfl⟩, ?_, ?_⟩
  · exact congrArg₂ (fun valid faulted => valid && !faulted) valid mark
  · rintro rfl
    have number : frameCycle (buffered rs (encodeFrame frameSize faulted singleMode cycle true region)).rxBuf =
        cycle := by
      rw [front, encodedCycle]
    refine ⟨(if_pos valid).trans number, ?_, if_pos valid⟩
    exact (congrArg (fun valid => valid || rs.peerSnapshotValid) valid).trans (Bool.true_or _)
  · rintro rfl
    have closed : ¬frameValid rs.cfg.frameSize
        (buffered rs (encodeFrame frameSize faulted singleMode cycle false region)).rxBuf = true := by
      rw [valid]
      exact Bool.false_ne_true
    refine ⟨if_neg closed, ?_, if_neg closed⟩
    exact (congrArg (fun valid => valid || rs.peerSnapshotValid) valid).trans (Bool.false_or _)

end Decoded

def Station.message (s : Station) (frame : Bytes) (answer : Answer) : Option VitalMessage :=
  match startCall s.wire.channel (.send frame) with
  | .inl call => (advance s.wire.channel s.wire.manager call answer).done.carried.map Prod.snd
  | .inr _ => none

theorem messageHolds {s : Station} {frame : Bytes} {answer : Answer} {message : VitalMessage}
    (sent : s.message frame answer = some message) : held message = dataFrame frame := by
  unfold Station.message at sent
  split at sent
  · rename_i call started
    obtain ⟨⟨raw, _⟩, carried, rfl⟩ := Option.map_eq_some_iff.mp sent
    have inside : 0 < s.wire.channel.linkCount := s.wire.channel.some_
    simp only [startCall] at started
    split at started
    · cases started
    · cases started
      simp only [advance, nextAction, inside, if_true, perform] at carried
      obtain ⟨posts, same, _⟩ := sendOnLinkPosts s.wire.channel s.wire.manager 0 (dataFrame frame) answer
      rw [held, (posts.numbered raw _ carried).2]
      exact same raw _ carried
  · cases sent

theorem messageMade {s : Station} {frame : Bytes} {answer : Answer} (ready : s.wire.manager.initialized = true)
    (small : frame.length ≤ dualChannelMaxPayload) (up : answer.linkStatus = .ok) :
    s.message frame answer = some (messageOf s.wire.manager (s.wire.channel.links 0).senderId
      (s.wire.channel.links 0).nextSequence (dataFrame frame) answer.stampMs) := by
  have inside : 0 < s.wire.channel.linkCount := s.wire.channel.some_
  have short : (dataFrame frame).length ≤ vitalPayloadMax := dataFrameShort small
  rw [Station.message, startCall, if_neg (Nat.not_lt.mpr small)]
  simp only [advance, nextAction, inside, if_true, perform, sendOnLink, dualMsgchannelSend,
    createsMessage ready _ _ short, up, Option.map_some]
  rfl

theorem messagePresented {channel : DualChannel} {m : ChecksumManager} {answer : Answer} {message : VitalMessage}
    {frame : Bytes} (free : channel.pendingData = none) (arrived : answer.arrival = .ok message)
    (inOrder : InOrder (channel.links 0) m message) (holds : held message = dataFrame frame) :
    presented channel m answer = some frame := by
  have accepted : (perform channel m answer (.poll 0)).accepted = some (message.sequenceNumber, held message) := by
    simp only [perform, pollLinkOnce, arrived, deliveredReceive inOrder]
  have staged := (pollAccess channel m answer 0).staged
  rw [accepted, Option.bind_some, holds, dataPayloadFrame] at staged
  rw [presented, free, Option.none_or]
  exact staged

/- A frame that is carried over the link is decoded to what was encoded, and if receive_state
refuses it nothing is learned. -/
theorem frameRoundTrip {sender receiver : Station} {faulted singleMode online : Bool} {cycle : UInt32} {region : Bytes}
    {sending receiving : Answer} {message : VitalMessage} (room : frameOverhead < receiver.rs.cfg.frameSize)
    (small : receiver.rs.cfg.frameSize ≤ dualChannelMaxPayload) (single : receiver.wire.channel.linkCount = 1)
    (free : receiver.wire.channel.pendingData = none)
    (sent : sender.message (encodeFrame receiver.rs.cfg.frameSize faulted singleMode cycle online region) sending =
      some message)
    (arrived : receiving.arrival = .ok message)
    (inOrder : InOrder (receiver.wire.channel.links 0) receiver.wire.manager message) (accepted : Bool) :
    ∃ after received, receiver.receive receiving accepted = some (after, received) ∧
      receivedState after.rs received = some (fit (stateSize receiver.rs.cfg.frameSize) region, online) ∧
      (accepted = true →
        Learned faulted singleMode cycle online receiver.rs (receiveFrame after.rs received).1) ∧
      (accepted = false → Unlearned receiver.rs (receiveFrame after.rs received).1) := by
  have byte : receiver.rs.cfg.frameSize ≤ 255 := Nat.le_trans small (by decide)
  have waits := messagePresented free arrived inOrder (messageHolds sent)
  obtain ⟨after, received, done, same, taken⟩ := Station.receivePresented room byte single waits accepted
  have fits : ¬receiver.rs.cfg.frameSize < (encodeFrame receiver.rs.cfg.frameSize faulted singleMode cycle online
      region).length := by
    rw [encodedLength faulted singleMode cycle online region room]
    exact Nat.lt_irrefl _
  rw [if_neg fits] at taken
  have stated := frameStated after.rs faulted singleMode cycle online region accepted room (by rw [same])
  rw [← taken] at stated
  refine ⟨after, received, done, stated, fun takes => ?_, fun refuses => ?_⟩
  · have decoded := acceptedDecoded (by rw [stated]; rfl) (by rw [taken]; exact takes)
    rw [decoded, same, taken]
    exact frameLearned receiver.rs faulted singleMode cycle online region room rfl
  · rw [← same]
    exact refusedUnlearned (by rw [taken]; exact refuses)

def snapshotFrame : Bytes := encodeFrame 8 false true 57 true [7]

def westWire : Station := ⟨initialState (smallSite true), 10, closedWire⟩

def eastWire : Station := ⟨initialState (smallSite false), 10, ⟨freshChannel 2 1 1 Nat.one_pos oneLinkFew, readyManager⟩⟩

theorem snapshotTrip : ∃ after received, eastWire.receive (hears 1 0 (dataFrame snapshotFrame)) true =
    some (after, received) ∧ receivedState after.rs received = some ([7], true) ∧
      (true = true → Learned false true 57 true eastWire.rs (receiveFrame after.rs received).1) ∧
      (true = false → Unlearned eastWire.rs (receiveFrame after.rs received).1) := by
  have room : frameOverhead < eastWire.rs.cfg.frameSize := by decide
  have sent : westWire.message snapshotFrame quiet = some (messageOf readyManager 1 0 (dataFrame snapshotFrame) 0) :=
    messageMade rfl (by decide) rfl
  exact frameRoundTrip room (by decide) rfl rfl sent rfl (messageInOrder rfl ⟨rfl, rfl⟩ (by decide) rfl rfl) true

end PlatformRte.SiteRole
