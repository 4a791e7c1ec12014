import PlatformRte.Dual.Channel

/-! What one access to a link can do to the channel: which messages it hands over and
lets in, what it stages, and what it leaves alone. -/
namespace PlatformRte.Dual.Channel
open Bytes Checksum

def Injected (link : DualMsgchannel) (m : ChecksumManager) (frame : VitalMessage) : Prop :=
  frame.senderId ≠ link.expectedPeerId ∨ (checksumCrc64Verify m frame.covered frame.crc64).2.2 ≠ .ok

def dataPayload (raw : Bytes) : Option Bytes :=
  if headerSize ≤ raw.length ∧ frameKind raw = some .data then some (raw.drop headerSize) else none

def ackNumber (raw : Bytes) : Option UInt32 :=
  if ackFrameSize ≤ raw.length ∧ frameKind raw = some .ack then some (readAckedSequence raw) else none

@[simp] theorem frameKindHeader (kind : FrameKind) (rest : Bytes) :
    frameKind (frameHeader kind ++ rest) = some kind := by
  cases kind <;> simp [frameKind, frameHeader, FrameKind.toByte, FrameKind.ofByte]

@[simp] theorem headerLength (kind : FrameKind) : (frameHeader kind).length = headerSize := rfl

theorem dataPayloadFrame (payload : Bytes) : dataPayload (dataFrame payload) = some payload := by
  simp only [dataPayload, dataFrame, List.length_append, headerLength, frameKindHeader]
  rw [if_pos ⟨Nat.le_add_right _ _, True.intro⟩, ← headerLength .data, List.drop_left]

theorem dataFrameShort {payload : Bytes} (small : payload.length ≤ dualChannelMaxPayload) :
    (dataFrame payload).length ≤ vitalPayloadMax := by
  have header : headerSize ≤ vitalPayloadMax := by decide
  simp only [dataFrame, List.length_append, headerLength, dualChannelMaxPayload] at small ⊢
  omega

theorem ackNumberFrame (number : UInt32) : ackNumber (ackFrame number) = some number := by
  have length : (ackFrame number).length = ackFrameSize := by simp [ackFrame, ackFrameSize, headerSize]
  have read : readLe (ackFrame number) headerSize 4 = number.toNat := by
    have back := readLeAppend (frameHeader .ack) [] 4 number.toNat number.toNat_lt
    rwa [List.append_nil, headerLength] at back
  have kind : frameKind (ackFrame number) = some .ack := frameKindHeader _ _
  simp [ackNumber, length, kind, readAckedSequence, read]

structure Posts (channel : DualChannel) (i : Nat) (carried : Option (Bytes × VitalMessage)) (after : DualChannel) :
    Prop where
  count : after.linkCount = channel.linkCount
  up : after.linkUp = channel.linkUp
  lastStatus : after.lastStatus = channel.lastStatus
  callback : after.statusCallback = channel.statusCallback
  timeout : after.ackTimeoutMs = channel.ackTimeoutMs
  ids : ∀ j, (after.links j).senderId = (channel.links j).senderId ∧
    (after.links j).expectedPeerId = (channel.links j).expectedPeerId
  next : ∀ j, (after.links j).nextSequence =
    (channel.links j).nextSequence + if j = i ∧ carried.isSome = true then 1 else 0
  numbered : ∀ raw frame, carried = some (raw, frame) →
    frame.sequenceNumber = (channel.links i).nextSequence ∧
      field frame.bytes vitalPayloadOffset frame.payloadSize.toNat = raw

theorem postsNothing {channel after : DualChannel} {i : Nat} (count : after.linkCount = channel.linkCount)
    (up : after.linkUp = channel.linkUp) (lastStatus : after.lastStatus = channel.lastStatus)
    (callback : after.statusCallback = channel.statusCallback) (timeout : after.ackTimeoutMs = channel.ackTimeoutMs)
    (ids : ∀ j, (after.links j).senderId = (channel.links j).senderId ∧
      (after.links j).expectedPeerId = (channel.links j).expectedPeerId)
    (next : ∀ j, (after.links j).nextSequence = (channel.links j).nextSequence) : Posts channel i none after :=
  ⟨count, up, lastStatus, callback, timeout, ids, by simp [next], by simp⟩

theorem Posts.after {channel middle last : DualChannel} {i : Nat} {carried : Option (Bytes × VitalMessage)}
    (second : Posts middle i carried last) (first : Posts channel i none middle) : Posts channel i carried last := by
  have next : ∀ j, (middle.links j).nextSequence = (channel.links j).nextSequence := by simpa using first.next
  refine ⟨second.count.trans first.count, second.up.trans first.up, second.lastStatus.trans first.lastStatus,
    second.callback.trans first.callback, second.timeout.trans first.timeout, fun j => ?_, fun j => ?_, ?_⟩
  · exact ⟨(second.ids j).1.trans (first.ids j).1, (second.ids j).2.trans (first.ids j).2⟩
  · rw [second.next, next]
  · rw [← next i]
    exact second.numbered

theorem withLinkSame (channel : DualChannel) (i : Nat) : withLink channel i (channel.links i) = channel := by
  simp [withLink]

theorem sendOnLinkPosts (channel : DualChannel) (m : ChecksumManager) (i : Nat) (raw : Bytes) (answer : Answer) :
    let done := sendOnLink channel m i raw answer
    Posts channel i done.carried done.channel ∧ (∀ sent frame, done.carried = some (sent, frame) → sent = raw) ∧
      (done.status = .ok ↔ done.carried.isSome = true) ∧ done.channel.pendingData = channel.pendingData := by
  dsimp only
  rcases sendCases (channel.links i) m raw answer.stampMs answer.linkStatus with
    ⟨failed, same⟩ | ⟨m', frame, _, created, same⟩
  · have after : (sendOnLink channel m i raw answer).channel = channel := by
      simp only [sendOnLink, same, withLinkSame]
    have carried : (sendOnLink channel m i raw answer).carried = none := by
      simp only [sendOnLink, if_neg failed]
    rw [after, carried]
    refine ⟨postsNothing rfl rfl rfl rfl rfl (fun _ => ⟨rfl, rfl⟩) fun _ => rfl, by simp, ?_, rfl⟩
    simpa [sendOnLink] using failed
  · obtain ⟨number, _, held⟩ := createdCarries created
    have after : (sendOnLink channel m i raw answer).channel =
        withLink channel i { channel.links i with nextSequence := (channel.links i).nextSequence + 1 } := by
      simp only [sendOnLink, same]
    have carried : (sendOnLink channel m i raw answer).carried = some (raw, frame) := by
      simp [sendOnLink, same]
    have status : (sendOnLink channel m i raw answer).status = .ok := by
      simp only [sendOnLink, same]
    rw [after, carried]
    refine ⟨⟨rfl, rfl, rfl, rfl, rfl, fun j => ?_, fun j => ?_, ?_⟩, ?_, by simp [status], rfl⟩
    · rcases eq_or_ne j i with rfl | elsewhere
      · simp [withLink]
      · simp [withLink, elsewhere]
    · rcases eq_or_ne j i with rfl | elsewhere
      · simp [withLink]
      · simp [withLink, elsewhere]
    · intro _ _ same'
      cases same'
      exact ⟨number, held⟩
    · intro _ _ same'
      cases same'
      rfl

structure Dispatched (channel : DualChannel) (i : Nat) (raw : Bytes) (sequence : UInt32) (done : Performed) : Prop where
  posts : Posts channel i done.carried done.channel
  answers : ∀ sent frame, done.carried = some (sent, frame) → sent = ackFrame sequence
  staged : done.staged = dataPayload raw
  slot : done.channel.pendingData = done.staged.or channel.pendingData
  acked : ∀ number, done.matched = some (.ack number) ↔ ackNumber raw = some number
  status : done.status ≠ .hardwareFault ∧ (done.matched.isSome = true → done.status = .ok)

section Dispatch
variable {channel : DualChannel} {m : ChecksumManager} {i : Nat} {raw : Bytes} {sequence : UInt32} {answer : Answer}

theorem dispatchedIdle (state : Option DualStateFrame) {status : RteStatus} {matched : Option Matched}
    (noData : dataPayload raw = none) (acked : ∀ number, matched = some (.ack number) ↔ ackNumber raw = some number)
    (fine : status ≠ .hardwareFault ∧ (matched.isSome = true → status = .ok)) :
    Dispatched channel i raw sequence
      ⟨{ channel with pendingState := state }, m, status, sequence, matched, none, none, none⟩ :=
  ⟨postsNothing rfl rfl rfl rfl rfl (fun _ => ⟨rfl, rfl⟩) fun _ => rfl, by simp, noData.symm, rfl, acked, fine⟩

theorem dispatchedAnswer {matched : Matched} (staged : Option Bytes) (data : staged = dataPayload raw)
    (notAck : ackNumber raw = none) (other : ∀ number, matched ≠ .ack number) :
    Dispatched channel i raw sequence
      (autoAck { channel with pendingData := staged.or channel.pendingData } m i sequence matched staged answer) := by
  obtain ⟨posts, same, _, slot⟩ := sendOnLinkPosts { channel with pendingData := staged.or channel.pendingData } m i
    (ackFrame sequence) answer
  have first : Posts channel i none { channel with pendingData := staged.or channel.pendingData } :=
    postsNothing rfl rfl rfl rfl rfl (fun _ => ⟨rfl, rfl⟩) fun _ => rfl
  exact ⟨posts.after first, same, data, slot, by simp [autoAck, notAck, other], by simp [autoAck]⟩

variable (channel m i sequence answer) in
theorem dispatchFrameDone (short : raw.length ≤ vitalPayloadMax) :
    Dispatched channel i raw sequence (dispatchFrame channel m i raw sequence answer) := by
  unfold dispatchFrame
  dsimp only
  split
  · rename_i tooShort
    refine dispatchedIdle channel.pendingState ?_ ?_ (by simp)
    · simp [dataPayload, Nat.not_le.mpr tooShort]
    · have : ¬ackFrameSize ≤ raw.length := by
        simp only [ackFrameSize, headerSize] at tooShort ⊢
        omega
      simp [ackNumber, this]
  rename_i long
  split
  · rename_i kind
    have fits : (raw.drop headerSize).length ≤ dualChannelMaxPayload := by
      rw [List.length_drop]
      exact Nat.sub_le_sub_right short headerSize
    rw [if_pos fits]
    have data : dataPayload raw = some (raw.drop headerSize) := by
      simp [dataPayload, kind, Nat.le_of_not_lt long]
    exact dispatchedAnswer _ data.symm (by simp [ackNumber, kind]) (by simp)
  · rename_i kind
    have noData : dataPayload raw = none := by simp [dataPayload, kind]
    split
    · rename_i tooShort
      refine dispatchedIdle channel.pendingState noData ?_ (by simp)
      simp [ackNumber, Nat.not_le.mpr tooShort]
    · rename_i enough
      refine dispatchedIdle channel.pendingState noData ?_ (by simp)
      simp [ackNumber, kind, Nat.le_of_not_lt enough]
  · rename_i kind
    have noData : dataPayload raw = none := by simp [dataPayload, kind]
    have noAck : ackNumber raw = none := by simp [ackNumber, kind]
    split
    · exact dispatchedIdle channel.pendingState noData (by simp [noAck]) (by simp)
    · exact dispatchedIdle _ noData (by simp [noAck]) (by simp)
  · rename_i kind
    exact dispatchedAnswer none (by simp [dataPayload, kind]) (by simp [ackNumber, kind]) (by simp)
  · rename_i kind
    refine dispatchedIdle channel.pendingState ?_ ?_ (by simp)
    · simp [dataPayload, kind]
    · simp [ackNumber, kind]

end Dispatch

def Action.link : Action → Nat
  | .transmit link _ => link
  | .poll link => link
  | .finish => 0

structure Heard (channel : DualChannel) (m : ChecksumManager) (answer : Answer) (i : Nat) (number : UInt32)
    (raw : Bytes) (frame : VitalMessage) : Prop where
  arrived : answer.arrival = .ok frame
  genuine : ¬Injected (channel.links i) m frame
  expected : frame.sequenceNumber = (channel.links i).expectedSequence
  number : number = frame.sequenceNumber
  raw : raw = field frame.bytes vitalPayloadOffset frame.payloadSize.toNat

structure Access (channel : DualChannel) (m : ChecksumManager) (answer : Answer) (action : Action) (done : Performed) :
    Prop where
  posts : Posts channel action.link done.carried done.channel
  origin : ∀ raw frame, done.carried = some (raw, frame) → action = .transmit action.link raw ∨
    ∃ number heard, done.accepted = some (number, heard) ∧ raw = ackFrame number
  heard : ∀ number raw, done.accepted = some (number, raw) → action = .poll action.link ∧
    ∃ frame, Heard channel m answer action.link number raw frame
  staged : done.staged = done.accepted.bind fun heard => dataPayload heard.2
  slot : done.channel.pendingData = done.staged.or channel.pendingData
  acked : ∀ number, done.matched = some (.ack number) ↔
    ∃ n raw, done.accepted = some (n, raw) ∧ ackNumber raw = some number
  fine : done.matched.isSome = true → done.status = .ok
  sent : ∀ i raw, action = .transmit i raw →
    (done.status = .ok ↔ done.carried.isSome = true) ∧ done.sequence = (channel.links i).nextSequence

section Perform
variable (channel : DualChannel) (m : ChecksumManager) (answer : Answer)

theorem transmitAccess (i : Nat) (raw : Bytes) :
    Access channel m answer (.transmit i raw) (perform channel m answer (.transmit i raw)) := by
  obtain ⟨posts, same, status, slot⟩ := sendOnLinkPosts channel m i raw answer
  refine ⟨posts, ?_, ?_, rfl, slot, ?_, ?_, ?_⟩
  · intro sent frame carried
    rw [same sent frame carried]
    exact Or.inl rfl
  · intro _ _ accepted
    cases accepted
  · intro number
    constructor
    · intro matched
      cases matched
    · rintro ⟨_, _, accepted, _⟩
      cases accepted
  · intro matched
    cases matched
  · rintro _ _ ⟨rfl, rfl⟩
    exact ⟨status, rfl⟩

theorem pollAccess (i : Nat) : Access channel m answer (.poll i) (perform channel m answer (.poll i)) := by
  have silent : ∀ link : DualMsgchannel, link.senderId = (channel.links i).senderId →
      link.expectedPeerId = (channel.links i).expectedPeerId → link.nextSequence = (channel.links i).nextSequence →
      Posts channel i none (withLink channel i link) := by
    intro link sender peer next
    refine postsNothing rfl rfl rfl rfl rfl (fun j => ?_) fun j => ?_
    · rcases eq_or_ne j i with rfl | elsewhere
      · simp [withLink, sender, peer]
      · simp [withLink, elsewhere]
    · rcases eq_or_ne j i with rfl | elsewhere
      · simp [withLink, next]
      · simp [withLink, elsewhere]
  have nothing : ∀ link m' status, Posts channel i none (withLink channel i link) →
      Access channel m answer (.poll i) ⟨withLink channel i link, m', status, 0, none, none, none, none⟩ := by
    intro link m' status posts
    exact ⟨posts, by simp, by simp, rfl, rfl, by simp, by simp, by simp⟩
  simp only [perform, pollLinkOnce]
  cases receiveOutcome (channel.links i) m (UInt8.ofNat vitalPayloadMax) answer.arrival with
  | refused status same none =>
    rw [none, same]
    exact nothing _ _ _ (silent _ rfl rfl rfl)
  | followed frame arrived peer intact other follows status same none =>
    rw [none, same]
    exact nothing _ _ _ (silent _ rfl rfl rfl)
  | accepted m' frame payload arrived peer verified same =>
    rw [same]
    obtain ⟨intact, number, size, taken⟩ := verifiedMessage verified
    have short : payload.length ≤ vitalPayloadMax := by
      rw [taken, field, List.length_take]
      exact Nat.le_trans (Nat.min_le_left _ _) size
    have first : Posts channel i none (withLink channel i
        { channel.links i with expectedSequence := frame.sequenceNumber + 1 }) := silent _ rfl rfl rfl
    have dispatched := dispatchFrameDone (withLink channel i
      { channel.links i with expectedSequence := frame.sequenceNumber + 1 }) m' i frame.sequenceNumber answer short
    refine ⟨dispatched.posts.after first, ?_, ?_, dispatched.staged, dispatched.slot, ?_, dispatched.status.2, by simp⟩
    · intro sent _ carried
      exact Or.inr ⟨_, _, rfl, dispatched.answers sent _ carried⟩
    · rintro _ _ ⟨⟩
      refine ⟨rfl, frame, arrived, ?_, number, rfl, taken⟩
      rintro (wrongSender | corrupt)
      · exact wrongSender peer
      · exact corrupt intact
    · intro n
      rw [dispatched.acked]
      simp

theorem performAccess (action : Action) : Access channel m answer action (perform channel m answer action) := by
  cases action with
  | transmit i raw => exact transmitAccess channel m answer i raw
  | poll i => exact pollAccess channel m answer i
  | finish =>
    exact ⟨postsNothing rfl rfl rfl rfl rfl (fun _ => ⟨rfl, rfl⟩) fun _ => rfl, by simp [perform],
      by simp [perform], rfl, rfl, by simp [perform], by simp [perform], by simp⟩

end Perform
end PlatformRte.Dual.Channel
