import PlatformRte.Dual.MsgChannel
import PlatformRte.Dual.Types

/-! The dual channel over one to four redundant links: every payload goes out on every
link, and each link is given a bounded wait for its own acknowledgement; whatever else
arrives meanwhile is acknowledged and staged. A call runs in steps, one access to a
link in each, and another party may move in between. -/
namespace PlatformRte.Dual.Channel
open Bytes Checksum

inductive FrameKind where
  | data | ack | state | heartbeat
  deriving DecidableEq, Repr

def FrameKind.toByte : FrameKind → UInt8
  | .data => 0
  | .ack => 1
  | .state => 2
  | .heartbeat => 3

def FrameKind.ofByte (kind : UInt8) : Option FrameKind :=
  if kind = 0 then some .data
  else if kind = 1 then some .ack
  else if kind = 2 then some .state
  else if kind = 3 then some .heartbeat
  else none

def headerSize : Nat := 4
def ackFrameSize : Nat := 8
def stateFrameSize : Nat := 16

def dualChannelMaxLinks : Nat := 4
def dualChannelMaxPayload : Nat := vitalPayloadMax - headerSize
def stallPollLimit : Nat := 32

def frameHeader (kind : FrameKind) : Bytes := [kind.toByte, 0, 0, 0]

def dataFrame (payload : Bytes) : Bytes := frameHeader .data ++ payload

def ackFrame (ackedSequence : UInt32) : Bytes := frameHeader .ack ++ leBytes 4 ackedSequence.toNat

def stateFrame (frame : DualStateFrame) : Bytes :=
  frameHeader .state ++ [frame.state, frame.channelDegraded, 0, 0] ++ leBytes 8 frame.timestampMs.toNat

-- Between the header and the time stamp lie four bytes of padding.
def heartbeatFrame (timestampMs : UInt64) : Bytes :=
  frameHeader .heartbeat ++ [0, 0, 0, 0] ++ leBytes 8 timestampMs.toNat

def frameKind (raw : Bytes) : Option FrameKind := FrameKind.ofByte (raw.headD 0)

def readAckedSequence (raw : Bytes) : UInt32 := UInt32.ofNat (readLe raw headerSize 4)

def readStateFrame (raw : Bytes) : DualStateFrame :=
  ⟨raw.getD 4 0, raw.getD 5 0, UInt64.ofNat (readLe raw 8 8)⟩

structure DualChannelConfig where
  -- which of the links were given
  links : List Bool
  linkCount : Nat
  senderId : UInt32
  expectedPeerId : UInt32
  ackTimeoutMs : UInt32
  -- whether a callback was given
  statusCallback : Bool

structure DualChannel where
  linkCount : Nat
  some_ : 0 < linkCount
  few : linkCount ≤ dualChannelMaxLinks
  links : Nat → DualMsgchannel
  linkUp : Nat → Bool
  lastStatus : DualChannelStatus
  statusCallback : Bool
  ackTimeoutMs : UInt32
  pendingData : Option Bytes
  pendingState : Option DualStateFrame

def dualChannelInit (config : DualChannelConfig) : Except RteStatus DualChannel :=
  if count : 0 < config.linkCount ∧ config.linkCount ≤ dualChannelMaxLinks then
    if (List.range config.linkCount).all fun i => config.links.getD i false then
      .ok {
        linkCount := config.linkCount
        some_ := count.1
        few := count.2
        links := fun _ => ⟨config.senderId, config.expectedPeerId, 0, 0, false⟩
        linkUp := fun _ => false
        lastStatus := .down
        statusCallback := config.statusCallback
        ackTimeoutMs := config.ackTimeoutMs
        pendingData := none
        pendingState := none }
    else .error .invalidParam
  else .error .invalidParam

def dualChannelSetResync (channel : DualChannel) (enable : Bool) : DualChannel :=
  { channel with links := fun i => setResyncOnSequenceError (channel.links i) enable }

def upCount (channel : DualChannel) : Nat := (List.range channel.linkCount).countP channel.linkUp

def computeStatus (channel : DualChannel) : DualChannelStatus :=
  if upCount channel = 0 then .down
  else if upCount channel = channel.linkCount then .full
  else .degraded

def updateStatus (channel : DualChannel) : DualChannel × Option (DualChannelStatus × DualChannelStatus) :=
  let status := computeStatus channel
  if status ≠ channel.lastStatus then
    ({ channel with lastStatus := status },
      if channel.statusCallback then some (status, channel.lastStatus) else none)
  else (channel, none)

inductive Matched where
  | data
  | ack (sequence : UInt32)
  | state
  | heartbeat
  deriving DecidableEq, Repr

/- The answers to one access: what arrives, the status of a send, the time stamp of a
message and the next reading of the clock. -/
structure Answer where
  arrival : Arrival
  linkStatus : RteStatus
  stampMs : UInt64
  nowMs : UInt64

/- What one access to a link did. sequence: of the message that was sent; carried: the
message the link was handed; accepted: the message of the peer that was let in; staged:
the payload put into the slot for the application. -/
structure Performed where
  channel : DualChannel
  manager : ChecksumManager
  status : RteStatus
  sequence : UInt32
  matched : Option Matched
  carried : Option (Bytes × VitalMessage)
  accepted : Option (UInt32 × Bytes)
  staged : Option Bytes

def withLink (channel : DualChannel) (i : Nat) (link : DualMsgchannel) : DualChannel :=
  { channel with links := Function.update channel.links i link }

def sendOnLink (channel : DualChannel) (m : ChecksumManager) (i : Nat) (raw : Bytes) (answer : Answer) : Performed :=
  let sent := dualMsgchannelSend (channel.links i) m raw answer.stampMs answer.linkStatus
  { channel := withLink channel i sent.channel
    manager := sent.manager
    status := sent.status
    sequence := (channel.links i).nextSequence
    matched := none
    carried := if sent.status = .ok then sent.frame.map (raw, ·) else none
    accepted := none
    staged := none }

def autoAck (channel : DualChannel) (m : ChecksumManager) (i : Nat) (sequence : UInt32) (matched : Matched)
    (staged : Option Bytes) (answer : Answer) : Performed :=
  { sendOnLink channel m i (ackFrame sequence) answer with status := .ok, matched := some matched, staged := staged }

def dispatchFrame (channel : DualChannel) (m : ChecksumManager) (i : Nat) (raw : Bytes) (sequence : UInt32)
    (answer : Answer) : Performed :=
  let corrupt : Performed := ⟨channel, m, .dataCorruption, sequence, none, none, none, none⟩
  if raw.length < headerSize then corrupt
  else
    match frameKind raw with
    | some .data =>
        let payload := raw.drop headerSize
        if payload.length ≤ dualChannelMaxPayload then
          autoAck { channel with pendingData := some payload } m i sequence .data (some payload) answer
        else autoAck channel m i sequence .data none answer
    | some .ack =>
        if raw.length < ackFrameSize then corrupt
        else ⟨channel, m, .ok, sequence, some (.ack (readAckedSequence raw)), none, none, none⟩
    | some .state =>
        if raw.length < stateFrameSize then corrupt
        else
          ⟨{ channel with pendingState := some (readStateFrame raw) }, m, .ok, sequence, some .state, none, none, none⟩
    | some .heartbeat => autoAck channel m i sequence .heartbeat none answer
    | none => ⟨channel, m, .ok, sequence, none, none, none, none⟩

def pollLinkOnce (channel : DualChannel) (m : ChecksumManager) (i : Nat) (answer : Answer) : Performed :=
  let received := dualMsgchannelReceive (channel.links i) m (UInt8.ofNat vitalPayloadMax) answer.arrival
  let channel := withLink channel i received.channel
  match received.delivered with
  | none => ⟨channel, received.manager, received.status, 0, none, none, none, none⟩
  | some (raw, sequence) =>
      { dispatchFrame channel received.manager i raw sequence answer with accepted := some (sequence, raw) }

structure AckWait where
  sentSequence : UInt32
  startMs : UInt64
  remaining : UInt32
  stallPolls : Nat
  deriving DecidableEq, Repr

def AckWait.goesOn (w : AckWait) : Bool := decide (0 < w.remaining ∧ w.stallPolls < stallPollLimit)

def AckWait.elapse (w : AckWait) (ackTimeoutMs : UInt32) (nowMs : UInt64) : AckWait :=
  if w.startMs < nowMs then
    let elapsed := nowMs - w.startMs
    { w with
      remaining := if ackTimeoutMs.toUInt64 ≤ elapsed then 0 else ackTimeoutMs - elapsed.toUInt32
      stallPolls := 0 }
  else { w with stallPolls := w.stallPolls + 1 }

inductive WaitVerdict where
  | acked
  | broken
  | again (w : AckWait)
  deriving DecidableEq, Repr

def judgePoll (w : AckWait) (ackTimeoutMs : UInt32) (status : RteStatus) (matched : Option Matched) (nowMs : UInt64) :
    WaitVerdict :=
  if status = .ok ∧ matched = some (.ack w.sentSequence) then .acked
  else if status = .hardwareFault then .broken
  else .again (w.elapse ackTimeoutMs nowMs)

/- A call in progress. exchange is a send or a heartbeat, payload what a send was given;
link is the link whose turn it is. -/
inductive Call where
  | exchange (payload : Option Bytes) (frame : Bytes) (link ackCount : Nat) (hardFault : Bool) (wait : Option AckWait)
  | receive (maxSize : UInt8) (link : Nat) (hardFault : Bool)
  | beacon (frame : Bytes) (link sentCount : Nat)
  | receiveState (link : Nat)

inductive Returned where
  | exchange (payload : Option Bytes) (status : RteStatus) (ackCount : Option Nat)
      (callback : Option (DualChannelStatus × DualChannelStatus))
  | receive (status : RteStatus) (payload : Option Bytes)
  | beacon (status : RteStatus)
  | receiveState (status : RteStatus) (frame : Option DualStateFrame)

inductive Request where
  | send (payload : Bytes)
  | heartbeat (nowMs : UInt64)
  | receive (maxSize : UInt8)
  | sendStateFrame (frame : DualStateFrame)
  | receiveStateFrame

def startCall (channel : DualChannel) : Request → Call ⊕ Returned
  | .send payload =>
      if dualChannelMaxPayload < payload.length then .inr (.exchange (some payload) .invalidParam none none)
      else .inl (.exchange (some payload) (dataFrame payload) 0 0 false none)
  | .heartbeat nowMs => .inl (.exchange none (heartbeatFrame nowMs) 0 0 false none)
  | .receive maxSize =>
      if maxSize = 0 then .inr (.receive .invalidParam none)
      -- what is staged already is taken without a sweep
      else .inl (.receive maxSize (if channel.pendingData.isSome then channel.linkCount else 0) false)
  | .sendStateFrame frame => .inl (.beacon (stateFrame frame) 0 0)
  | .receiveStateFrame => .inl (.receiveState (if channel.pendingState.isSome then channel.linkCount else 0))

inductive Action where
  | transmit (link : Nat) (raw : Bytes)
  | poll (link : Nat)
  | finish

def nextAction (channel : DualChannel) : Call → Action
  | .exchange _ frame link _ _ none => if link < channel.linkCount then .transmit link frame else .finish
  | .exchange _ _ link _ _ (some _) => if link < channel.linkCount then .poll link else .finish
  | .receive _ link _ => if link < channel.linkCount then .poll link else .finish
  | .beacon frame link _ => if link < channel.linkCount then .transmit link frame else .finish
  | .receiveState link => if link < channel.linkCount then .poll link else .finish

def perform (channel : DualChannel) (m : ChecksumManager) (answer : Answer) : Action → Performed
  | .transmit link raw => sendOnLink channel m link raw answer
  | .poll link => pollLinkOnce channel m link answer
  | .finish => ⟨channel, m, .ok, 0, none, none, none, none⟩

def linkDone (channel : DualChannel) (payload : Option Bytes) (frame : Bytes) (link ackCount : Nat)
    (hardFault up : Bool) : DualChannel × (Call ⊕ Returned) :=
  ({ channel with linkUp := Function.update channel.linkUp link up },
    .inl (.exchange payload frame (link + 1) (if up then ackCount + 1 else ackCount) hardFault none))

def finishCall (channel : DualChannel) : Call → DualChannel × (Call ⊕ Returned)
  | .exchange payload _ _ ackCount hardFault _ =>
      let updated := updateStatus channel
      let status := if 0 < ackCount then .ok else if hardFault then .hardwareFault else .timeout
      (updated.1, .inr (.exchange payload status (some ackCount) updated.2))
  | .receive maxSize _ hardFault =>
      match channel.pendingData with
      | none => (channel, .inr (.receive (if hardFault then .hardwareFault else .timeout) none))
      | some payload =>
          if maxSize.toNat < payload.length then (channel, .inr (.receive .invalidParam none))
          else ({ channel with pendingData := none }, .inr (.receive .ok (some payload)))
  | .beacon _ _ sentCount => (channel, .inr (.beacon (if 0 < sentCount then .ok else .timeout)))
  | .receiveState _ =>
      match channel.pendingState with
      | none => (channel, .inr (.receiveState .timeout none))
      | some frame => ({ channel with pendingState := none }, .inr (.receiveState .ok (some frame)))

def settle (channel : DualChannel) (done : Performed) (nowMs : UInt64) : Call → DualChannel × (Call ⊕ Returned)
  | .exchange payload frame link ackCount hardFault none =>
      let hardFault := hardFault || done.status == .hardwareFault
      let wait : AckWait := ⟨done.sequence, nowMs, channel.ackTimeoutMs, 0⟩
      if done.status = .ok ∧ wait.goesOn = true then
        (channel, .inl (.exchange payload frame link ackCount hardFault (some wait)))
      else linkDone channel payload frame link ackCount hardFault false
  | .exchange payload frame link ackCount hardFault (some w) =>
      match judgePoll w channel.ackTimeoutMs done.status done.matched nowMs with
      | .acked => linkDone channel payload frame link ackCount hardFault true
      | .broken => linkDone channel payload frame link ackCount true false
      | .again w =>
          if w.goesOn then (channel, .inl (.exchange payload frame link ackCount hardFault (some w)))
          else linkDone channel payload frame link ackCount hardFault false
  | .receive maxSize link hardFault =>
      (channel, .inl (.receive maxSize (link + 1) (hardFault || done.status == .hardwareFault)))
  | .beacon frame link sentCount =>
      (channel, .inl (.beacon frame (link + 1) (if done.status = .ok then sentCount + 1 else sentCount)))
  | .receiveState link => (channel, .inl (.receiveState (link + 1)))

def conclude (call : Call) (action : Action) (done : Performed) (nowMs : UInt64) : DualChannel × (Call ⊕ Returned) :=
  match action with
  | .finish => finishCall done.channel call
  | _ => settle done.channel done nowMs call

structure Progress where
  channel : DualChannel
  manager : ChecksumManager
  done : Performed
  next : Call ⊕ Returned

def advance (channel : DualChannel) (m : ChecksumManager) (call : Call) (answer : Answer) : Progress :=
  let action := nextAction channel call
  let done := perform channel m answer action
  let concluded := conclude call action done answer.nowMs
  ⟨concluded.1, done.manager, done, concluded.2⟩

end PlatformRte.Dual.Channel
