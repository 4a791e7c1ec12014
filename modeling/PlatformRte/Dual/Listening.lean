import PlatformRte.Dual.Channel
import PlatformRte.Dual.Negotiator
import PlatformRte.Lib.Sweep

/-! One round of the negotiator over the links of its channel. Each link is read through
the answers its reads are given, one read after another; when there are none left, nothing
is waiting and nothing arrives. -/
namespace PlatformRte.Dual.Listening
open Bytes Checksum Channel Sweep

structure Links where
  channel : DualChannel
  manager : ChecksumManager
  reads : Nat → List Answer

def silence : Answer := ⟨.error ⟨.timeout, nofun⟩, .timeout, 0, 0⟩

namespace Links

def pollLink (s : Links) (i : Nat) : Links :=
  let done := pollLinkOnce s.channel s.manager i ((s.reads i).headD silence)
  ⟨done.channel, done.manager, Function.update s.reads i (s.reads i).tail⟩

def sweep (s : Links) : Links := (List.range s.channel.linkCount).foldl pollLink s

def receiveStateFrame (s : Links) : Links × Option DualStateFrame :=
  let s := if s.channel.pendingState.isSome then s else s.sweep
  match s.channel.pendingState with
  | none => (s, none)
  | some frame => ({ s with channel := { s.channel with pendingState := none } }, some frame)

def sendOn (answers : Nat → Answer) (raw : Bytes) (s : Links) (i : Nat) : Links :=
  let done := sendOnLink s.channel s.manager i raw (answers i)
  { s with channel := done.channel, manager := done.manager }

def sendStateFrame (s : Links) (frame : DualStateFrame) (answers : Nat → Answer) : Links :=
  (List.range s.channel.linkCount).foldl (sendOn answers (stateFrame frame)) s

def enough (s : Links) : Nat := ((List.range s.channel.linkCount).map fun i => (s.reads i).length).sum + 1

end Links

structure Round where
  negotiator : DualNegotiator
  links : Links
  clock : Nat → UInt64

def Round.process (r : Round) (frame : DualStateFrame) : Round :=
  { r with
    negotiator := negotiatorProcessPeerFrame r.negotiator frame (r.clock 0)
    clock := fun k => r.clock (k + 1) }

def Round.take (r : Round) : Option DualStateFrame → Round
  | none => r
  | some frame => r.process frame

/- The loop of non-blocking receives; none when it is cut off. -/
def drain : Nat → Round → Option Round
  | 0, _ => none
  | fuel + 1, r =>
      match r.links.receiveStateFrame with
      | (links, none) => some { r with links := links }
      | (links, some frame) => drain fuel ({ r with links := links }.process frame)

def execute (n : DualNegotiator) (s : Links) (clock : Nat → UInt64) (answers : Nat → Answer) :
    Option (DualNegotiator × Links) :=
  let announced := negotiatorAnnounce n s.channel.lastStatus
  let received := (s.sendStateFrame announced.2 answers).receiveStateFrame
  let r := (⟨announced.1, received.1, clock⟩ : Round).take received.2
  (drain r.links.enough r).map fun r => (negotiatorUpdateStates r.negotiator (r.clock 0), r.links)

def beaconOf (raw : Bytes) : Option DualStateFrame :=
  if stateFrameSize ≤ raw.length ∧ frameKind raw = some .state then some (readStateFrame raw) else none

theorem beaconShort {raw : Bytes} (short : raw.length < stateFrameSize) : beaconOf raw = none :=
  if_neg fun both => Nat.not_le_of_lt short both.1

theorem beaconOther {raw : Bytes} (other : frameKind raw ≠ some .state) : beaconOf raw = none :=
  if_neg fun both => other both.2

theorem beaconOfStateFrame (frame : DualStateFrame) : beaconOf (stateFrame frame) = some frame := by
  have head : stateFrame frame = (frameHeader .state ++ [frame.state, frame.channelDegraded, 0, 0]) ++
      leBytes 8 frame.timestampMs.toNat := rfl
  have kind : frameKind (stateFrame frame) = some .state := rfl
  have length : (stateFrame frame).length = stateFrameSize := by
    simp [stateFrame, stateFrameSize, frameHeader]
  have stamp : readLe (stateFrame frame) 8 8 = frame.timestampMs.toNat := by
    have back := readLeAppend (frameHeader .state ++ [frame.state, frame.channelDegraded, 0, 0]) [] 8
      frame.timestampMs.toNat frame.timestampMs.toNat_lt
    rwa [List.append_nil, ← head] at back
  have read : readStateFrame (stateFrame frame) = frame := by
    rw [readStateFrame, stamp, UInt64.ofNat_toNat]
    rfl
  rw [beaconOf, if_pos ⟨Nat.le_of_eq length.symm, kind⟩, read]

def heardOn (link : DualMsgchannel) (m : ChecksumManager) : List Answer → List (Option DualStateFrame)
  | [] => []
  | answer :: rest =>
      let received := dualMsgchannelReceive link m (UInt8.ofNat vitalPayloadMax) answer.arrival
      (received.delivered.bind fun heard => beaconOf heard.1) :: heardOn received.channel received.manager rest

def Links.heard (s : Links) (i : Nat) : List (Option DualStateFrame) := heardOn (s.channel.links i) s.manager (s.reads i)

structure SameInbound (link link' : DualMsgchannel) : Prop where
  expectedPeerId : link'.expectedPeerId = link.expectedPeerId
  expectedSequence : link'.expectedSequence = link.expectedSequence
  resync : link'.resyncOnSequenceError = link.resyncOnSequenceError

theorem SameInbound.trans {a b c : DualMsgchannel} (first : SameInbound a b) (second : SameInbound b c) :
    SameInbound a c :=
  ⟨second.expectedPeerId.trans first.expectedPeerId, second.expectedSequence.trans first.expectedSequence,
    second.resync.trans first.resync⟩

theorem verifyDepends {m m' : ChecksumManager} (same : SameTable m m') (msg : VitalMessage) (expected : UInt32)
    (room : Nat) :
    (checksumVitalMessageVerify m' msg expected room).2 = (checksumVitalMessageVerify m msg expected room).2 := by
  simp only [checksumVitalMessageVerify, intactDepends same]
  split
  · rfl
  split
  · rfl
  split <;> rfl

theorem receiveDepends {link link' : DualMsgchannel} {m m' : ChecksumManager} (inbound : SameInbound link link')
    (table : SameTable m m') (room : UInt8) (arrival : Arrival) :
    (dualMsgchannelReceive link' m' room arrival).delivered = (dualMsgchannelReceive link m room arrival).delivered ∧
      SameInbound (dualMsgchannelReceive link m room arrival).channel
        (dualMsgchannelReceive link' m' room arrival).channel := by
  unfold dualMsgchannelReceive
  split
  · exact ⟨rfl, inbound⟩
  cases arrival with
  | error status => exact ⟨rfl, inbound⟩
  | ok frame =>
    dsimp only
    rw [inbound.expectedPeerId]
    split
    · exact ⟨rfl, inbound⟩
    have verdict := verifyDepends table frame link.expectedSequence room.toNat
    have kept := verifyKeeps m frame link.expectedSequence room.toNat
    have kept' := verifyKeeps m' frame link.expectedSequence room.toNat
    rw [inbound.expectedSequence]
    cases checked : checksumVitalMessageVerify m frame link.expectedSequence room.toNat with
    | mk n result =>
      cases checked' : checksumVitalMessageVerify m' frame link.expectedSequence room.toNat with
      | mk n' result' =>
        rw [checked, checked'] at verdict
        rw [checked] at kept
        rw [checked'] at kept'
        cases verdict
        cases result with
        | ok payload => exact ⟨rfl, rfl, rfl, inbound.resync⟩
        | error status =>
          refine ⟨rfl, ?_⟩
          have intact : (checksumCrc64Verify n' frame.covered frame.crc64).2.2 =
              (checksumCrc64Verify n frame.covered frame.crc64).2.2 := by
            rw [intactDepends kept', intactDepends kept, intactDepends table]
          simp only [resync, inbound.resync, inbound.expectedSequence, intact]
          split
          · split
            · exact ⟨inbound.expectedPeerId, rfl, rfl⟩
            · exact inbound
          · exact inbound

theorem heardDepends {link link' : DualMsgchannel} {m m' : ChecksumManager} (inbound : SameInbound link link')
    (table : SameTable m m') (answers : List Answer) : heardOn link' m' answers = heardOn link m answers := by
  induction answers generalizing link link' m m' with
  | nil => rfl
  | cons answer rest ih =>
    obtain ⟨delivered, after⟩ := receiveDepends inbound table (UInt8.ofNat vitalPayloadMax) answer.arrival
    have kept := receiveKeepsTable link m (UInt8.ofNat vitalPayloadMax) answer.arrival
    have kept' := receiveKeepsTable link' m' (UInt8.ofNat vitalPayloadMax) answer.arrival
    have tables : SameTable (dualMsgchannelReceive link m (UInt8.ofNat vitalPayloadMax) answer.arrival).manager
        (dualMsgchannelReceive link' m' (UInt8.ofNat vitalPayloadMax) answer.arrival).manager :=
      ⟨kept'.ready.trans (table.ready.trans kept.ready.symm), kept'.table.trans (table.table.trans kept.table.symm)⟩
    simp only [heardOn, delivered, ih after tables]

end PlatformRte.Dual.Listening
