import PlatformRte.Dual.MsgChannel
import PlatformRte.Lib.Fifo
import PlatformRte.Lib.Machine
import PlatformRte.Lib.Pair

/-! Two message channels and the link between them. What a link once carried may
arrive at any later time, any number of times and in any order, or never; next to it
arrives what fails the CRC or names another sender. Each direction is a first-in
first-out line of payloads. -/
namespace PlatformRte.Dual.Session
open Checksum Machine

/- sent and delivered are the payloads in the order of the calls that gave OK. -/
structure Station where
  channel : DualMsgchannel
  manager : ChecksumManager
  carried : List VitalMessage
  sent : List Bytes
  delivered : List Bytes

namespace Station

-- A link that does not give OK has carried nothing.
def send (s : Station) (payload : Bytes) (nowMs : UInt64) (linkStatus : RteStatus) : Station :=
  let result := dualMsgchannelSend s.channel s.manager payload nowMs linkStatus
  let done := decide (result.status = .ok)
  { s with
    channel := result.channel
    manager := result.manager
    carried := if done then result.frame.toList ++ s.carried else s.carried
    sent := if done then s.sent ++ [payload] else s.sent }

def receive (s : Station) (room : UInt8) (arrival : Arrival) : Station :=
  let result := dualMsgchannelReceive s.channel s.manager room arrival
  { s with
    channel := result.channel
    manager := result.manager
    delivered := s.delivered ++ (result.delivered.map Prod.fst).toList }

end Station

inductive Event where
  | send (p : Party) (payload : Bytes) (nowMs : UInt64) (linkStatus : RteStatus)
  | receive (p : Party) (room : UInt8) (arrival : Arrival)

def step (s : Pair Station) : Event → Pair Station
  | .send p payload nowMs linkStatus => s.set p ((s.get p).send payload nowMs linkStatus)
  | .receive p room arrival => s.set p ((s.get p).receive room arrival)

def Injected (s : Station) (frame : VitalMessage) : Prop :=
  frame.senderId ≠ s.channel.expectedPeerId ∨ (checksumCrc64Verify s.manager frame.covered frame.crc64).2.2 ≠ .ok

def Admitted (s : Pair Station) : Event → Prop
  | .send p payload nowMs linkStatus => ((s.get p).send payload nowMs linkStatus).sent.length < 2 ^ 32
  | .receive _ _ (.error _) => True
  | .receive p _ (.ok frame) => frame ∈ (s.get p.other).carried ∨ Injected (s.get p) frame

def LeavesAlone (s : Pair Station) : Event → Prop
  | .send p payload nowMs linkStatus =>
      let result := dualMsgchannelSend (s.get p).channel (s.get p).manager payload nowMs linkStatus
      result.status ≠ .ok → result.channel = (s.get p).channel
  | .receive p room arrival =>
      let result := dualMsgchannelReceive (s.get p).channel (s.get p).manager room arrival
      result.status ≠ .ok → result.channel = (s.get p).channel ∧ result.delivered = none

structure Fresh (s : Pair Station) : Prop where
  created : ∀ p, ∃ config channel manager, dualMsgchannelInit config = .ok channel ∧
    s.get p = ⟨channel, manager, [], [], []⟩
  distinct : s.one.channel.senderId ≠ s.two.channel.senderId
  crossed : ∀ p, (s.get p.other).channel.expectedPeerId = (s.get p).channel.senderId

structure Line (own other : Station) (q : Fifo Bytes) : Prop where
  strict : other.channel.resyncOnSequenceError = false
  crossed : other.channel.expectedPeerId = own.channel.senderId
  sent : own.sent = q.sent
  delivered : other.delivered = q.delivered
  next : own.channel.nextSequence = UInt32.ofNat q.sent.length
  expected : other.channel.expectedSequence = UInt32.ofNat q.taken
  short : q.sent.length < 2 ^ 32
  carried : ∀ frame ∈ own.carried, ∃ place, ∃ inside : place < q.sent.length,
    frame.sequenceNumber = UInt32.ofNat place ∧
      Bytes.field frame.bytes vitalPayloadOffset frame.payloadSize.toNat = q.sent[place]

def Lines (s : Pair Station) (q : Pair (Fifo Bytes)) : Prop := ∀ p, Line (s.get p) (s.get p.other) (q.get p)

def moveLine (q : Pair (Fifo Bytes)) (m : Party × Fifo.Move Bytes) : Pair (Fifo Bytes) :=
  q.set m.1 ((q.get m.1).move m.2)

theorem placeUnique {a b : Nat} (small : a < 2 ^ 32) (small' : b < 2 ^ 32) (same : UInt32.ofNat a = UInt32.ofNat b) :
    a = b := by
  have equal := congrArg UInt32.toNat same
  rwa [UInt32.toNat_ofNat', UInt32.toNat_ofNat', Nat.mod_eq_of_lt small, Nat.mod_eq_of_lt small'] at equal

theorem linePush {own other : Station} {q : Fifo Bytes} (line : Line own other q) {payload : Bytes} {nowMs : UInt64}
    {linkStatus : RteStatus} {m' : ChecksumManager} {frame : VitalMessage}
    (created : checksumVitalMessageCreate own.manager own.channel.senderId own.channel.nextSequence payload nowMs =
      (m', .ok frame))
    (result : dualMsgchannelSend own.channel own.manager payload nowMs linkStatus =
      ⟨{ own.channel with nextSequence := own.channel.nextSequence + 1 }, m', .ok, some frame⟩)
    (short : (own.send payload nowMs linkStatus).sent.length < 2 ^ 32) :
    Line (own.send payload nowMs linkStatus) other (q.move (.push payload)) := by
  have after : own.send payload nowMs linkStatus =
      { own with
        channel := { own.channel with nextSequence := own.channel.nextSequence + 1 }
        manager := m'
        carried := frame :: own.carried
        sent := own.sent ++ [payload] } := by
    simp [Station.send, result]
  obtain ⟨number, _, held⟩ := createdCarries created
  rw [after] at short ⊢
  refine ⟨line.strict, line.crossed, ?_, ?_, ?_, line.expected, ?_, ?_⟩
  · simp [line.sent]
  · simpa using line.delivered
  · simp [line.next, UInt32.ofNat_add]
  · simpa [line.sent] using short
  · intro f member
    rcases List.mem_cons.mp member with rfl | old
    · refine ⟨q.sent.length, by simp, number.trans line.next, ?_⟩
      rw [held]
      simp
    · obtain ⟨place, inside, place_, kept⟩ := line.carried f old
      refine ⟨place, by simp; omega, place_, kept.trans ?_⟩
      exact (List.getElem_append_left inside).symm

theorem linePull {own other : Station} {q : Fifo Bytes} (line : Line own other q) {room : UInt8} {m' : ChecksumManager}
    {frame : VitalMessage} {payload : Bytes} (carried : frame ∈ own.carried)
    (verified : checksumVitalMessageVerify other.manager frame other.channel.expectedSequence room.toNat =
      (m', .ok payload))
    (result : dualMsgchannelReceive other.channel other.manager room (.ok frame) =
      ⟨{ other.channel with expectedSequence := frame.sequenceNumber + 1 }, m', .ok,
        some (payload, frame.sequenceNumber)⟩) :
    Line own (other.receive room (.ok frame)) (q.move .pull) := by
  have after : other.receive room (.ok frame) =
      { other with
        channel := { other.channel with expectedSequence := frame.sequenceNumber + 1 }
        manager := m'
        delivered := other.delivered ++ [payload] } := by
    simp [Station.receive, result]
  obtain ⟨_, number, _, taken⟩ := verifiedMessage verified
  obtain ⟨place, inside, place_, held⟩ := line.carried frame carried
  have head : place = q.taken := by
    refine placeUnique (Nat.lt_trans inside line.short) (Nat.lt_of_le_of_lt q.bounded line.short) ?_
    exact place_.symm.trans (number.trans line.expected)
  subst head
  have sent := Fifo.pullSent inside
  rw [after]
  refine ⟨line.strict, line.crossed, ?_, ?_, ?_, ?_, ?_, ?_⟩
  · rw [sent]
    exact line.sent
  · rw [Fifo.pullDelivered inside, ← held, ← taken, ← line.delivered]
  · rw [sent]
    exact line.next
  · rw [Fifo.pullTaken inside, UInt32.ofNat_add, ← place_]
    rfl
  · rw [sent]
    exact line.short
  · simpa only [sent] using line.carried

theorem lineSender {own other : Station} {q : Fifo Bytes} (line : Line own other q) (payload : Bytes) (nowMs : UInt64)
    (linkStatus : RteStatus) : Line own (other.send payload nowMs linkStatus) q := by
  rcases sendCases other.channel other.manager payload nowMs linkStatus with ⟨failed, same⟩ | ⟨m', frame, _, _, same⟩
  · have after : (other.send payload nowMs linkStatus).channel = other.channel := same
    exact ⟨after ▸ line.strict, after ▸ line.crossed, line.sent, line.delivered, line.next, after ▸ line.expected,
      line.short, line.carried⟩
  · have after : (other.send payload nowMs linkStatus).channel =
        { other.channel with nextSequence := other.channel.nextSequence + 1 } := by simp [Station.send, same]
    exact ⟨after ▸ line.strict, after ▸ line.crossed, line.sent, line.delivered, line.next, after ▸ line.expected,
      line.short, line.carried⟩

theorem lineReceiver {own other : Station} {q : Fifo Bytes} (line : Line own other q) (room : UInt8)
    (arrival : Arrival) (strict : own.channel.resyncOnSequenceError = false) :
    Line (own.receive room arrival) other q := by
  rcases receiveCases strict own.manager room arrival with ⟨_, same, _⟩ | ⟨m', frame, payload, rfl, _, _, same⟩
  · have after : (own.receive room arrival).channel = own.channel := same
    exact ⟨line.strict, after ▸ line.crossed, line.sent, line.delivered, after ▸ line.next, line.expected,
      line.short, line.carried⟩
  · have after : (own.receive room (.ok frame)).channel =
        { own.channel with expectedSequence := frame.sequenceNumber + 1 } := by simp [Station.receive, same]
    exact ⟨line.strict, after ▸ line.crossed, line.sent, line.delivered, after ▸ line.next, line.expected,
      line.short, line.carried⟩

theorem linesMove {s : Pair Station} {q : Pair (Fifo Bytes)} {p : Party} {station : Station} {own towards : Fifo Bytes}
    (sends : Line station (s.get p.other) own) (receives : Line (s.get p.other) station towards) :
    Lines (s.set p station) ((q.set p own).set p.other towards) := by
  intro r
  rcases Party.eqOrOther p r with rfl | rfl
  · simpa using sends
  · simpa using receives

theorem linesStep (s : Pair Station) (q : Pair (Fifo Bytes)) (e : Event) (lines : Lines s q) (admitted : Admitted s e) :
    ∃ moves, Lines (step s e) (run moveLine q moves) := by
  cases e with
  | send p payload nowMs linkStatus =>
    have own := lines p
    have towards := lines p.other
    rw [Party.otherOther] at towards
    have received := lineSender towards payload nowMs linkStatus
    rcases sendCases (s.get p).channel (s.get p).manager payload nowMs linkStatus with
      ⟨failed, same⟩ | ⟨m', frame, _, created, same⟩
    · have kept : Line ((s.get p).send payload nowMs linkStatus) (s.get p.other) (q.get p) := by
        have after : ((s.get p).send payload nowMs linkStatus).channel = (s.get p).channel := same
        refine ⟨own.strict, after ▸ own.crossed, ?_, own.delivered, after ▸ own.next, own.expected, own.short, ?_⟩ <;>
          simp only [Station.send, failed, decide_false, Bool.false_eq_true, if_false]
        · exact own.sent
        · exact own.carried
      refine ⟨[], ?_⟩
      have next := linesMove (q := q) kept received
      rwa [Pair.setGet, Pair.setGet] at next
    · refine ⟨[(p, .push payload)], ?_⟩
      have next := linesMove (q := q) (linePush own created same admitted) received
      rwa [Pair.setGetOther] at next
  | receive p room arrival =>
    have own := lines p
    have towards := lines p.other
    rw [Party.otherOther] at towards
    have sends := lineReceiver own room arrival towards.strict
    rcases receiveCases towards.strict (s.get p).manager room arrival with
      ⟨_, same, nothing⟩ | ⟨m', frame, payload, rfl, peer, verified, same⟩
    · have kept : Line (s.get p.other) ((s.get p).receive room arrival) (q.get p.other) := by
        have after : ((s.get p).receive room arrival).channel = (s.get p).channel := same
        refine ⟨after ▸ towards.strict, after ▸ towards.crossed, towards.sent, ?_, towards.next,
          after ▸ towards.expected, towards.short, towards.carried⟩
        simpa [Station.receive, nothing] using towards.delivered
      refine ⟨[], ?_⟩
      have next := linesMove (q := q) sends kept
      rwa [Pair.setGet, Pair.setGet] at next
    · have carried : frame ∈ (s.get p.other).carried := by
        rcases admitted with sent | wrongSender | corrupt
        · exact sent
        · exact absurd peer wrongSender
        · exact absurd (verifiedMessage verified).1 corrupt
      refine ⟨[(p.other, .pull)], ?_⟩
      have next := linesMove (q := q) sends (linePull towards carried verified same)
      rwa [Pair.setGet] at next

theorem linesFresh {s : Pair Station} (fresh : Fresh s) : Lines s ⟨Fifo.empty, Fifo.empty⟩ := by
  intro p
  have crossed := fresh.crossed p
  obtain ⟨config, channel, manager, init, same⟩ := fresh.created p
  obtain ⟨config', channel', manager', init', same'⟩ := fresh.created p.other
  have zero : ∀ {config channel}, dualMsgchannelInit config = .ok channel →
      channel.nextSequence = 0 ∧ channel.expectedSequence = 0 ∧ channel.resyncOnSequenceError = false := by
    intro config channel made
    unfold dualMsgchannelInit at made
    split at made <;> cases made
    exact ⟨rfl, rfl, rfl⟩
  have line : (⟨Fifo.empty, Fifo.empty⟩ : Pair (Fifo Bytes)).get p = Fifo.empty := by cases p <;> rfl
  rw [same, same'] at crossed ⊢
  rw [line]
  exact ⟨(zero init').2.2, crossed, rfl, rfl, (zero init).1, (zero init').2.1, by decide,
    fun frame member => by cases member⟩

theorem leavesAlone {s : Pair Station} {q : Pair (Fifo Bytes)} (lines : Lines s q) (e : Event) : LeavesAlone s e := by
  cases e with
  | send p payload nowMs linkStatus =>
    intro failed
    rcases sendCases (s.get p).channel (s.get p).manager payload nowMs linkStatus with
      ⟨_, same⟩ | ⟨_, _, _, _, same⟩
    · exact same
    · exact absurd (congrArg SendResult.status same) failed
  | receive p room arrival =>
    have towards := lines p.other
    rw [Party.otherOther] at towards
    intro rejected
    rcases receiveCases towards.strict (s.get p).manager room arrival with
      ⟨_, same, nothing⟩ | ⟨_, _, _, _, _, _, same⟩
    · exact ⟨same, nothing⟩
    · exact absurd (congrArg ReceiveResult.status same) rejected

/- At every moment each end has been handed the first payloads the other end sent, in
order and each once. -/
theorem deliveredInOrder {start : Pair Station} {events : List Event} (fresh : Fresh start)
    (admitted : Always step Admitted start events) :
    (∀ p, ((run step start events).get p).delivered <+: ((run step start events).get p.other).sent) ∧
      Always step LeavesAlone start events := by
  have lines : ∀ calls, Always step Admitted start calls →
      ∃ moves, Lines (run step start calls) (run moveLine ⟨Fifo.empty, Fifo.empty⟩ moves) :=
    fun calls always => simulates (linesFresh fresh) linesStep always
  constructor
  · intro p
    obtain ⟨moves, related⟩ := lines events admitted
    have line := related p.other
    rw [Party.otherOther] at line
    rw [line.sent, line.delivered]
    exact Fifo.deliveredPrefix _
  · intro before e after split
    subst split
    obtain ⟨moves, related⟩ := lines before (alwaysPrefix admitted)
    exact leavesAlone related e

def station (senderId expectedPeerId : UInt32) : Station :=
  ⟨⟨senderId, expectedPeerId, 0, 0, false⟩, (checksumCrc64Init checksumManager .ertms).1, [], [], []⟩

def stations : Pair Station := ⟨station 1 2, station 2 1⟩

theorem stationsFresh : Fresh stations := by
  refine ⟨?_, by decide, ?_⟩
  · rintro (_ | _)
    · exact ⟨⟨true, 1, 2⟩, _, _, rfl, rfl⟩
    · exact ⟨⟨true, 2, 1⟩, _, _, rfl, rfl⟩
  · rintro (_ | _) <;> rfl

def firstFrame (senderId : UInt32) : VitalMessage :=
  (filledMessage senderId 0 [7] 0).sealed (crc64Of crc64ErtmsTable (filledMessage senderId 0 [7] 0).covered)

def oneDelivery : List Event :=
  [.send .one [7] 0 .timeout, .send .one [7] 0 .ok, .receive .two 248 (.ok (firstFrame 3)),
    .receive .two 248 (.ok (firstFrame 1))]

theorem oneDeliveryInOrder :
    ((run step stations oneDelivery).get .two).delivered = [[7]] ∧
      (∀ p, ((run step stations oneDelivery).get p).delivered <+: ((run step stations oneDelivery).get p.other).sent) ∧
      Always step LeavesAlone stations oneDelivery := by
  have short : ((station 1 2).send [7] 0 .timeout).sent.length < 2 ^ 32 ∧
      (((station 1 2).send [7] 0 .timeout).send [7] 0 .ok).sent.length < 2 ^ 32 := by decide
  have wrongSender : (firstFrame 3).senderId ≠ 1 := by decide
  have admitted : Always step Admitted stations oneDelivery :=
    alwaysCons.mpr ⟨short.1, alwaysCons.mpr ⟨short.2, alwaysCons.mpr ⟨Or.inr (Or.inl wrongSender),
      alwaysCons.mpr ⟨Or.inl List.mem_cons_self, alwaysNil step Admitted _⟩⟩⟩⟩
  have accepted : (dualMsgchannelReceive (station 2 1).channel (station 2 1).manager 248
      (.ok (firstFrame 1))).delivered = some ([7], 0) :=
    (receiveAccepts (by decide) rfl (createdVerifies (m := (station 1 2).manager) rfl rfl rfl (by decide))).2.1
  have rejected : (station 2 1).receive 248 (.ok (firstFrame 3)) = station 2 1 := by
    have refused := receiveWrongSender (m := (station 2 1).manager) (by decide : (248 : UInt8) ≠ 0)
      (show (firstFrame 3).senderId ≠ (station 2 1).channel.expectedPeerId from wrongSender)
    simp [Station.receive, refused]
  have two : (run step stations oneDelivery).get .two =
      ((station 2 1).receive 248 (.ok (firstFrame 3))).receive 248 (.ok (firstFrame 1)) := rfl
  refine ⟨?_, deliveredInOrder stationsFresh admitted⟩
  rw [two, rejected]
  simp only [Station.receive, accepted]
  rfl

end PlatformRte.Dual.Session
