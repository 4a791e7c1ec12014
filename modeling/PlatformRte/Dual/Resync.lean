import PlatformRte.Dual.Session
import PlatformRte.Lib.History

/-! Two message channels that may follow the numbers of their peer. A frame that was let
in can be let in again, but only after an older frame of the peer, itself turned away,
has pulled the expected number back. -/
namespace PlatformRte.Dual.Resync
open Checksum Machine History
open Session (Station Injected)

inductive Verdict where
  | delivered (frame : VitalMessage)
  | outOfSequence (frame : VitalMessage)
  | refused (frame : VitalMessage)
  deriving DecidableEq

def verdict (s : Station) (room : UInt8) (frame : VitalMessage) : Verdict :=
  let result := dualMsgchannelReceive s.channel s.manager room (.ok frame)
  if result.status = .ok then .delivered frame
  -- the CRC is right, so it was the number
  else if result.status = .dataCorruption ∧ (checksumCrc64Verify s.manager frame.covered frame.crc64).2.2 = .ok then
    .outOfSequence frame
  else .refused frame

/- log: the frames that arrived, newest first. -/
structure Watched where
  station : Station
  log : List Verdict

namespace Watched

def send (w : Watched) (payload : Bytes) (nowMs : UInt64) (linkStatus : RteStatus) : Watched :=
  { w with station := w.station.send payload nowMs linkStatus }

def receive (w : Watched) (room : UInt8) (arrival : Arrival) : Watched where
  station := w.station.receive room arrival
  log := match arrival with
    | .error _ => w.log
    | .ok frame => verdict w.station room frame :: w.log

def setResync (w : Watched) (enable : Bool) : Watched :=
  { w with station := { w.station with channel := setResyncOnSequenceError w.station.channel enable } }

end Watched

inductive Event where
  | send (p : Party) (payload : Bytes) (nowMs : UInt64) (linkStatus : RteStatus)
  | receive (p : Party) (room : UInt8) (arrival : Arrival)
  | setResync (p : Party) (enable : Bool)

def step (s : Pair Watched) : Event → Pair Watched
  | .send p payload nowMs linkStatus => s.set p ((s.get p).send payload nowMs linkStatus)
  | .receive p room arrival => s.set p ((s.get p).receive room arrival)
  | .setResync p enable => s.set p ((s.get p).setResync enable)

def Admitted (s : Pair Watched) : Event → Prop
  | .send p payload nowMs linkStatus => ((s.get p).send payload nowMs linkStatus).station.sent.length < 2 ^ 32
  | .receive _ _ (.error _) => True
  | .receive p _ (.ok frame) => frame ∈ (s.get p.other).station.carried ∨ Injected (s.get p).station frame
  | .setResync _ _ => True

structure Fresh (s : Pair Watched) : Prop where
  created : ∀ p, ∃ config channel manager enable, dualMsgchannelInit config = .ok channel ∧
    s.get p = ⟨⟨setResyncOnSequenceError channel enable, manager, [], [], []⟩, []⟩
  crossed : ∀ p, (s.get p.other).station.channel.expectedPeerId = (s.get p).station.channel.senderId

def Behind (expected : UInt32) (log : List Verdict) : Prop :=
  ∀ later f earlier, log = later ++ .delivered f :: earlier →
    (∀ v, .outOfSequence v ∈ later → f.sequenceNumber ≤ v.sequenceNumber) → f.sequenceNumber < expected

def OlderBetween (entry : Verdict) (log : List Verdict) : Prop :=
  ∀ f, entry = .delivered f → ∀ between g earlier, log = between ++ .delivered g :: earlier →
    g.sequenceNumber = f.sequenceNumber →
      ∃ v, .outOfSequence v ∈ between ∧ v.sequenceNumber < f.sequenceNumber

structure Direction (own : Station) (other : Watched) : Prop where
  crossed : other.station.channel.expectedPeerId = own.channel.senderId
  next : own.channel.nextSequence = UInt32.ofNat own.sent.length
  short : own.sent.length < 2 ^ 32
  carried : ∀ frame ∈ own.carried, frame.sequenceNumber.toNat < own.sent.length
  heard : ∀ frame, .delivered frame ∈ other.log ∨ .outOfSequence frame ∈ other.log → frame ∈ own.carried
  behind : Behind other.station.channel.expectedSequence other.log
  older : Each OlderBetween other.log

theorem behindKeeps {expected : UInt32} {log : List Verdict} (behind : Behind expected log) {entry : Verdict}
    (notDelivered : ∀ f, entry ≠ .delivered f) {expected' : UInt32}
    (moved : expected' = expected ∨ ∃ v, entry = .outOfSequence v ∧ ∀ n ≤ v.sequenceNumber, n < expected') :
    Behind expected' (entry :: log) := by
  intro later f earlier split kept
  cases later with
  | nil => exact absurd (List.cons.inj split).1 (notDelivered f)
  | cons first rest =>
    obtain ⟨rfl, tail⟩ := List.cons.inj split
    rcases moved with rfl | ⟨v, rfl, past⟩
    · exact behind rest f earlier tail fun v member => kept v (List.mem_cons_of_mem _ member)
    · exact past _ (kept v List.mem_cons_self)

theorem behindDelivers {expected : UInt32} {log : List Verdict} (behind : Behind expected log) {frame : VitalMessage}
    (number : frame.sequenceNumber = expected) (grows : expected < expected + 1) :
    Behind (expected + 1) (.delivered frame :: log) := by
  intro later f earlier split kept
  cases later with
  | nil =>
    cases (List.cons.inj split).1
    rw [number]
    exact grows
  | cons first rest =>
    obtain ⟨rfl, tail⟩ := List.cons.inj split
    have before := behind rest f earlier tail fun v member => kept v (List.mem_cons_of_mem _ member)
    exact UInt32.lt_trans before grows

theorem olderDelivers {expected : UInt32} {log : List Verdict} (behind : Behind expected log) {frame : VitalMessage}
    (number : frame.sequenceNumber = expected) : OlderBetween (.delivered frame) log := by
  intro f same between g earlier split equal
  cases same
  by_contra none_
  have small : g.sequenceNumber < expected := by
    refine behind between g earlier split fun v member => ?_
    rw [equal]
    by_contra less
    exact none_ ⟨v, member, UInt32.not_le.mp less⟩
  rw [equal, number] at small
  exact UInt32.lt_irrefl _ small

theorem ownSends {own : Station} {other : Watched} (line : Direction own other) (payload : Bytes) (nowMs : UInt64)
    (linkStatus : RteStatus) (short : (own.send payload nowMs linkStatus).sent.length < 2 ^ 32) :
    Direction (own.send payload nowMs linkStatus) other := by
  rcases sendCases own.channel own.manager payload nowMs linkStatus with ⟨failed, same⟩ | ⟨m', frame, _, created, same⟩
  · have after : own.send payload nowMs linkStatus = { own with
        manager := (own.send payload nowMs linkStatus).manager } := by
      simp [Station.send, failed, same]
    rw [after]
    exact ⟨line.crossed, line.next, line.short, line.carried, line.heard, line.behind, line.older⟩
  · have after : own.send payload nowMs linkStatus =
        { own with
          channel := { own.channel with nextSequence := own.channel.nextSequence + 1 }
          manager := m'
          carried := frame :: own.carried
          sent := own.sent ++ [payload] } := by
      simp [Station.send, same]
    have number := (createdCarries created).1
    rw [after] at short ⊢
    refine ⟨line.crossed, ?_, short, ?_, ?_, line.behind, line.older⟩
    · simp [line.next, UInt32.ofNat_add]
    · intro f member
      rw [List.length_append]
      rcases List.mem_cons.mp member with rfl | old
      · rw [number, line.next, UInt32.toNat_ofNat', Nat.mod_eq_of_lt line.short]
        exact Nat.lt_succ_self _
      · exact Nat.lt_succ_of_lt (line.carried f old)
    · exact fun f member => List.mem_cons_of_mem _ (line.heard f member)

theorem ownReceives {own : Station} {other : Watched} (line : Direction own other) (room : UInt8) (arrival : Arrival) :
    Direction (own.receive room arrival) other := by
  have channel : (own.receive room arrival).channel.senderId = own.channel.senderId ∧
      (own.receive room arrival).channel.nextSequence = own.channel.nextSequence := by
    change (dualMsgchannelReceive own.channel own.manager room arrival).channel.senderId = _ ∧
      (dualMsgchannelReceive own.channel own.manager room arrival).channel.nextSequence = _
    cases receiveOutcome own.channel own.manager room arrival with
    | accepted _ _ _ _ _ _ same => rw [same]; exact ⟨rfl, rfl⟩
    | followed _ _ _ _ _ _ _ same => rw [same]; exact ⟨rfl, rfl⟩
    | refused _ same => rw [same]; exact ⟨rfl, rfl⟩
  exact ⟨line.crossed.trans channel.1.symm, channel.2.trans line.next, line.short, line.carried, line.heard,
    line.behind, line.older⟩

theorem otherSends {own : Station} {other : Watched} (line : Direction own other) (payload : Bytes) (nowMs : UInt64)
    (linkStatus : RteStatus) : Direction own (other.send payload nowMs linkStatus) := by
  have channel : (other.send payload nowMs linkStatus).station.channel.expectedPeerId =
        other.station.channel.expectedPeerId ∧
      (other.send payload nowMs linkStatus).station.channel.expectedSequence =
        other.station.channel.expectedSequence := by
    change (dualMsgchannelSend _ _ payload nowMs linkStatus).channel.expectedPeerId = _ ∧
      (dualMsgchannelSend _ _ payload nowMs linkStatus).channel.expectedSequence = _
    rcases sendCases other.station.channel other.station.manager payload nowMs linkStatus with
      ⟨_, same⟩ | ⟨_, _, _, _, same⟩ <;> rw [same] <;> exact ⟨rfl, rfl⟩
  refine ⟨channel.1.trans line.crossed, line.next, line.short, line.carried, line.heard, ?_, line.older⟩
  rw [channel.2]
  exact line.behind

theorem successor {own : Station} {other : Watched} (line : Direction own other) {frame : VitalMessage}
    (carried : frame ∈ own.carried) : (frame.sequenceNumber + 1).toNat = frame.sequenceNumber.toNat + 1 := by
  have small := line.carried frame carried
  have short := line.short
  rw [UInt32.toNat_add]
  exact Nat.mod_eq_of_lt (Nat.lt_of_le_of_lt small short)

theorem verdictOutOfSequence {s : Station} {room : UInt8} {frame f : VitalMessage}
    (out : verdict s room frame = .outOfSequence f) : f = frame ∧ ¬Injected s frame := by
  unfold verdict at out
  dsimp only at out
  split at out
  · cases out
  split at out
  · rename_i corrupt
    cases out
    refine ⟨rfl, ?_⟩
    rintro (wrongSender | damaged)
    · by_cases open_ : room = 0
      · have refused : (dualMsgchannelReceive s.channel s.manager room (.ok frame)).status = .invalidParam := by
          simp [dualMsgchannelReceive, open_]
        rw [refused] at corrupt
        cases corrupt.1
      · rw [receiveWrongSender open_ wrongSender] at corrupt
        cases corrupt.1
    · exact damaged corrupt.2
  · cases out

theorem genuineCarried {own other : Station} {frame : VitalMessage}
    (admitted : frame ∈ own.carried ∨ Injected other frame) (peer : frame.senderId = other.channel.expectedPeerId)
    (intact : (checksumCrc64Verify other.manager frame.covered frame.crc64).2.2 = .ok) : frame ∈ own.carried := by
  rcases admitted with sent | wrongSender | damaged
  · exact sent
  · exact absurd peer wrongSender
  · exact absurd intact damaged

theorem heardEntry {own : Station} {other : Watched} (line : Direction own other) {entry : Verdict}
    (genuine : ∀ f, entry = .delivered f ∨ entry = .outOfSequence f → f ∈ own.carried) (f : VitalMessage)
    (heard : .delivered f ∈ entry :: other.log ∨ .outOfSequence f ∈ entry :: other.log) : f ∈ own.carried := by
  rcases heard with delivered | out
  · rcases List.mem_cons.mp delivered with new | old
    · exact genuine f (Or.inl new.symm)
    · exact line.heard f (Or.inl old)
  · rcases List.mem_cons.mp out with new | old
    · exact genuine f (Or.inr new.symm)
    · exact line.heard f (Or.inr old)

theorem acceptedDirection {own : Station} {other other' : Watched} (line : Direction own other)
    {frame : VitalMessage} (carried : frame ∈ own.carried)
    (number : frame.sequenceNumber = other.station.channel.expectedSequence)
    (channel : other'.station.channel = { other.station.channel with expectedSequence := frame.sequenceNumber + 1 })
    (log : other'.log = .delivered frame :: other.log) : Direction own other' := by
  have grows : other.station.channel.expectedSequence < other.station.channel.expectedSequence + 1 := by
    rw [← number, UInt32.lt_iff_toNat_lt, successor line carried]
    exact Nat.lt_succ_self _
  refine ⟨?_, line.next, line.short, line.carried, ?_, ?_, ?_⟩
  · rw [channel]
    exact line.crossed
  · rw [log]
    refine heardEntry line fun f entry => ?_
    rcases entry with delivered | out
    · cases delivered
      exact carried
    · cases out
  · rw [log, channel]
    dsimp only
    rw [number]
    exact behindDelivers line.behind number grows
  · rw [log]
    exact ⟨olderDelivers line.behind number, line.older⟩

theorem followedDirection {own : Station} {other other' : Watched} (line : Direction own other)
    {frame : VitalMessage} (carried : frame ∈ own.carried)
    (channel : other'.station.channel = { other.station.channel with expectedSequence := frame.sequenceNumber + 1 })
    (log : other'.log = .outOfSequence frame :: other.log) : Direction own other' := by
  refine ⟨?_, line.next, line.short, line.carried, ?_, ?_, ?_⟩
  · rw [channel]
    exact line.crossed
  · rw [log]
    refine heardEntry line fun f entry => ?_
    rcases entry with delivered | out
    · cases delivered
    · cases out
      exact carried
  · rw [log, channel]
    refine behindKeeps line.behind (by simp) (Or.inr ⟨frame, rfl, fun n small => ?_⟩)
    dsimp only
    rw [UInt32.le_iff_toNat_le] at small
    rw [UInt32.lt_iff_toNat_lt, successor line carried]
    exact Nat.lt_succ_of_le small
  · rw [log]
    exact ⟨fun _ delivered => (by cases delivered), line.older⟩

theorem refusedDirection {own : Station} {other other' : Watched} (line : Direction own other) {entry : Verdict}
    (notDelivered : ∀ f, entry ≠ .delivered f) (genuine : ∀ f, entry = .outOfSequence f → f ∈ own.carried)
    (channel : other'.station.channel = other.station.channel) (log : other'.log = entry :: other.log) :
    Direction own other' := by
  refine ⟨channel ▸ line.crossed, line.next, line.short, line.carried, ?_, ?_, ?_⟩
  · rw [log]
    refine heardEntry line fun f entry => ?_
    rcases entry with delivered | out
    · exact absurd delivered (notDelivered f)
    · exact genuine f out
  · rw [log, channel]
    exact behindKeeps line.behind notDelivered (Or.inl rfl)
  · rw [log]
    exact ⟨fun f delivered => absurd delivered (notDelivered f), line.older⟩

theorem otherReceives {own : Station} {other : Watched} (line : Direction own other) (room : UInt8) (arrival : Arrival)
    (admitted : ∀ frame, arrival = .ok frame → frame ∈ own.carried ∨ Injected other.station frame) :
    Direction own (other.receive room arrival) := by
  cases receiveOutcome other.station.channel other.station.manager room arrival with
  | accepted m' frame payload arrived peer verified same =>
    subst arrived
    obtain ⟨intact, number, _, _⟩ := verifiedMessage verified
    refine acceptedDirection line (genuineCarried (admitted frame rfl) peer intact) number ?_ ?_
    · simp [Watched.receive, Station.receive, same]
    · simp [Watched.receive, verdict, same]
  | followed frame arrived peer intact different follows status same =>
    subst arrived
    refine followedDirection line (genuineCarried (admitted frame rfl) peer intact) same ?_
    simp [Watched.receive, verdict, status, intact]
  | refused status same nothing =>
    have channel : (other.receive room arrival).station.channel = other.station.channel := same
    cases arrival with
    | error failure =>
      exact ⟨channel ▸ line.crossed, line.next, line.short, line.carried, line.heard, channel ▸ line.behind, line.older⟩
    | ok frame =>
      have notDelivered : ∀ f, verdict other.station room frame ≠ .delivered f := by
        intro f
        unfold verdict
        rw [if_neg status]
        split <;> simp
      refine refusedDirection line notDelivered (fun f out => ?_) channel rfl
      obtain ⟨rfl, genuine⟩ := verdictOutOfSequence out
      exact (admitted f rfl).resolve_right genuine

theorem ownSetsResync {own : Watched} {other : Watched} (line : Direction own.station other) (enable : Bool) :
    Direction (own.setResync enable).station other :=
  ⟨line.crossed, line.next, line.short, line.carried, line.heard, line.behind, line.older⟩

theorem otherSetsResync {own : Station} {other : Watched} (line : Direction own other) (enable : Bool) :
    Direction own (other.setResync enable) :=
  ⟨line.crossed, line.next, line.short, line.carried, line.heard, line.behind, line.older⟩

def Directions (s : Pair Watched) : Prop := ∀ p, Direction (s.get p).station (s.get p.other)

theorem Directions.towards {s : Pair Watched} (lines : Directions s) (p : Party) :
    Direction (s.get p.other).station (s.get p) := by
  have line := lines p.other
  rwa [Party.otherOther] at line

theorem directionsStep (s : Pair Watched) (e : Event) (lines : Directions s) (admitted : Admitted s e) :
    Directions (step s e) := by
  cases e with
  | send p payload nowMs linkStatus =>
    exact Pair.setBoth (R := fun own other => Direction own.station other)
      (ownSends (lines p) payload nowMs linkStatus admitted) (otherSends (lines.towards p) payload nowMs linkStatus)
  | receive p room arrival =>
    have genuine : ∀ frame, arrival = .ok frame →
        frame ∈ (s.get p.other).station.carried ∨ Injected (s.get p).station frame := by
      rintro frame rfl
      exact admitted
    exact Pair.setBoth (R := fun own other => Direction own.station other) (ownReceives (lines p) room arrival)
      (otherReceives (lines.towards p) room arrival genuine)
  | setResync p enable =>
    exact Pair.setBoth (R := fun own other => Direction own.station other) (ownSetsResync (lines p) enable)
      (otherSetsResync (lines.towards p) enable)

theorem directionsFresh {s : Pair Watched} (fresh : Fresh s) : Directions s := by
  intro p
  have crossed := fresh.crossed p
  obtain ⟨config, channel, manager, enable, init, same⟩ := fresh.created p
  obtain ⟨config', channel', manager', enable', init', same'⟩ := fresh.created p.other
  rw [same, same'] at crossed ⊢
  have next : channel.nextSequence = 0 := by
    unfold dualMsgchannelInit at init
    split at init <;> cases init
    rfl
  refine ⟨crossed, next, by simp, by simp, by simp, ?_, True.intro⟩
  intro later f earlier split
  simp at split

/- Every frame let in is one the peer sent. If it is let in again, an older frame of the
peer came in between and was turned away. -/
theorem replayNeedsOlder {start : Pair Watched} {events : List Event} (fresh : Fresh start)
    (admitted : Always step Admitted start events) (p : Party) :
    (∀ frame, .delivered frame ∈ ((run step start events).get p).log →
      frame ∈ ((run step start events).get p.other).station.carried) ∧
    ∀ later frame between earlier,
      ((run step start events).get p).log = later ++ .delivered frame :: (between ++ .delivered frame :: earlier) →
        ∃ older, .outOfSequence older ∈ between ∧
          older ∈ ((run step start events).get p.other).station.carried ∧
          older.sequenceNumber < frame.sequenceNumber := by
  have lines : Directions (run step start events) :=
    invariantRun (directionsFresh fresh) directionsStep admitted
  have line := lines.towards p
  refine ⟨fun frame delivered => line.heard frame (Or.inl delivered), ?_⟩
  intro later frame between earlier split
  have each := line.older
  rw [split] at each
  obtain ⟨older, out, number⟩ := eachEntry each frame rfl between frame earlier rfl rfl
  refine ⟨older, out, line.heard older (Or.inr ?_), number⟩
  rw [split]
  exact List.mem_append_right _ (List.mem_cons_of_mem _ (List.mem_append_left _ out))

structure Listening (expected : UInt32) (log : List Verdict) (w : Watched) : Prop where
  channel : w.station.channel = ⟨2, 1, 0, expected, true⟩
  table : SameTable (Session.station 2 1).manager w.station.manager
  log : w.log = log

def peerFrame (number : UInt32) (payload : Bytes) : VitalMessage :=
  (filledMessage 1 number payload 0).sealed
    (checksumCrc64 (Session.station 1 2).manager (filledMessage 1 number payload 0).covered).2

section Hear
variable {w : Watched} {expected : UInt32} {log : List Verdict} {number : UInt32} {payload : Bytes}

theorem peerFrameMade (number : UInt32) (short : payload.length ≤ vitalPayloadMax) :
    checksumVitalMessageCreate (Session.station 1 2).manager 1 number payload 0 =
      ((checksumCrc64 (Session.station 1 2).manager (filledMessage 1 number payload 0).covered).1,
        .ok (peerFrame number payload)) :=
  createsMessage rfl 1 number short 0

theorem hearsNext (listening : Listening number log w) (short : payload.length ≤ vitalPayloadMax) :
    Listening (number + 1) (.delivered (peerFrame number payload) :: log)
      (w.receive 248 (.ok (peerFrame number payload))) := by
  have channel := listening.channel
  have verified : (checksumVitalMessageVerify w.station.manager (peerFrame number payload)
      w.station.channel.expectedSequence 248).2 = .ok payload := by
    rw [channel]
    exact createdVerifies (peerFrameMade number short) listening.table.ready listening.table.table short
  have peer : (peerFrame number payload).senderId = w.station.channel.expectedPeerId := by
    rw [channel]
    rfl
  obtain ⟨status, _, moved⟩ := receiveAccepts (by decide : (248 : UInt8) ≠ 0) peer verified
  have kept := receiveKeepsTable w.station.channel w.station.manager 248 (.ok (peerFrame number payload))
  refine ⟨?_, listening.table.trans kept, ?_⟩
  · refine moved.trans ?_
    rw [channel]
    rfl
  · simp only [Watched.receive, verdict, status, if_true, listening.log]

theorem hearsOther (listening : Listening expected log w) (short : payload.length ≤ vitalPayloadMax)
    (other : number ≠ expected) :
    Listening (number + 1) (.outOfSequence (peerFrame number payload) :: log)
      (w.receive 248 (.ok (peerFrame number payload))) := by
  have channel := listening.channel
  have intact := createdIntact (peerFrameMade number short) listening.table
  have peer : (peerFrame number payload).senderId = w.station.channel.expectedPeerId := by
    rw [channel]
    rfl
  have different : (peerFrame number payload).sequenceNumber ≠ w.station.channel.expectedSequence := by
    rw [channel]
    exact other
  have follows : w.station.channel.resyncOnSequenceError = true := by rw [channel]
  obtain ⟨status, moved⟩ := receiveFollows (by decide : (248 : UInt8) ≠ 0) peer intact different follows
  have kept := receiveKeepsTable w.station.channel w.station.manager 248 (.ok (peerFrame number payload))
  refine ⟨?_, listening.table.trans kept, ?_⟩
  · refine moved.trans ?_
    rw [channel]
    rfl
  · simp [Watched.receive, verdict, status, intact, listening.log]

end Hear

def watchedStations : Pair Watched where
  one := ⟨⟨setResyncOnSequenceError (Session.station 1 2).channel true, (Session.station 1 2).manager, [], [], []⟩, []⟩
  two := ⟨⟨setResyncOnSequenceError (Session.station 2 1).channel true, (Session.station 2 1).manager, [], [], []⟩, []⟩

theorem watchedFresh : Fresh watchedStations := by
  refine ⟨?_, ?_⟩
  · rintro (_ | _)
    · exact ⟨⟨true, 1, 2⟩, _, _, true, rfl, rfl⟩
    · exact ⟨⟨true, 2, 1⟩, _, _, true, rfl, rfl⟩
  · rintro (_ | _) <;> rfl

def repeatedPair : List Event :=
  [.send .one [7] 0 .ok, .send .one [8] 0 .ok, .receive .two 248 (.ok (peerFrame 0 [7])),
    .receive .two 248 (.ok (peerFrame 1 [8])), .receive .two 248 (.ok (peerFrame 0 [7])),
    .receive .two 248 (.ok (peerFrame 1 [8]))]

theorem repeatedPairLog : ((run step watchedStations repeatedPair).get .two).log =
    [.delivered (peerFrame 1 [8]), .outOfSequence (peerFrame 0 [7]), .delivered (peerFrame 1 [8]),
      .delivered (peerFrame 0 [7])] := by
  have start : Listening 0 [] watchedStations.two := ⟨rfl, ⟨rfl, rfl⟩, rfl⟩
  have first : Listening 1 _ (watchedStations.two.receive 248 (.ok (peerFrame 0 [7]))) := hearsNext start (by decide)
  have second : Listening 2 _ (Watched.receive _ 248 (.ok (peerFrame 1 [8]))) := hearsNext first (by decide)
  have third : Listening 1 _ (Watched.receive _ 248 (.ok (peerFrame 0 [7]))) :=
    hearsOther second (show [(7 : UInt8)].length ≤ vitalPayloadMax by decide) (show (0 : UInt32) ≠ 2 by decide)
  have fourth : Listening 2 _ (Watched.receive _ 248 (.ok (peerFrame 1 [8]))) := hearsNext third (by decide)
  exact fourth.log

theorem repeatedPairAdmitted : Always step Admitted watchedStations repeatedPair := by
  have short : (watchedStations.one.send [7] 0 .ok).station.sent.length < 2 ^ 32 ∧
      ((watchedStations.one.send [7] 0 .ok).send [8] 0 .ok).station.sent.length < 2 ^ 32 := by decide
  have carried : ((watchedStations.one.send [7] 0 .ok).send [8] 0 .ok).station.carried =
      [peerFrame 1 [8], peerFrame 0 [7]] := rfl
  have older : peerFrame 0 [7] ∈ ((watchedStations.one.send [7] 0 .ok).send [8] 0 .ok).station.carried := by
    rw [carried]
    exact List.mem_cons_of_mem _ List.mem_cons_self
  have newer : peerFrame 1 [8] ∈ ((watchedStations.one.send [7] 0 .ok).send [8] 0 .ok).station.carried := by
    rw [carried]
    exact List.mem_cons_self
  exact alwaysCons.mpr ⟨short.1, alwaysCons.mpr ⟨short.2, alwaysCons.mpr ⟨Or.inl older, alwaysCons.mpr ⟨Or.inl newer,
    alwaysCons.mpr ⟨Or.inl older, alwaysCons.mpr ⟨Or.inl newer, alwaysNil step Admitted _⟩⟩⟩⟩⟩⟩

/- One frame is let in twice. -/
theorem frameReplayed : Fresh watchedStations ∧ Always step Admitted watchedStations repeatedPair ∧
    ∃ later between earlier, ((run step watchedStations repeatedPair).get .two).log =
      later ++ .delivered (peerFrame 1 [8]) :: (between ++ .delivered (peerFrame 1 [8]) :: earlier) :=
  ⟨watchedFresh, repeatedPairAdmitted, [], [.outOfSequence (peerFrame 0 [7])], [.delivered (peerFrame 0 [7])],
    repeatedPairLog⟩

theorem replayAfterOlder : ∃ older, .outOfSequence older ∈ [Verdict.outOfSequence (peerFrame 0 [7])] ∧
    older ∈ ((run step watchedStations repeatedPair).get .one).station.carried ∧
    older.sequenceNumber < (peerFrame 1 [8]).sequenceNumber :=
  (replayNeedsOlder watchedFresh repeatedPairAdmitted .two).2 [] (peerFrame 1 [8])
    [.outOfSequence (peerFrame 0 [7])] [.delivered (peerFrame 0 [7])] repeatedPairLog

end PlatformRte.Dual.Resync
