import PlatformRte.Checksum.Bitwise
import PlatformRte.Dual.MsgChannel
import PlatformRte.Lib.Machine

/-! A message channel that follows the numbers of its peer. Whatever arrives, an intact
frame of the peer is let in if and only if it carries the number after the one that
arrived before it; so on a link that keeps the order a gap costs one more frame. -/
namespace PlatformRte.Dual.Gaps
open Checksum Machine

inductive Call where
  | send (payload : Bytes) (nowMs : UInt64) (linkStatus : RteStatus)
  | receive (room : UInt8) (arrival : Arrival)

structure Site where
  channel : DualMsgchannel
  manager : ChecksumManager

namespace Site

def sends (s : Site) (payload : Bytes) (nowMs : UInt64) (linkStatus : RteStatus) : Site :=
  let result := dualMsgchannelSend s.channel s.manager payload nowMs linkStatus
  ⟨result.channel, result.manager⟩

def receives (s : Site) (room : UInt8) (arrival : Arrival) : Site :=
  let result := dualMsgchannelReceive s.channel s.manager room arrival
  ⟨result.channel, result.manager⟩

end Site

def step (s : Site) : Call → Site
  | .send payload nowMs linkStatus => s.sends payload nowMs linkStatus
  | .receive room arrival => s.receives room arrival

def IntactOfPeer (s : Site) (frame : VitalMessage) : Prop :=
  frame.senderId = s.channel.expectedPeerId ∧ (checksumCrc64Verify s.manager frame.covered frame.crc64).2.2 = .ok

instance (s : Site) (frame : VitalMessage) : Decidable (IntactOfPeer s frame) :=
  inferInstanceAs (Decidable (_ ∧ _))

-- A receive without room returns before it asks the link.
def arrived : Call → Option VitalMessage
  | .receive room (.ok frame) => if room = 0 then none else some frame
  | _ => none

def lastIntact (s : Site) (calls : List Call) : Option VitalMessage :=
  ((calls.filterMap arrived).filter fun frame => decide (IntactOfPeer s frame)).getLast?

def numberAfter : Option VitalMessage → UInt32
  | none => 0
  | some frame => frame.sequenceNumber + 1

def Fits (s : Site) : Call → Prop
  | .receive room (.ok frame) => room ≠ 0 → IntactOfPeer s frame → frame.payloadSize.toNat ≤ room.toNat
  | _ => True

def delivers (s : Site) (room : UInt8) (frame : VitalMessage) : Prop :=
  (dualMsgchannelReceive s.channel s.manager room (.ok frame)).status = .ok

structure SamePeer (s t : Site) : Prop where
  peer : t.channel.expectedPeerId = s.channel.expectedPeerId
  follows : t.channel.resyncOnSequenceError = s.channel.resyncOnSequenceError
  table : SameTable s.manager t.manager

theorem SamePeer.trans {s t u : Site} (first : SamePeer s t) (second : SamePeer t u) : SamePeer s u :=
  ⟨second.peer.trans first.peer, second.follows.trans first.follows, first.table.trans second.table⟩

theorem SamePeer.intact {s t : Site} (same : SamePeer s t) (frame : VitalMessage) :
    IntactOfPeer t frame ↔ IntactOfPeer s frame := by
  rw [IntactOfPeer, IntactOfPeer, same.peer, intactDepends same.table]

theorem sendsExpects (s : Site) (payload : Bytes) (nowMs : UInt64) (linkStatus : RteStatus) :
    (s.sends payload nowMs linkStatus).channel.expectedSequence = s.channel.expectedSequence ∧
      SamePeer s (s.sends payload nowMs linkStatus) := by
  have kept : SameTable s.manager (s.sends payload nowMs linkStatus).manager := by
    have created := createKeeps s.manager s.channel.senderId s.channel.nextSequence payload nowMs
    unfold Site.sends dualMsgchannelSend
    revert created
    cases checksumVitalMessageCreate s.manager s.channel.senderId s.channel.nextSequence payload nowMs with
    | mk m' result =>
      intro created
      cases result with
      | error status => exact created
      | ok frame =>
        dsimp only
        split <;> exact created
  have channel : (s.sends payload nowMs linkStatus).channel = s.channel ∨
      (s.sends payload nowMs linkStatus).channel = { s.channel with nextSequence := s.channel.nextSequence + 1 } := by
    rcases sendCases s.channel s.manager payload nowMs linkStatus with ⟨_, same⟩ | ⟨_, _, _, _, same⟩
    · exact Or.inl same
    · exact Or.inr (congrArg SendResult.channel same)
  rcases channel with same | same <;> exact ⟨by rw [same], by rw [same], by rw [same], kept⟩

theorem receivesIntact {s : Site} (follows : s.channel.resyncOnSequenceError = true) {room : UInt8}
    {frame : VitalMessage} (open_ : room ≠ 0) (intact : IntactOfPeer s frame)
    (fits : frame.payloadSize.toNat ≤ room.toNat) :
    (delivers s room frame ↔ frame.sequenceNumber = s.channel.expectedSequence) ∧
      (s.receives room (.ok frame)).channel =
        { s.channel with expectedSequence := frame.sequenceNumber + 1 } := by
  by_cases next : frame.sequenceNumber = s.channel.expectedSequence
  · obtain ⟨status, _, channel⟩ := receiveAccepts open_ intact.1 (verifyAccepts intact.2 next fits)
    exact ⟨⟨fun _ => next, fun _ => status⟩, channel⟩
  · obtain ⟨status, channel⟩ := receiveFollows open_ intact.1 intact.2 next follows
    refine ⟨⟨fun delivered => ?_, fun same => absurd same next⟩, channel⟩
    rw [delivers, status] at delivered
    cases delivered

theorem receivesOther {s : Site} {room : UInt8} {arrival : Arrival}
    (other : ∀ frame, arrived (.receive room arrival) = some frame → ¬IntactOfPeer s frame) :
    (s.receives room arrival).channel = s.channel := by
  by_cases shut : room = 0
  · unfold Site.receives dualMsgchannelReceive
    rw [if_pos shut]
  · have never (frame : VitalMessage) (here : arrival = .ok frame) : ¬IntactOfPeer s frame :=
      other frame (by rw [here, arrived, if_neg shut])
    cases receiveOutcome s.channel s.manager room arrival with
    | accepted m' frame payload here peer verified same =>
      exact absurd ⟨peer, (verifiedMessage verified).1⟩ (never frame here)
    | followed frame here peer intact number on status same nothing =>
      exact absurd ⟨peer, intact⟩ (never frame here)
    | refused status same nothing => exact same

structure Expects (s : Site) (calls : List Call) (t : Site) : Prop where
  same : SamePeer s t
  number : t.channel.expectedSequence = numberAfter (lastIntact s calls)

theorem lastIntactSnoc (s : Site) (calls : List Call) (call : Call) :
    lastIntact s (calls ++ [call]) =
      match arrived call with
      | none => lastIntact s calls
      | some frame => if IntactOfPeer s frame then some frame else lastIntact s calls := by
  rw [lastIntact, List.filterMap_append, List.filter_append]
  cases here : arrived call with
  | none => simp [here, lastIntact]
  | some frame =>
    by_cases intact : IntactOfPeer s frame
    · simp [here, intact]
    · simp [here, intact, lastIntact]

theorem expectsStep {s t : Site} {calls : List Call} (follows : s.channel.resyncOnSequenceError = true)
    (expects : Expects s calls t) {call : Call} (fits : Fits s call) : Expects s (calls ++ [call]) (step t call) := by
  cases call with
  | send payload nowMs linkStatus =>
    obtain ⟨number, kept⟩ := sendsExpects t payload nowMs linkStatus
    exact ⟨expects.same.trans kept, by rw [lastIntactSnoc]; exact number.trans expects.number⟩
  | receive room arrival =>
    have table := receiveKeepsTable t.channel t.manager room arrival
    by_cases intact : ∃ frame, arrived (.receive room arrival) = some frame ∧ IntactOfPeer s frame
    · obtain ⟨frame, here, intact⟩ := intact
      obtain ⟨open_, rfl⟩ : room ≠ 0 ∧ arrival = .ok frame := by
        cases arrival with
        | error status => simp [arrived] at here
        | ok other => simpa [arrived] using here
      have channel := (receivesIntact (expects.same.follows.trans follows) open_ ((expects.same.intact frame).mpr intact)
        (fits open_ intact)).2
      refine ⟨expects.same.trans ⟨by rw [step, channel], by rw [step, channel], table⟩, ?_⟩
      rw [lastIntactSnoc, here, step, channel]
      simp only [if_pos intact, numberAfter]
    · have never (frame : VitalMessage) (here : arrived (.receive room arrival) = some frame) : ¬IntactOfPeer s frame :=
        fun held => intact ⟨frame, here, held⟩
      have channel := receivesOther fun frame here => (expects.same.intact frame).not.mpr (never frame here)
      refine ⟨expects.same.trans ⟨by rw [step, channel], by rw [step, channel], table⟩, ?_⟩
      have last : lastIntact s (calls ++ [.receive room arrival]) = lastIntact s calls := by
        rw [lastIntactSnoc]
        cases here : arrived (.receive room arrival) with
        | none => rfl
        | some frame => simp only [if_neg (never frame here)]
      rw [last, step, channel, expects.number]

theorem expectsRun {s : Site} (follows : s.channel.resyncOnSequenceError = true)
    (fresh : s.channel.expectedSequence = 0) {calls : List Call} (fits : ∀ call ∈ calls, Fits s call) :
    Expects s calls (run step s calls) := by
  induction calls using List.reverseRecOn with
  | nil => exact ⟨⟨rfl, rfl, rfl, rfl⟩, fresh⟩
  | append_singleton calls call ih =>
    rw [runSnoc]
    exact expectsStep follows (ih fun c here => fits c (List.mem_append_left _ here))
      (fits call (List.mem_append_right _ List.mem_cons_self))

theorem deliversIff {s : Site} (follows : s.channel.resyncOnSequenceError = true)
    (fresh : s.channel.expectedSequence = 0) {calls : List Call} {room : UInt8} {frame : VitalMessage}
    (fits : ∀ call ∈ calls ++ [.receive room (.ok frame)], Fits s call) (open_ : room ≠ 0)
    (intact : IntactOfPeer s frame) :
    delivers (run step s calls) room frame ↔ frame.sequenceNumber = numberAfter (lastIntact s calls) := by
  have expects := expectsRun follows fresh fun call here => fits call (List.mem_append_left _ here)
  have last : Fits s (.receive room (.ok frame)) := fits _ (List.mem_append_right _ List.mem_cons_self)
  rw [(receivesIntact (expects.same.follows.trans follows) open_ ((expects.same.intact frame).mpr intact)
    (last open_ intact)).1, expects.number]

inductive Since where
  | frame | loss | restart
  deriving DecidableEq

/- fate: the room of the receive in which the frame arrives, none when it is lost. -/
inductive Hop where
  | send (payload : Bytes) (nowMs : UInt64) (linkStatus : RteStatus) (fate : Option UInt8)
  | restart (config : DualMsgchannelConfig)
  | other (call : Call)

/- A sender, a receiver and the link between them, which keeps the order. -/
structure Link where
  sender : Site
  receiver : Site
  since : Since
  lossRuns : Nat
  restarts : Nat
  turnedAway : Nat

instance (s : Site) (room : UInt8) (frame : VitalMessage) : Decidable (delivers s room frame) :=
  inferInstanceAs (Decidable (_ = _))

namespace Link

def lose (l : Link) : Link :=
  { l with
    since := .loss
    lossRuns := if l.since = .loss then l.lossRuns else l.lossRuns + 1 }

def arrive (l : Link) (room : UInt8) (frame : VitalMessage) : Link :=
  { l with
    receiver := l.receiver.receives room (.ok frame)
    since := .frame
    turnedAway := if delivers l.receiver room frame then l.turnedAway else l.turnedAway + 1 }

def restart (l : Link) (config : DualMsgchannelConfig) : Link :=
  match dualMsgchannelInit config with
  | .error _ => l
  | .ok channel =>
      { l with
        sender := ⟨channel, l.sender.manager⟩
        -- a run of losses goes on over a restart
        since := if l.since = .frame then .restart else l.since
        restarts := l.restarts + 1 }

def step (l : Link) : Hop → Link
  | .send payload nowMs linkStatus fate =>
      let result := dualMsgchannelSend l.sender.channel l.sender.manager payload nowMs linkStatus
      let l := { l with sender := ⟨result.channel, result.manager⟩ }
      match result.status, result.frame, fate with
      | .ok, some _, none => l.lose
      | .ok, some frame, some room => l.arrive room frame
      -- what the link did not take is not under way
      | _, _, _ => l
  | .restart config => l.restart config
  | .other call => { l with receiver := Gaps.step l.receiver call }

end Link

/- A frame that arrives fits, a restarted sender has its id again, and nothing else is
an intact frame of the sender. -/
def Admitted (l : Link) : Hop → Prop
  | .send payload _ _ (some room) => room ≠ 0 ∧ payload.length ≤ room.toNat
  | .send _ _ _ none => True
  | .restart config => config.senderId = l.sender.channel.senderId
  | .other call => ∀ frame, arrived call = some frame → ¬IntactOfPeer l.receiver frame

def InStep (l : Link) : Hop → Prop
  | .send payload nowMs linkStatus (some room) => ∀ frame, l.since = .frame →
      (dualMsgchannelSend l.sender.channel l.sender.manager payload nowMs linkStatus).status = .ok →
      (dualMsgchannelSend l.sender.channel l.sender.manager payload nowMs linkStatus).frame = some frame →
      (dualMsgchannelReceive l.receiver.channel l.receiver.manager room (.ok frame)).delivered =
        some (payload, frame.sequenceNumber)
  | _ => True

def Link.owing (l : Link) : Nat := if l.since = .frame then 0 else 1

structure Followed (l : Link) : Prop where
  peer : l.receiver.channel.expectedPeerId = l.sender.channel.senderId
  table : SameTable l.sender.manager l.receiver.manager
  follows : l.receiver.channel.resyncOnSequenceError = true
  inStep : l.since = .frame → l.receiver.channel.expectedSequence = l.sender.channel.nextSequence
  bounded : l.turnedAway + l.owing ≤ l.lossRuns + l.restarts

theorem sendsFrame {s : Site} {payload : Bytes} {nowMs : UInt64} {linkStatus : RteStatus}
    (sent : (dualMsgchannelSend s.channel s.manager payload nowMs linkStatus).status = .ok) :
    ∃ m' frame, SameTable s.manager m' ∧
      checksumVitalMessageCreate s.manager s.channel.senderId s.channel.nextSequence payload nowMs = (m', .ok frame) ∧
      dualMsgchannelSend s.channel s.manager payload nowMs linkStatus =
        ⟨{ s.channel with nextSequence := s.channel.nextSequence + 1 }, m', .ok, some frame⟩ := by
  rcases sendCases s.channel s.manager payload nowMs linkStatus with ⟨refused, _⟩ | ⟨m', frame, _, created, same⟩
  · exact absurd sent refused
  · have kept := createKeeps s.manager s.channel.senderId s.channel.nextSequence payload nowMs
    rw [created] at kept
    exact ⟨m', frame, kept, created, same⟩

theorem sentIntact {l : Link} (followed : Followed l) {payload : Bytes} {nowMs : UInt64} {m' : ChecksumManager}
    {frame : VitalMessage}
    (created : checksumVitalMessageCreate l.sender.manager l.sender.channel.senderId l.sender.channel.nextSequence
      payload nowMs = (m', .ok frame)) : IntactOfPeer l.receiver frame := by
  obtain ⟨_, _, made⟩ := createdMessage created
  refine ⟨?_, createdIntact created followed.table⟩
  rw [followed.peer, made]
  rfl

theorem arriveFollowed {l : Link} (followed : Followed l) {payload : Bytes} {nowMs : UInt64} {m' : ChecksumManager}
    {frame : VitalMessage} (kept : SameTable l.sender.manager m')
    (created : checksumVitalMessageCreate l.sender.manager l.sender.channel.senderId l.sender.channel.nextSequence
      payload nowMs = (m', .ok frame)) {room : UInt8} (open_ : room ≠ 0) (fits : payload.length ≤ room.toNat) :
    Followed ({ l with
      sender := ⟨{ l.sender.channel with nextSequence := l.sender.channel.nextSequence + 1 }, m'⟩ }.arrive room frame) := by
  obtain ⟨number, size, _⟩ := createdCarries created
  obtain ⟨letIn, channel⟩ := receivesIntact followed.follows open_ (sentIntact followed created) (size.trans_le fits)
  have heard := receiveKeepsTable l.receiver.channel l.receiver.manager room (.ok frame)
  have bounded := followed.bounded
  refine ⟨?_, (kept.symm.trans followed.table).trans heard, ?_, fun _ => ?_, ?_⟩
  · rw [Link.arrive, channel]
    exact followed.peer
  · rw [Link.arrive, channel]
    exact followed.follows
  · rw [Link.arrive, channel, number]
  · simp only [Link.arrive, Link.owing, if_true, Nat.add_zero]
    by_cases since : l.since = .frame
    · have delivered := letIn.mpr (number.trans (followed.inStep since).symm)
      rw [if_pos delivered]
      exact le_of_add_le_left bounded
    · simp only [Link.owing, if_neg since] at bounded
      split
      · exact le_of_add_le_left bounded
      · exact bounded

theorem loseFollowed {l : Link} (followed : Followed l) {channel : DualMsgchannel} {m' : ChecksumManager}
    (kept : SameTable l.sender.manager m') (id : channel.senderId = l.sender.channel.senderId) :
    Followed { l with sender := ⟨channel, m'⟩ }.lose := by
  have bounded := followed.bounded
  refine ⟨followed.peer.trans id.symm, kept.symm.trans followed.table, followed.follows, ?_, ?_⟩
  · intro since
    cases since
  · simp only [Link.lose, Link.owing] at bounded ⊢
    by_cases losing : l.since = .loss
    · simpa [losing] using bounded
    · rw [if_neg losing, if_neg (show Since.loss ≠ .frame by decide)]
      omega

theorem restartFollowed {l : Link} (followed : Followed l) {config : DualMsgchannelConfig}
    (id : config.senderId = l.sender.channel.senderId) : Followed (l.restart config) := by
  unfold Link.restart dualMsgchannelInit
  by_cases link : config.link
  · have bounded := followed.bounded
    have behind : (if l.since = .frame then Since.restart else l.since) ≠ .frame := by
      split
      · decide
      · assumption
    rw [if_pos link]
    refine ⟨followed.peer.trans id.symm, followed.table, followed.follows, fun since => absurd since behind, ?_⟩
    simp only [Link.owing, if_neg behind] at bounded ⊢
    split at bounded <;> omega
  · rw [if_neg link]
    exact followed

theorem otherFollowed {l : Link} (followed : Followed l) {call : Call}
    (other : ∀ frame, arrived call = some frame → ¬IntactOfPeer l.receiver frame) :
    Followed { l with receiver := step l.receiver call } := by
  have kept : (step l.receiver call).channel.expectedSequence = l.receiver.channel.expectedSequence ∧
      SamePeer l.receiver (step l.receiver call) := by
    cases call with
    | send payload nowMs linkStatus => exact sendsExpects l.receiver payload nowMs linkStatus
    | receive room arrival =>
      have same := receivesOther other
      exact ⟨congrArg _ same, congrArg _ same, congrArg _ same, receiveKeepsTable _ _ _ _⟩
  exact ⟨kept.2.peer.trans followed.peer, followed.table.trans kept.2.table, kept.2.follows.trans followed.follows,
    fun since => kept.1.trans (followed.inStep since), followed.bounded⟩

theorem linkFollowed {l : Link} (followed : Followed l) {hop : Hop} (admitted : Admitted l hop) :
    Followed (l.step hop) := by
  cases hop with
  | restart config => exact restartFollowed followed admitted
  | other call => exact otherFollowed followed admitted
  | send payload nowMs linkStatus fate =>
    by_cases sent : (dualMsgchannelSend l.sender.channel l.sender.manager payload nowMs linkStatus).status = .ok
    · obtain ⟨m', frame, kept, created, same⟩ := sendsFrame sent
      simp only [Link.step, same]
      cases fate with
      | none => exact loseFollowed followed kept rfl
      | some room => exact arriveFollowed followed kept created admitted.1 admitted.2
    · have channel : (dualMsgchannelSend l.sender.channel l.sender.manager payload nowMs linkStatus).channel =
          l.sender.channel := by
        rcases sendCases l.sender.channel l.sender.manager payload nowMs linkStatus with ⟨_, same⟩ | ⟨_, _, _, _, same⟩
        · exact same
        · exact absurd (congrArg SendResult.status same) sent
      have kept := (sendsExpects l.sender payload nowMs linkStatus).2.table
      have unsent : l.step (.send payload nowMs linkStatus fate) =
          { l with sender := l.sender.sends payload nowMs linkStatus } := by
        simp only [Link.step]
        split
        · rename_i status _
          exact absurd status sent
        · rename_i status _
          exact absurd status sent
        · rfl
      rw [unsent]
      exact ⟨followed.peer.trans (congrArg _ channel.symm), kept.symm.trans followed.table, followed.follows,
        fun since => (followed.inStep since).trans (congrArg _ channel.symm), followed.bounded⟩

theorem followedInStep {l : Link} (followed : Followed l) {hop : Hop} (admitted : Admitted l hop) : InStep l hop := by
  cases hop with
  | restart config => trivial
  | other call => trivial
  | send payload nowMs linkStatus fate =>
    cases fate with
    | none => trivial
    | some room =>
      intro frame since sent handed
      obtain ⟨m', made, _, created, same⟩ := sendsFrame sent
      obtain rfl : made = frame := Option.some.inj ((congrArg SendResult.frame same).symm.trans handed)
      obtain ⟨number, _, _⟩ := createdCarries created
      obtain ⟨initialized, _, _⟩ := createdMessage created
      have verified := createdVerifies created (followed.table.ready.trans initialized) followed.table.table admitted.2
      rw [← followed.inStep since] at verified
      exact (receiveAccepts admitted.1 (sentIntact followed created).1 verified).2.1

def freshLink (sender receiver : Site) : Link := ⟨sender, receiver, .frame, 0, 0, 0⟩

/- Which of the peer's intact frames are let in, in any history of calls; and on a link
that keeps the order, how many are turned away and that the ends fall in step again. -/
theorem resyncCosts {config : DualMsgchannelConfig} {channel : DualMsgchannel}
    (created : dualMsgchannelInit config = .ok channel) (m : ChecksumManager) :
    let site : Site := ⟨setResyncOnSequenceError channel true, m⟩
    (∀ calls room frame, (∀ call ∈ calls ++ [.receive room (.ok frame)], Fits site call) → room ≠ 0 →
      IntactOfPeer site frame →
        (delivers (run step site calls) room frame ↔ frame.sequenceNumber = numberAfter (lastIntact site calls))) ∧
    ∀ sender : Site, sender.channel.nextSequence = 0 → sender.channel.senderId = config.expectedPeerId →
      SameTable m sender.manager → ∀ hops, Always Link.step Admitted (freshLink sender site) hops →
        (run Link.step (freshLink sender site) hops).turnedAway ≤
            (run Link.step (freshLink sender site) hops).lossRuns + (run Link.step (freshLink sender site) hops).restarts ∧
          Always Link.step InStep (freshLink sender site) hops := by
  intro site
  have fresh : site.channel.expectedSequence = 0 ∧ site.channel.expectedPeerId = config.expectedPeerId := by
    unfold dualMsgchannelInit at created
    split at created
    · cases created
      exact ⟨rfl, rfl⟩
    · cases created
  refine ⟨fun calls room frame fits open_ intact => deliversIff rfl fresh.1 fits open_ intact, ?_⟩
  intro sender first peer same hops admitted
  have start : Followed (freshLink sender site) :=
    ⟨fresh.2.trans peer.symm, same.symm, rfl, fun _ => fresh.1.trans first.symm, le_refl 0⟩
  have keeps : ∀ l hop, Followed l → Admitted l hop → Followed (l.step hop) :=
    fun l hop followed allowed => linkFollowed followed allowed
  refine ⟨le_of_add_le_left (invariantRun start keeps admitted).bounded, ?_⟩
  exact alwaysOfInvariant start keeps (fun l hop followed allowed => followedInStep followed allowed) admitted

def secondFrame (m : ChecksumManager) : VitalMessage :=
  (filledMessage 2 1 [7] 0).sealed (checksumCrc64 m (filledMessage 2 1 [7] 0).covered).2

theorem secondFrameIntact {m : ChecksumManager} (ready : m.initialized = true) (channel : DualMsgchannel)
    (peer : channel.expectedPeerId = 2) : IntactOfPeer ⟨channel, m⟩ (secondFrame m) :=
  ⟨peer.symm, sealedIntact ready _⟩

def secondLost : List Hop :=
  [.send [7] 0 .ok (some 248), .send [8] 0 .ok none, .send [9] 0 .ok (some 248)]

theorem secondLostCosts :
    let site : Site := ⟨⟨1, 2, 0, 0, true⟩, ertmsManager⟩
    let sender : Site := ⟨⟨2, 1, 0, 0, false⟩, ertmsManager⟩
    ¬delivers site 248 (secondFrame ertmsManager) ∧
      (run Link.step (freshLink sender site) secondLost).turnedAway ≤
        (run Link.step (freshLink sender site) secondLost).lossRuns +
          (run Link.step (freshLink sender site) secondLost).restarts := by
  intro site sender
  have created : dualMsgchannelInit ⟨true, 1, 2⟩ = .ok ⟨1, 2, 0, 0, false⟩ := rfl
  obtain ⟨delivered, costs⟩ := resyncCosts created ertmsManager
  have intact : IntactOfPeer site (secondFrame ertmsManager) := secondFrameIntact rfl _ rfl
  have fits : ∀ call ∈ [] ++ [Call.receive 248 (.ok (secondFrame ertmsManager))], Fits site call := by
    intro call here
    obtain rfl := List.mem_singleton.mp here
    exact fun _ _ => (show (1 : UInt8).toNat ≤ (248 : UInt8).toNat by decide)
  have short : (248 : UInt8) ≠ 0 ∧ 1 ≤ (248 : UInt8).toNat := ⟨by decide, by decide⟩
  have admitted : Always Link.step Admitted (freshLink sender site) secondLost :=
    alwaysCons.mpr ⟨short, alwaysCons.mpr ⟨trivial, alwaysCons.mpr ⟨short, alwaysNil _ _ _⟩⟩⟩
  refine ⟨fun taken => ?_, (costs sender rfl rfl ⟨rfl, rfl⟩ secondLost admitted).1⟩
  have first := (delivered [] 248 (secondFrame ertmsManager) fits (by decide) intact).mp taken
  exact absurd first (by decide)

end PlatformRte.Dual.Gaps
