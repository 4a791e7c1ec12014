import PlatformRte.Dual.Listening
import PlatformRte.Safechannel.LinkOwners

/-! What an open safe channel reports of its links. Over the dual channel it is how many of
them acknowledged the last send; over a voter nothing ever takes a link out of service. -/
namespace PlatformRte.Safechannel
open Bytes Voter PlatformRte.Dual PlatformRte.Dual.Channel Machine Ledger Checksum

section Opened
variable {c : Fitted} {netlinkOpen : Nat → NetlinkConfig → OpenAnswer} {setupAllowed : RteStatus}
  {config : SafechannelConfig}

theorem openedImpl (ok : (safechannelOpen c netlinkOpen setupAllowed config).1 = .ok) :
    let opened := (safechannelOpen c netlinkOpen setupAllowed config).2.1
    opened.impl = implOf setupAllowed config opened.state ∧ opened.state.isOpen = true ∧ opened.call = none ∧
      ∃ handles, Carries opened handles := by
  have impl : ∀ {status : RteStatus} {opened : Fitted} {calls : List ServiceCall},
      safechannelOpen c netlinkOpen setupAllowed config = (status, opened, calls) → status = .ok →
        opened.impl = implOf setupAllowed config opened.state := by
    intro status opened calls is good
    obtain ⟨status', p, -, runs⟩ := openEnds (servicesOf netlinkOpen setupAllowed config) c.state config
    rw [safechannelOpen, runs] at is
    simp only [Prod.mk.injEq] at is
    obtain ⟨rfl, rfl, rfl⟩ := is
    exact if_pos good
  rcases openCases c netlinkOpen setupAllowed config with ⟨handles, opened, runs, isOpen, idle, carries⟩ |
    ⟨handles, status, opened, bad, runs, closed, idle⟩
  · rw [runs]
    exact ⟨impl runs rfl, isOpen, idle, handles, carries⟩
  · rw [runs] at ok
    exact absurd ok bad

end Opened

section Voted

def Votable (cfg : SafechannelVitalConfig) (links size : Nat) : Prop :=
  size ≠ 0 ∧ size ≤ voterMaxMessageSize ∧ voterChannelCountMatchesStrategy (voterConfigOf cfg) links = true

instance (cfg : SafechannelVitalConfig) (links size : Nat) : Decidable (Votable cfg links size) :=
  inferInstanceAs (Decidable (_ ∧ _ ∧ _))

structure VotedOver (cfg : SafechannelVitalConfig) (handles : List Nat) (c : Fitted) : Prop where
  isOpen : c.state.isOpen = true
  idle : c.call = none
  all : handles.length = c.state.linkCount.toNat
  impl : ∃ voter, c.impl = .vital handles voter ∧ voter.config = voterConfigOf cfg
  built : ImplOver handles .vitalVoted c.impl

variable {cfg : SafechannelVitalConfig} {handles : List Nat} {c : Fitted}

theorem voterOver {voter : RteVoter} {links : List Nat} (built : ImplOver handles .vitalVoted (.vital links voter)) :
    links = handles ∧ 0 < handles.length ∧ voter.channels.length = handles.length ∧
      (∀ channel ∈ voter.channels, live channel = true) ∧ voter.initialized = true := by
  cases built with
  | vital _ some_ count all initialized => exact ⟨rfl, some_, count, all, initialized⟩

theorem noneOver {type : SafechannelType} : ¬ImplOver handles type .nothing := by
  intro built
  cases built

theorem vitalOver {type : SafechannelType} {voter : RteVoter} {links : List Nat}
    (built : ImplOver handles type (.vital links voter)) : ImplOver handles .vitalVoted (.vital links voter) := by
  cases built with
  | vital _ some_ count all initialized => exact .vital voter some_ count all initialized

theorem votedKeeps (voted : VotedOver cfg handles c) {e : Event} (traffic : IsTraffic e) :
    VotedOver cfg handles (step c e) := by
  obtain ⟨voter, is, config⟩ := voted.impl
  cases e with
  | opens => cases traffic
  | closes => cases traffic
  | sends payload answers =>
    have same := sendSetUp voter payload.length answers
    have after : step c (.sends payload answers) =
        { c with impl := .vital handles (voterSend voter payload.length answers).1 } := by
      simp [step, voted.idle, safechannelSend, voted.isOpen, is, started]
    have built := voted.built
    rw [is] at built
    rw [after]
    exact ⟨voted.isOpen, voted.idle, voted.all, ⟨_, rfl, same.config.trans config⟩, built.voted same⟩
  | receives maxSize answers =>
    have same := receiveSetUp voter answers
    have after : step c (.receives maxSize answers) =
        { c with impl := .vital handles (voterReceive voter maxSize answers).voter } := by
      simp [step, voted.idle, safechannelReceive, voted.isOpen, is, started]
    have built := voted.built
    rw [is] at built
    rw [after]
    exact ⟨voted.isOpen, voted.idle, voted.all, ⟨_, rfl, same.config.trans config⟩, built.voted same⟩
  | accesses m answer =>
    have after : step c (.accesses m answer) = c := by simp [step, safechannelAccess, is]
    rw [after]
    exact voted

theorem healthyAll {voter : RteVoter} (all : ∀ channel ∈ voter.channels, live channel = true) :
    voterCountHealthy voter = voter.channels.length := by
  rw [voterCountHealthy, List.countP_eq_length]
  exact fun channel member => (Bool.and_eq_true_iff.mp (all channel member)).1

theorem votedFull (voted : VotedOver cfg handles c) : safechannelGetStatus c = .full := by
  obtain ⟨voter, is, -⟩ := voted.impl
  have built := voted.built
  rw [is] at built
  obtain ⟨-, some_, count, all, -⟩ := voterOver built
  have healthy : voterCountHealthy voter = c.state.linkCount.toNat := by rw [healthyAll all, count, voted.all]
  have positive : c.state.linkCount.toNat ≠ 0 := by
    rw [← voted.all]
    omega
  simp [safechannelGetStatus, voted.isOpen, is, voterGetAggregatedHealth, healthy, positive]

theorem askedAll {voter : RteVoter} (config : voter.config = voterConfigOf cfg)
    (built : ImplOver handles .vitalVoted (.vital handles voter)) (size : Nat) :
    (∀ i, i < handles.length → reachesTransports voter size i = decide (Votable cfg handles.length size)) ∧
      ∀ i, i < handles.length → polls voter size i = decide (Votable cfg handles.length size) := by
  obtain ⟨-, -, count, all, initialized⟩ := voterOver built
  have takes : Accepted voter size ↔ Votable cfg handles.length size := by
    constructor
    · rintro ⟨some_, -, fits, counted⟩
      rw [config, count] at counted
      exact ⟨some_, fits, counted⟩
    · rintro ⟨some_, fits, counted⟩
      refine ⟨some_, initialized, fits, ?_⟩
      rw [config, count]
      exact counted
  have reaches : ∀ i, i < handles.length →
      reachesTransports voter size i = decide (Votable cfg handles.length size) := by
    intro i below
    have inside : i < voter.channels.length := by rwa [count]
    have up : live voter.channels[i] = true := all _ (List.getElem_mem inside)
    simp [reachesTransports, List.getElem?_eq_getElem inside, up, decide_eq_decide.mpr takes]
  refine ⟨reaches, fun i below => ?_⟩
  rw [polls, reaches i below]
  by_cases votable : Votable cfg handles.length size
  · have counted := (takes.mpr votable).count
    have enough : voterRequiredQuorum voter.config ≤ voterCountHealthy voter := by
      rw [healthyAll all]
      exact (quorumPositive counted).2
    simp [enough]
  · simp [votable]

theorem askedLinksAll {voter : RteVoter} {asked : Nat → Bool} {votable : Bool} (count : voter.channels.length = handles.length)
    (each : ∀ i, i < handles.length → asked i = votable) :
    askedLinks handles voter asked = if votable then handles else [] := by
  have same : (List.range voter.channels.length).filter asked = (List.range voter.channels.length).filter fun _ => votable := by
    refine List.filter_congr fun i inside => each i ?_
    rw [← count]
    exact List.mem_range.mp inside
  rw [askedLinks, same, count]
  cases votable with
  | false => simp
  | true =>
    rw [List.filter_true, if_pos rfl]
    refine List.ext_getElem (by simp) fun i _ inside => ?_
    simp [List.getElem?_eq_getElem inside]

/- A voted channel from its opening on, whatever its links answer: it reports that it has all
of them, and each send and each receive goes to all of them, or to none where the voter does
not take the size or the number of links. -/
theorem votedAllOrNone {netlinkOpen : Nat → NetlinkConfig → OpenAnswer} {setupAllowed : RteStatus}
    {config : SafechannelConfig} (kind : config.type = .vitalVoted) (c : Fitted)
    (ok : (safechannelOpen c netlinkOpen setupAllowed config).1 = .ok) {events : List Event}
    (traffic : ∀ e ∈ events, IsTraffic e) :
    let opened := (safechannelOpen c netlinkOpen setupAllowed config).2.1
    let now := run step opened events
    let handles := handlesOf opened.state
    let asks (size : Nat) := if Votable config.vital handles.length size then handles.map Entry.used else []
    safechannelGetStatus now = .full ∧
      (∀ payload answers, linkEntries now (.sends payload answers) = asks payload.length) ∧
      ∀ maxSize answers, linkEntries now (.receives maxSize answers) = asks maxSize := by
  intro opened now handles asks
  have voted : VotedOver config.vital handles now := by
    obtain ⟨impl, isOpen, idle, links, carries⟩ := openedImpl ok
    have begun : VotedOver config.vital handles opened := by
      have same : handles = links := handlesHeld carries.holds carries.all
      have built := carries.impl
      rw [← same] at built
      rw [impl, implOf, kind] at built
      dsimp only at built
      cases made : votedOver setupAllowed (voterConfigOf config.vital) config.vital.linkCount.toNat with
      | error status =>
        rw [made] at built
        exact absurd built noneOver
      | ok voter =>
        rw [made] at built
        have is : opened.impl = .vital handles voter := by
          rw [impl, implOf, kind]
          dsimp only
          rw [made]
        refine ⟨isOpen, idle, by rw [same]; exact carries.all, ⟨voter, is, (votedOverChannels made).2.2.2⟩, ?_⟩
        rw [is]
        exact vitalOver built
    have keep : ∀ m e, VotedOver config.vital handles m → IsTraffic e → VotedOver config.vital handles (step m e) :=
      fun _ _ held is => votedKeeps held is
    refine invariantRun (P := fun _ e => IsTraffic e) begun keep fun before e after split => traffic e ?_
    rw [split]
    simp
  obtain ⟨voter, is, same⟩ := voted.impl
  have built := voted.built
  rw [is] at built
  have count := (voterOver built).2.2.1
  refine ⟨votedFull voted, fun payload answers => ?_, fun maxSize answers => ?_⟩
  · have all := askedLinksAll count (askedAll same built payload.length).1
    simp [linkEntries, linksUsed, voted.idle, voted.isOpen, is, all, asks]
    split <;> rfl
  · have all := askedLinksAll count (askedAll same built maxSize).2
    simp [linkEntries, linksUsed, voted.idle, voted.isOpen, is, all, asks]
    split <;> rfl

theorem deadLinksFull :
    let opened := (safechannelOpen unopened (numberedFrom 10) .ok votedPair).2.1
    let now := run step opened [.sends [1] fun _ => .hardwareFault, .receives 1 fun _ => ⟨.timeout, #v[0]⟩]
    safechannelGetStatus now = .full ∧ linkEntries now (.sends [1, 2] fun _ => .ok) = [.used 10, .used 11] := by
  have ok : (safechannelOpen unopened (numberedFrom 10) .ok votedPair).1 = .ok := by decide +kernel
  have traffic : ∀ e ∈ ([.sends [1] fun _ => .hardwareFault, .receives 1 fun _ => ⟨.timeout, #v[0]⟩] : List Event),
      IsTraffic e := by
    simp [IsTraffic]
  obtain ⟨full, sends, -⟩ := votedAllOrNone rfl unopened ok traffic
  exact ⟨full, (sends [1, 2] _).trans (by decide +kernel)⟩

end Voted

section Dual

def statusOfCount (total acked : Nat) : DualChannelStatus :=
  if acked = 0 then .down else if acked = total then .full else .degraded

def linkStatusOf : DualChannelStatus → SafechannelLinkStatus
  | .full => .full
  | .degraded => .degraded
  | .down => .down

def ackedBy (c : Fitted) : Event → Option Nat
  | .accesses m answer =>
    match c.impl, c.call with
    | .dual _ channel, some call =>
      match (advance channel m call answer).next with
      | .inr (.exchange _ _ acked _) => acked
      | _ => none
    | _, _ => none
  | _ => none

structure Watched where
  c : Fitted
  acked : Nat

def watch (s : Watched) (e : Event) : Watched := ⟨step s.c e, (ackedBy s.c e).getD s.acked⟩

def Counts (channel : DualChannel) : Call → Prop
  | .exchange _ _ link ackCount _ _ =>
    link ≤ channel.linkCount ∧ (List.range link).countP channel.linkUp = ackCount
  | _ => True

theorem statusDown {total acked : Nat} : statusOfCount total acked = .down ↔ acked = 0 := by
  unfold statusOfCount
  by_cases none_ : acked = 0
  · simp [none_]
  · by_cases all : acked = total <;> simp [none_, all]

theorem linkDown {status : DualChannelStatus} : linkStatusOf status = .down ↔ status = .down := by
  cases status <;> simp [linkStatusOf]

theorem linkDoneCounts {channel : DualChannel} {link ackCount : Nat} (inside : link < channel.linkCount)
    (counted : (List.range link).countP channel.linkUp = ackCount) (payload : Option Bytes) (frame : Bytes)
    (hardFault up : Bool) :
    ∃ next, (linkDone channel payload frame link ackCount hardFault up).2 = .inl next ∧
      Counts (linkDone channel payload frame link ackCount hardFault up).1 next := by
  refine ⟨_, rfl, inside, ?_⟩
  have before : (List.range link).countP (Function.update channel.linkUp link up) = ackCount := by
    rw [← counted]
    refine List.countP_congr fun j member => ?_
    rw [Function.update_of_ne (Nat.ne_of_lt (List.mem_range.mp member))]
  show (List.range (link + 1)).countP (Function.update channel.linkUp link up) = _
  rw [List.range_succ, List.countP_append, before]
  cases up <;> simp

theorem settleCounts {channel : DualChannel} {call : Call} (counts : Counts channel call)
    (inside : ∀ payload frame link ackCount hardFault wait, call = .exchange payload frame link ackCount hardFault wait →
      link < channel.linkCount) (done : Performed) (nowMs : UInt64) :
    (settle channel done nowMs call).1.lastStatus = channel.lastStatus ∧
      ∃ next, (settle channel done nowMs call).2 = .inl next ∧ Counts (settle channel done nowMs call).1 next := by
  cases call with
  | exchange payload frame link ackCount hardFault wait =>
    have here := inside _ _ _ _ _ _ rfl
    have ends := linkDoneCounts here counts.2 payload frame
    cases wait with
    | none =>
      simp only [settle]
      split
      · exact ⟨rfl, _, rfl, counts⟩
      · exact ⟨rfl, ends _ _⟩
    | some w =>
      simp only [settle]
      split
      · exact ⟨rfl, ends _ _⟩
      · exact ⟨rfl, ends _ _⟩
      · split
        · exact ⟨rfl, _, rfl, counts⟩
        · exact ⟨rfl, ends _ _⟩
  | receive => exact ⟨rfl, _, rfl, trivial⟩
  | beacon => exact ⟨rfl, _, rfl, trivial⟩
  | receiveState => exact ⟨rfl, _, rfl, trivial⟩

inductive Reported (channel : DualChannel) (p : Dual.Channel.Progress) : Prop
  | goesOn (next : Call) (is : p.next = .inl next) (same : p.channel.lastStatus = channel.lastStatus)
      (counts : Counts p.channel next)
  | sent (payload : Option Bytes) (status : RteStatus) (acked : Nat)
      (callback : Option (DualChannelStatus × DualChannelStatus))
      (is : p.next = .inr (.exchange payload status (some acked) callback))
      (counted : p.channel.lastStatus = statusOfCount channel.linkCount acked) (ok : status = .ok ↔ acked ≠ 0)
  | other (returned : Returned) (is : p.next = .inr returned) (notSent : ∀ p s a c, returned ≠ .exchange p s a c)
      (same : p.channel.lastStatus = channel.lastStatus)

theorem updatedStatus (channel : DualChannel) :
    (updateStatus channel).1.lastStatus = statusOfCount channel.linkCount (upCount channel) := by
  have same : computeStatus channel = statusOfCount channel.linkCount (upCount channel) := rfl
  rw [updateStatus, ← same]
  split
  · rfl
  · rename_i unchanged
    exact (not_not.mp unchanged).symm

theorem finishReports {channel : DualChannel} {call : Call} (counts : Counts channel call)
    (last : nextAction channel call = .finish) (m : ChecksumManager) (done : Performed) :
    Reported channel ⟨(finishCall channel call).1, m, done, (finishCall channel call).2⟩ := by
  cases call with
  | exchange payload frame link ackCount hardFault wait =>
    have through : ¬link < channel.linkCount := by
      intro inside
      cases wait <;> simp [nextAction, inside] at last
    have all : upCount channel = ackCount := by
      rw [← counts.2, upCount, Nat.le_antisymm counts.1 (Nat.le_of_not_lt through)]
    refine .sent payload _ ackCount _ rfl ?_ ?_
    · rw [← all]
      exact updatedStatus channel
    · by_cases none_ : ackCount = 0
      · cases hardFault <;> simp [none_]
      · simp [none_, Nat.pos_of_ne_zero none_]
  | receive maxSize link hardFault =>
    cases pending : channel.pendingData with
    | none => exact .other _ (by simp only [finishCall, pending]; rfl) (by simp) (by simp [finishCall, pending])
    | some payload =>
      by_cases large : maxSize.toNat < payload.length
      · exact .other (.receive .invalidParam none) (by simp [finishCall, pending, large]) (by simp)
          (by simp [finishCall, pending, large])
      · exact .other (.receive .ok (some payload)) (by simp [finishCall, pending, large]) (by simp)
          (by simp [finishCall, pending, large])
  | beacon frame link sentCount => exact .other _ rfl (by simp) rfl
  | receiveState link =>
    cases pending : channel.pendingState with
    | none =>
      exact .other (.receiveState .timeout none) (by simp [finishCall, pending]) (by simp)
        (by simp [finishCall, pending])
    | some frame =>
      exact .other (.receiveState .ok (some frame)) (by simp [finishCall, pending]) (by simp)
        (by simp [finishCall, pending])

theorem advanceReports {channel : DualChannel} {call : Call} (counts : Counts channel call) (m : ChecksumManager)
    (answer : Dual.Channel.Answer) : Reported channel (advance channel m call answer) := by
  let done := perform channel m answer (nextAction channel call)
  have access : Posts channel (nextAction channel call).link done.carried done.channel :=
    (performAccess channel m answer (nextAction channel call)).posts
  have counted : Counts done.channel call := by
    cases call with
    | exchange payload frame link ackCount hardFault wait =>
      exact ⟨by rw [access.count]; exact counts.1, by rw [access.up]; exact counts.2⟩
    | _ => trivial
  have settled (more : nextAction channel call ≠ .finish) :
      Reported channel ⟨(settle done.channel done answer.nowMs call).1, done.manager, done,
        (settle done.channel done answer.nowMs call).2⟩ := by
    have inside : ∀ payload frame link ackCount hardFault wait,
        call = .exchange payload frame link ackCount hardFault wait → link < done.channel.linkCount := by
      rintro payload frame link ackCount hardFault wait rfl
      rw [access.count]
      by_contra through
      exact more (by cases wait <;> simp [nextAction, through])
    obtain ⟨same, next, is, counts⟩ := settleCounts counted inside done answer.nowMs
    exact .goesOn next is (same.trans access.lastStatus) counts
  unfold advance
  dsimp only
  cases action : nextAction channel call with
  | finish =>
    have still : perform channel m answer .finish = ⟨channel, m, .ok, 0, none, none, none, none⟩ := rfl
    rw [still]
    exact finishReports counts action m _
  | transmit i raw =>
    have more := settled (by simp [action])
    simp only [done, action] at more
    exact more
  | poll i =>
    have more := settled (by simp [action])
    simp only [done, action] at more
    exact more

theorem startCounts {channel : DualChannel} {request : Request} {call : Call}
    (starts : startCall channel request = .inl call) : Counts channel call := by
  cases request with
  | send payload =>
    simp only [startCall] at starts
    split at starts
    · cases starts
    · cases starts
      exact ⟨Nat.zero_le _, rfl⟩
  | heartbeat nowMs =>
    cases starts
    exact ⟨Nat.zero_le _, rfl⟩
  | receive maxSize =>
    simp only [startCall] at starts
    split at starts
    · cases starts
    · cases starts
      trivial
  | sendStateFrame frame =>
    cases starts
    trivial
  | receiveStateFrame =>
    cases starts
    trivial

structure DualOver (handles : List Nat) (s : Watched) : Prop where
  isOpen : s.c.state.isOpen = true
  impl : ∃ channel, s.c.impl = .dual handles channel ∧ channel.linkCount = handles.length ∧
    channel.lastStatus = statusOfCount handles.length s.acked ∧ ∀ call, s.c.call = some call → Counts channel call

variable {handles : List Nat} {s : Watched}

theorem dualOver {type : SafechannelType} {links : List Nat} {channel : DualChannel}
    (built : ImplOver handles type (.dual links channel)) : channel.linkCount = handles.length := by
  cases built with
  | dual _ count => exact count

theorem initDown {given : DualChannelConfig} {channel : DualChannel} (made : dualChannelInit given = .ok channel) :
    channel.lastStatus = .down := by
  unfold dualChannelInit at made
  split at made
  · split at made
    · cases made
      rfl
    · cases made
  · cases made

theorem startedOver (built : DualOver handles s) {channel : DualChannel} (is : s.c.impl = .dual handles channel)
    (idle : s.c.call = none) (request : Request) :
    DualOver handles ⟨started (s.c, startDual channel request), s.acked⟩ := by
  obtain ⟨channel', is', count, status, -⟩ := built.impl
  rw [is] at is'
  cases is'
  unfold startDual
  cases starts : startCall channel request with
  | inl call =>
    refine ⟨built.isOpen, channel, is, count, status, ?_⟩
    rintro _ ⟨⟩
    exact startCounts starts
  | inr returned =>
    have still : started (s.c, outcomeOf returned) = s.c := by cases returned <;> rfl
    simp only [still]
    refine ⟨built.isOpen, channel, is, count, status, fun call busy => ?_⟩
    rw [idle] at busy
    cases busy

theorem dualKeeps (built : DualOver handles s) {e : Event} (traffic : IsTraffic e) : DualOver handles (watch s e) := by
  obtain ⟨channel, is, count, status, counts⟩ := built.impl
  cases e with
  | opens => cases traffic
  | closes => cases traffic
  | sends payload answers =>
    cases busy : s.c.call with
    | some call =>
      have still : watch s (.sends payload answers) = s := by simp [watch, step, busy, ackedBy]
      rwa [still]
    | none =>
      by_cases large : 255 < payload.length
      · have still : watch s (.sends payload answers) = s := by
          simp [watch, step, busy, ackedBy, safechannelSend, built.isOpen, is, large, started]
        rwa [still]
      · have starts : watch s (.sends payload answers) =
            ⟨started (s.c, startDual channel (.send payload)), s.acked⟩ := by
          simp [watch, step, busy, ackedBy, safechannelSend, built.isOpen, is, large]
        rw [starts]
        exact startedOver built is busy _
  | receives maxSize answers =>
    cases busy : s.c.call with
    | some call =>
      have still : watch s (.receives maxSize answers) = s := by simp [watch, step, busy, ackedBy]
      rwa [still]
    | none =>
      have starts : watch s (.receives maxSize answers) =
          ⟨started (s.c, startDual channel (.receive (UInt8.ofNat (min maxSize 255)))), s.acked⟩ := by
        simp [watch, step, busy, ackedBy, safechannelReceive, built.isOpen, is]
      rw [starts]
      exact startedOver built is busy _
  | accesses m answer =>
    cases busy : s.c.call with
    | none =>
      have still : watch s (.accesses m answer) = s := by simp [watch, step, ackedBy, safechannelAccess, is, busy]
      rwa [still]
    | some call =>
      have links := advanceCount channel m call answer
      cases advanceReports (counts call busy) m answer with
      | goesOn next ends same counted =>
        have after : watch s (.accesses m answer) =
            ⟨⟨s.c.state, .dual handles (advance channel m call answer).channel, some next⟩, s.acked⟩ := by
          simp [watch, step, ackedBy, safechannelAccess, is, busy, ends]
        rw [after]
        refine ⟨built.isOpen, _, rfl, links.trans count, same.trans status, ?_⟩
        rintro _ ⟨⟩
        exact counted
      | sent payload result acked callback ends counted ok =>
        have after : watch s (.accesses m answer) =
            ⟨⟨s.c.state, .dual handles (advance channel m call answer).channel, none⟩, acked⟩ := by
          simp [watch, step, ackedBy, safechannelAccess, is, busy, ends]
        rw [after]
        refine ⟨built.isOpen, _, rfl, links.trans count, by rw [counted, count], ?_⟩
        rintro _ ⟨⟩
      | other returned ends notSent same =>
        have after : watch s (.accesses m answer) =
            ⟨⟨s.c.state, .dual handles (advance channel m call answer).channel, none⟩, s.acked⟩ := by
          cases returned with
          | exchange => exact absurd rfl (notSent _ _ _ _)
          | _ => simp [watch, step, ackedBy, safechannelAccess, is, busy, ends]
        rw [after]
        refine ⟨built.isOpen, _, rfl, links.trans count, same.trans status, ?_⟩
        rintro _ ⟨⟩

theorem dualReports (built : DualOver handles s) :
    safechannelGetStatus s.c = linkStatusOf (statusOfCount handles.length s.acked) := by
  obtain ⟨channel, is, -, status, -⟩ := built.impl
  simp only [safechannelGetStatus, built.isOpen, is, status]
  cases statusOfCount handles.length s.acked <;> rfl

/- A channel over the dual channel, from its opening on: whatever its links answer, it reports
how many of them acknowledged the last send, none before the first; a send that ends has
succeeded unless it is DOWN then. -/
theorem dualStatusFollows {netlinkOpen : Nat → NetlinkConfig → OpenAnswer} {setupAllowed : RteStatus}
    {config : SafechannelConfig} (kind : config.type = .dualRedundant) (c : Fitted)
    (ok : (safechannelOpen c netlinkOpen setupAllowed config).1 = .ok) {events : List Event}
    (traffic : ∀ e ∈ events, IsTraffic e) :
    let opened := (safechannelOpen c netlinkOpen setupAllowed config).2.1
    let now := run watch ⟨opened, 0⟩ events
    let links := (handlesOf opened.state).length
    safechannelGetStatus now.c = linkStatusOf (statusOfCount links now.acked) ∧
      ∀ m answer acked, ackedBy now.c (.accesses m answer) = some acked →
        ∃ status, (safechannelAccess now.c m answer).2 = some (.returned status none none) ∧
          (status = .ok ↔ safechannelGetStatus (step now.c (.accesses m answer)) ≠ .down) := by
  intro opened now links
  have built : DualOver (handlesOf opened.state) now := by
    obtain ⟨impl, isOpen, idle, handles, carries⟩ := openedImpl ok
    have begun : DualOver (handlesOf opened.state) ⟨opened, 0⟩ := by
      have carried := carries.impl
      have same := handlesHeld carries.holds carries.all
      rw [← same] at carried
      rw [impl, implOf, kind] at carried
      dsimp only at carried
      split at carried
      · rename_i channel made
        have is : opened.impl = .dual (handlesOf opened.state) channel := by
          rw [impl, implOf, kind]
          dsimp only
          rw [made]
        refine ⟨isOpen, channel, is, dualOver carried, initDown made, fun call busy => ?_⟩
        have none_ : opened.call = some call := busy
        rw [idle] at none_
        cases none_
      · exact absurd carried noneOver
    have keep : ∀ m e, DualOver (handlesOf opened.state) m → IsTraffic e → DualOver (handlesOf opened.state) (watch m e) :=
      fun _ _ held is => dualKeeps held is
    refine invariantRun (P := fun _ e => IsTraffic e) begun keep fun before e after split => traffic e ?_
    rw [split]
    simp
  refine ⟨dualReports built, fun m answer acked ends => ?_⟩
  obtain ⟨channel, is, -, -, counts⟩ := built.impl
  have after := dualReports (dualKeeps built (e := .accesses m answer) trivial)
  have counted : (watch now (.accesses m answer)).acked = acked := by simp [watch, ends]
  rw [counted] at after
  have down : safechannelGetStatus (step now.c (.accesses m answer)) ≠ .down ↔ acked ≠ 0 := by
    rw [show step now.c (.accesses m answer) = (watch now (.accesses m answer)).c from rfl, after, Ne, linkDown]
    exact not_congr statusDown
  cases busy : now.c.call with
  | none => simp [ackedBy, is, busy] at ends
  | some call =>
    cases advanceReports (counts call busy) m answer with
    | goesOn next more => simp [ackedBy, is, busy, more] at ends
    | sent payload status acked' callback last _ ok =>
      have same : acked' = acked := by simpa [ackedBy, is, busy, last] using ends
      subst same
      refine ⟨status, ?_, ok.trans down.symm⟩
      simp [safechannelAccess, is, busy, last, outcomeOf]
    | other returned last notSent _ =>
      cases returned with
      | exchange => exact absurd rfl (notSent _ _ _ _)
      | _ => simp [ackedBy, is, busy, last] at ends

def dualPair : SafechannelConfig := { votedPair with type := .dualRedundant }

def brokenLink : Dual.Channel.Answer := { Listening.silence with linkStatus := .hardwareFault }

def brokenSend : List Event := [.sends [1] fun _ => .ok, .accesses checksumManager brokenLink, .accesses checksumManager brokenLink]

theorem brokenSendDown :
    let opened := (safechannelOpen unopened (numberedFrom 10) .ok dualPair).2.1
    let now := run watch ⟨opened, 0⟩ brokenSend
    safechannelGetStatus now.c = .down ∧
      ∃ status, (safechannelAccess now.c checksumManager brokenLink).2 = some (.returned status none none) ∧
        (status = .ok ↔ safechannelGetStatus (step now.c (.accesses checksumManager brokenLink)) ≠ .down) := by
  have ok : (safechannelOpen unopened (numberedFrom 10) .ok dualPair).1 = .ok := by decide +kernel
  have traffic : ∀ e ∈ brokenSend, IsTraffic e := by simp [brokenSend, IsTraffic]
  obtain ⟨status, ends⟩ := dualStatusFollows rfl unopened ok traffic
  exact ⟨status.trans (by decide +kernel), ends _ _ 0 (by decide +kernel)⟩

end Dual
end PlatformRte.Safechannel
