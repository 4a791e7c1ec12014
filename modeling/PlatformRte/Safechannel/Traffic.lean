import PlatformRte.Safechannel.CleanUp
import PlatformRte.Dual.Access
import PlatformRte.Voter.Sending

/-! An open safe channel over the dual channel or the voter that it set up: what its calls come
to, and which of its links they go to. A call of the dual channel takes one access to a link
at a time. -/
namespace PlatformRte.Safechannel
open Bytes Checksum Voter PlatformRte.Dual.Channel

inductive SafechannelLinkStatus where
  | down | degraded | full
  deriving DecidableEq, Repr

/- What is set up over the links; it has its own copy of their handles. -/
inductive Impl where
  | nothing
  | dual (links : List Nat) (channel : DualChannel)
  | vital (links : List Nat) (voter : RteVoter)

/- A safe channel with what is set up over it. call: of the dual channel, in progress. -/
structure Fitted where
  state : RteSafechannel
  impl : Impl
  call : Option Call

def unopened : Fitted := ⟨⟨.dualRedundant, false, fun _ => none, 0⟩, .nothing, none⟩

def statusOf {α : Type} : Except RteStatus α → RteStatus
  | .ok _ => .ok
  | .error status => status

def voterConfigOf (cfg : SafechannelVitalConfig) : VoterConfig where
  votingStrategy := cfg.votingStrategy
  quorumSize := cfg.quorumSize
  compare := none
  safestateLevel := .safe
  safestateReason := safestateReasonUnspecified
  onDisagreement := cfg.onDisagreement

def votedOver (setupAllowed : RteStatus) (config : VoterConfig) : Nat → Except RteStatus RteVoter
  | 0 => voterInit setupAllowed config
  | n + 1 => do
    let voter ← votedOver setupAllowed config n
    let channel ← channelInit setupAllowed
    voterRegisterChannel voter channel setupAllowed

def dualConfigOf (cfg : SafechannelDualConfig) (links : List Bool) : DualChannelConfig where
  links := links
  linkCount := cfg.linkCount.toNat
  senderId := cfg.senderId
  expectedPeerId := cfg.expectedPeerId
  ackTimeoutMs := cfg.ackTimeoutMs
  statusCallback := cfg.statusCallback

/- The services under the safe channel; setupAllowed is what the lifecycle says. -/
def servicesOf (netlinkOpen : Nat → NetlinkConfig → OpenAnswer) (setupAllowed : RteStatus)
    (config : SafechannelConfig) : Services where
  netlinkOpen := netlinkOpen
  dualChannelInit := fun given => statusOf (dualChannelInit given)
  voterInit := fun given => statusOf (voterInit setupAllowed given)
  channelInit := fun _ => statusOf (channelInit setupAllowed)
  voterRegisterChannel := fun i => statusOf (votedOver setupAllowed (voterConfigOf config.vital) (i + 1))

def handlesOf (state : RteSafechannel) : List Nat := (List.range state.linkCount.toNat).filterMap state.linkHandles

def implOf (setupAllowed : RteStatus) (config : SafechannelConfig) (state : RteSafechannel) : Impl :=
  match config.type with
  | .dualRedundant =>
    match dualChannelInit (dualConfigOf config.dual
        ((List.range 4).map fun i => decide (i < config.dual.linkCount.toNat) && (state.linkHandles i).isSome)) with
    | .ok channel => .dual (handlesOf state) channel
    | .error _ => .nothing
  | .vitalVoted =>
    match votedOver setupAllowed (voterConfigOf config.vital) config.vital.linkCount.toNat with
    | .ok voter => .vital (handlesOf state) voter
    | .error _ => .nothing
  | .other _ => .nothing

def safechannelOpen (c : Fitted) (netlinkOpen : Nat → NetlinkConfig → OpenAnswer) (setupAllowed : RteStatus)
    (config : SafechannelConfig) : RteStatus × Fitted × List ServiceCall :=
  match rteSafechannelOpen (servicesOf netlinkOpen setupAllowed config) (some c.state) (some config) with
  | (status, some state, calls) =>
    (status, ⟨state, if status = .ok then implOf setupAllowed config state else .nothing, none⟩, calls)
  | (status, none, calls) => (status, c, calls)

def destroyed : Impl → Impl
  | .vital links voter =>
    .vital links (voterDestroy { voter with
      channels := voter.channels.map fun channel => { channel with initialized := false }
      channelsFit := by simpa using voter.channelsFit })
  | impl => impl

def safechannelClose (c : Fitted) : RteStatus × Fitted × List ServiceCall :=
  match rteSafechannelClose (some c.state) with
  | (status, some state, calls) => (status, ⟨state, if c.state.isOpen then destroyed c.impl else c.impl, c.call⟩, calls)
  | (status, none, calls) => (status, c, calls)

/- What a call of the application comes to: it has returned, or the dual channel goes on with it.
size is what a receive reports. -/
inductive Outcome where
  | returned (status : RteStatus) (payload : Option Bytes) (size : Option Nat)
  | goesOn (call : Call)

def outcomeOf : Returned → Outcome
  | .exchange _ status _ _ => .returned status none none
  | .receive status payload => .returned status payload (some ((payload.map List.length).getD 0))
  | .beacon status => .returned status none none
  | .receiveState status _ => .returned status none none

def startDual (channel : DualChannel) (request : Request) : Outcome :=
  match startCall channel request with
  | .inl call => .goesOn call
  | .inr returned => outcomeOf returned

def safechannelSend (c : Fitted) (payload : Bytes) (answers : Nat → RteStatus) : Fitted × Outcome :=
  if !c.state.isOpen then (c, .returned .invalidParam none none)
  else
    match c.impl with
    | .dual _ channel =>
      if 255 < payload.length then (c, .returned .invalidParam none none)
      else (c, startDual channel (.send payload))
    | .vital links voter =>
      let sent := voterSend voter payload.length answers
      ({ c with impl := .vital links sent.1 }, .returned sent.2 none none)
    | .nothing => (c, .returned .invalidParam none none)

def safechannelReceive (c : Fitted) (maxSize : Nat) (answers : Nat → ChannelAnswer maxSize) :
    Fitted × Outcome :=
  if !c.state.isOpen then (c, .returned .invalidParam none none)
  else
    match c.impl with
    | .dual _ channel => (c, startDual channel (.receive (UInt8.ofNat (min maxSize 255))))
    | .vital links voter =>
      let received := voterReceive voter maxSize answers
      ({ c with impl := .vital links received.voter },
        .returned received.status (received.data.map Vector.toList) received.bytes)
    | .nothing => (c, .returned .invalidParam none none)

/- One access to a link, by the call in progress; m is the checksum module as it is then. -/
def safechannelAccess (c : Fitted) (m : ChecksumManager) (answer : Dual.Channel.Answer) :
    Fitted × Option Outcome :=
  match c.impl, c.call with
  | .dual links channel, some call =>
    let progress := advance channel m call answer
    match progress.next with
    | .inl next => (⟨c.state, .dual links progress.channel, some next⟩, none)
    | .inr returned => (⟨c.state, .dual links progress.channel, none⟩, some (outcomeOf returned))
  | _, _ => (c, none)

def safechannelGetStatus (c : Fitted) : SafechannelLinkStatus :=
  if !c.state.isOpen then .down
  else
    match c.impl with
    | .dual _ channel =>
      match channel.lastStatus with
      | .full => .full
      | .degraded => .degraded
      | .down => .down
    | .vital _ voter =>
      let healthyCount := (voterGetAggregatedHealth voter).1
      if healthyCount = 0 then .down
      else if healthyCount < c.state.linkCount.toNat then .degraded
      else .full
    | .nothing => .down

inductive Event where
  | opens (netlinkOpen : Nat → NetlinkConfig → OpenAnswer) (setupAllowed : RteStatus) (config : SafechannelConfig)
  | sends (payload : Bytes) (answers : Nat → RteStatus)
  | receives (maxSize : Nat) (answers : Nat → ChannelAnswer maxSize)
  | accesses (m : ChecksumManager) (answer : Dual.Channel.Answer)
  | closes

def started (done : Fitted × Outcome) : Fitted :=
  match done.2 with
  | .goesOn call => { done.1 with call := some call }
  | .returned .. => done.1

def step (c : Fitted) : Event → Fitted
  | .accesses m answer => (safechannelAccess c m answer).1
  | .opens netlinkOpen setupAllowed config =>
    if c.call.isSome then c else (safechannelOpen c netlinkOpen setupAllowed config).2.1
  | .sends payload answers => if c.call.isSome then c else started (safechannelSend c payload answers)
  | .receives maxSize answers => if c.call.isSome then c else started (safechannelReceive c maxSize answers)
  | .closes => if c.call.isSome then c else (safechannelClose c).2.1

section Opened

inductive ImplOver (handles : List Nat) : SafechannelType → Impl → Prop
  | dual (channel : DualChannel) (count : channel.linkCount = handles.length) :
      ImplOver handles .dualRedundant (.dual handles channel)
  | vital (voter : RteVoter) (some_ : 0 < handles.length) (count : voter.channels.length = handles.length)
      (live : ∀ channel ∈ voter.channels, live channel = true) (initialized : voter.initialized = true) :
      ImplOver handles .vitalVoted (.vital handles voter)

theorem ImplOver.ofType {handles : List Nat} {type type' : SafechannelType} {impl : Impl} (same : type = type')
    (built : ImplOver handles type' impl) : ImplOver handles type impl := same ▸ built

theorem closeLinksType (p : Progress) (count : Nat) :
    (safechannelCloseLinks p count).channel.type = p.channel.type := by
  induction count with
  | zero => rfl
  | succ count ih =>
    rw [safechannelCloseLinks, List.range_succ, List.foldl_append, ← safechannelCloseLinks, ← ih]
    simp only [List.foldl_cons, List.foldl_nil, closeLink]
    split <;> rfl

theorem openLinksType (services : Services) (endpoints : Nat → SafechannelEndpoint) (messageSize : UInt64)
    (connectTimeoutMs : UInt32) (left i : Nat) (p : Progress) :
    (openLinks services endpoints messageSize connectTimeoutMs left i p).2.channel.type = p.channel.type := by
  induction left generalizing i p with
  | zero => rfl
  | succ left ih =>
    rw [openLinks]
    split
    · exact closeLinksType p i
    · exact ih _ _

theorem openDualOk {services : Services} {cfg : SafechannelDualConfig} {p q : Progress}
    (ok : safechannelOpenDual services cfg p = (.ok, q)) :
    q.channel.linkCount = cfg.linkCount ∧ q.channel.type = p.channel.type ∧
      services.dualChannelInit (dualConfigOf cfg
        ((List.range 4).map fun i => decide (i < cfg.linkCount.toNat) && (q.channel.linkHandles i).isSome)) = .ok := by
  have types := openLinksType services cfg.endpoints vitalMessageSize cfg.connectTimeoutMs cfg.linkCount.toNat 0 p
  unfold safechannelOpenDual at ok
  split at ok
  · cases ok
  split at ok
  · cases ok
  split at ok
  · rename_i opened runs
    rw [runs] at types
    dsimp only at ok
    split at ok
    · rename_i bad
      exact absurd (congrArg Prod.fst ok) bad
    · rename_i good
      cases ok
      exact ⟨rfl, types, not_not.mp good⟩
  · rename_i status opened failed _
    cases ok
    exact (failed rfl).elim

theorem registersOk {services : Services} {left i : Nat} {p q : Progress}
    (ok : registerChannels services left i p = (.ok, q)) :
    q = p ∧ ∀ j, i ≤ j → j < i + left → services.channelInit j = .ok ∧ services.voterRegisterChannel j = .ok := by
  induction left generalizing i with
  | zero =>
    rw [registerChannels] at ok
    cases ok
    exact ⟨rfl, fun j from_ below => absurd below (by omega)⟩
  | succ left ih =>
    rw [registerChannels] at ok
    by_cases init : services.channelInit i = .ok
    · rw [if_pos init] at ok
      by_cases register : services.voterRegisterChannel i = .ok
      · simp only [register, ne_eq, not_true_eq_false, if_false] at ok
        obtain ⟨same, later⟩ := ih ok
        refine ⟨same, fun j from_ below => ?_⟩
        rcases Nat.eq_or_lt_of_le from_ with rfl | after
        · exact ⟨init, register⟩
        · exact later j after (by omega)
      · rw [if_pos register] at ok
        exact absurd (congrArg Prod.fst ok) register
    · rw [if_neg init, if_pos init] at ok
      exact absurd (congrArg Prod.fst ok) init

theorem openVitalOk {services : Services} {cfg : SafechannelVitalConfig} {p q : Progress}
    (ok : safechannelOpenVital services cfg p = (.ok, q)) :
    q.channel.linkCount = cfg.linkCount ∧ q.channel.type = p.channel.type ∧ 0 < cfg.linkCount.toNat ∧
      ∀ j, j < cfg.linkCount.toNat → services.voterRegisterChannel j = .ok := by
  have types := openLinksType services cfg.endpoints cfg.messageSize cfg.connectTimeoutMs cfg.linkCount.toNat 0 p
  unfold safechannelOpenVital at ok
  split at ok
  · cases ok
  rename_i counted
  split at ok
  · cases ok
  have some_ : 0 < cfg.linkCount.toNat := by
    have bad := (not_or.mp counted).1
    simp only [linkCountBad, decide_eq_true_eq, not_or] at bad
    exact Nat.pos_of_ne_zero fun zero => bad.1 (UInt32.toNat_inj.mp zero)
  split at ok
  · rename_i opened runs
    rw [runs] at types
    dsimp only at ok
    split at ok
    · rename_i bad
      exact absurd (congrArg Prod.fst ok) bad
    · obtain ⟨rfl, each⟩ := registersOk ok
      exact ⟨rfl, types, some_, fun j below => (each j (Nat.zero_le _) (by omega)).2⟩
  · rename_i status opened failed _
    cases ok
    exact (failed rfl).elim

theorem votedOverChannels {setupAllowed : RteStatus} {config : VoterConfig} {n : Nat} {voter : RteVoter}
    (voted : votedOver setupAllowed config n = .ok voter) :
    voter.channels.length = n ∧ (∀ channel ∈ voter.channels, live channel = true) ∧ voter.initialized = true ∧
      voter.config = config := by
  induction n generalizing voter with
  | zero =>
    simp only [votedOver, voterInit] at voted
    split at voted
    · cases voted
    split at voted
    · cases voted
    cases voted
    exact ⟨rfl, by simp, rfl, rfl⟩
  | succ n ih =>
    rw [votedOver] at voted
    cases before : votedOver setupAllowed config n with
    | error status =>
      rw [before] at voted
      cases voted
    | ok earlier =>
      obtain ⟨count, all, initialized, same⟩ := ih before
      rw [before] at voted
      simp only [bind, Except.bind, channelInit] at voted
      split at voted
      · cases voted
      · rename_i channel made
        split at made
        · cases made
          unfold voterRegisterChannel at voted
          split at voted
          · cases voted
          split at voted
          · cases voted
          split at voted
          · cases voted
            refine ⟨by simp [count], fun channel member => ?_, initialized, same⟩
            rcases List.mem_append.mp member with old | new
            · exact all channel old
            · rw [List.mem_singleton.mp new]
              rfl
          · cases voted
        · cases made

theorem dualInitCount {given : DualChannelConfig} (ok : statusOf (dualChannelInit given) = .ok) :
    ∃ channel, dualChannelInit given = .ok channel ∧ channel.linkCount = given.linkCount := by
  unfold dualChannelInit at ok ⊢
  split
  · rename_i count
    rw [dif_pos count] at ok
    split
    · exact ⟨_, rfl, rfl⟩
    · rename_i missing
      rw [if_neg missing] at ok
      cases ok
  · rename_i count
    rw [dif_neg count] at ok
    cases ok

theorem votedOverOk {setupAllowed : RteStatus} {config : VoterConfig} {n : Nat}
    (ok : statusOf (votedOver setupAllowed config n) = .ok) : ∃ voter, votedOver setupAllowed config n = .ok voter := by
  have fails : ∀ n status, votedOver setupAllowed config n = .error status → status ≠ .ok := by
    intro n
    induction n with
    | zero =>
      intro status failed
      simp only [votedOver, voterInit] at failed
      split at failed
      · rename_i locked
        cases failed
        exact locked
      split at failed
      · cases failed
        decide
      · cases failed
    | succ n ih =>
      intro status failed
      rw [votedOver] at failed
      cases before : votedOver setupAllowed config n with
      | error earlier =>
        rw [before] at failed
        cases failed
        exact ih _ before
      | ok voter =>
        rw [before] at failed
        simp only [bind, Except.bind, channelInit] at failed
        split at failed
        · rename_i made
          split at made
          · cases made
          · rename_i locked
            cases made
            cases failed
            exact locked
        · unfold voterRegisterChannel at failed
          split at failed
          · cases failed
            decide
          split at failed
          · rename_i locked
            cases failed
            exact locked
          split at failed
          · cases failed
          · cases failed
            decide
  cases result : votedOver setupAllowed config n with
  | ok voter => exact ⟨voter, rfl⟩
  | error status =>
    rw [result] at ok
    exact absurd ok (fails n status result)

theorem openImpl {netlinkOpen : Nat → NetlinkConfig → OpenAnswer} {setupAllowed : RteStatus} {config : SafechannelConfig}
    {state opened : RteSafechannel} {calls : List ServiceCall}
    (runs : rteSafechannelOpen (servicesOf netlinkOpen setupAllowed config) (some state) (some config) =
      (.ok, some opened, calls)) (all : (handlesOf opened).length = opened.linkCount.toNat) :
    ImplOver (handlesOf opened) opened.type (implOf setupAllowed config opened) := by
  unfold rteSafechannelOpen at runs
  dsimp only at runs
  cases kind : config.type with
  | dualRedundant =>
    rw [kind] at runs
    dsimp only at runs
    generalize result : safechannelOpenDual (servicesOf netlinkOpen setupAllowed config) config.dual
      ⟨⟨.dualRedundant, false, fun _ => none, 0⟩, []⟩ = outcome at runs
    obtain ⟨status, q⟩ := outcome
    simp only [Prod.mk.injEq, Option.some.injEq] at runs
    obtain ⟨rfl, rfl, rfl⟩ := runs
    obtain ⟨count, types, init⟩ := openDualOk result
    obtain ⟨channel, made, links⟩ := dualInitCount init
    have same : implOf setupAllowed config { q.channel with isOpen := decide (RteStatus.ok = RteStatus.ok) } =
        .dual (handlesOf { q.channel with isOpen := decide (RteStatus.ok = RteStatus.ok) }) channel := by
      rw [implOf, kind]
      dsimp only
      rw [made]
    have sized : channel.linkCount = config.dual.linkCount.toNat := links
    rw [same]
    refine ImplOver.ofType types (.dual channel ?_)
    rw [sized, all, ← count]
  | vitalVoted =>
    rw [kind] at runs
    dsimp only at runs
    generalize result : safechannelOpenVital (servicesOf netlinkOpen setupAllowed config) config.vital
      ⟨⟨.vitalVoted, false, fun _ => none, 0⟩, []⟩ = outcome at runs
    obtain ⟨status, q⟩ := outcome
    simp only [Prod.mk.injEq, Option.some.injEq] at runs
    obtain ⟨rfl, rfl, rfl⟩ := runs
    obtain ⟨count, types, some_, each⟩ := openVitalOk result
    have last := each (config.vital.linkCount.toNat - 1) (by omega)
    simp only [servicesOf, Nat.sub_add_cancel some_] at last
    obtain ⟨voter, made⟩ := votedOverOk last
    obtain ⟨channels, all_, initialized, -⟩ := votedOverChannels made
    have same : implOf setupAllowed config { q.channel with isOpen := decide (RteStatus.ok = RteStatus.ok) } =
        .vital (handlesOf { q.channel with isOpen := decide (RteStatus.ok = RteStatus.ok) }) voter := by
      rw [implOf, kind]
      dsimp only
      rw [made]
    rw [same]
    refine ImplOver.ofType types (.vital voter ?_ ?_ all_ initialized)
    · rw [all]
      simpa only [count] using some_
    · rw [channels, all, ← count]
  | other value =>
    rw [kind] at runs
    cases congrArg Prod.fst runs

theorem eachInRange (handles : List Nat) : (List.range handles.length).filterMap (fun j => handles[j]?) = handles := by
  induction handles using List.reverseRecOn with
  | nil => rfl
  | append_singleton init last ih =>
    have before : ∀ j ∈ List.range init.length, (init ++ [last])[j]? = init[j]? := fun j inside =>
      List.getElem?_append_left (List.mem_range.mp inside)
    rw [List.length_append, List.length_singleton, List.range_succ, List.filterMap_append,
      List.filterMap_congr before, ih]
    simp

theorem handlesHeld {state : RteSafechannel} {handles : List Nat} (holds : ∀ j, state.linkHandles j = handles[j]?)
    (all : handles.length = state.linkCount.toNat) : handlesOf state = handles := by
  have each : state.linkHandles = fun j => handles[j]? := funext holds
  rw [handlesOf, ← all, each]
  exact eachInRange handles

structure Carries (c : Fitted) (handles : List Nat) : Prop where
  holds : ∀ j, c.state.linkHandles j = handles[j]?
  all : handles.length = c.state.linkCount.toNat
  impl : ImplOver handles c.state.type c.impl

theorem openCases (c : Fitted) (netlinkOpen : Nat → NetlinkConfig → OpenAnswer) (setupAllowed : RteStatus)
    (config : SafechannelConfig) :
    (∃ (handles : List Nat) (opened : Fitted), safechannelOpen c netlinkOpen setupAllowed config = (.ok, opened, handles.map .opened) ∧
        opened.state.isOpen = true ∧ opened.call = none ∧ Carries opened handles) ∨
      ∃ (handles : List Nat) (status : RteStatus) (opened : Fitted), status ≠ .ok ∧
        safechannelOpen c netlinkOpen setupAllowed config =
          (status, opened, handles.map .opened ++ handles.map .closed) ∧
        opened.state.isOpen = false ∧ opened.call = none := by
  obtain ⟨status, p, ended, runs⟩ := openEnds (servicesOf netlinkOpen setupAllowed config) c.state config
  cases ended with
  | held _ handles all held =>
    refine Or.inl ⟨handles, ⟨{ p.channel with isOpen := decide (RteStatus.ok = RteStatus.ok) },
      implOf setupAllowed config { p.channel with isOpen := decide (RteStatus.ok = RteStatus.ok) }, none⟩, ?_, rfl, rfl,
      held.holds, all, ?_⟩
    · rw [safechannelOpen, runs, held.calls]
      rfl
    · have same : handlesOf { p.channel with isOpen := decide (RteStatus.ok = RteStatus.ok) } = handles :=
        handlesHeld held.holds all
      have built := openImpl runs (by rw [same]; exact all)
      rwa [same] at built
  | givenBack _ bad _ given =>
    obtain ⟨handles, calls⟩ := given.calls
    refine Or.inr ⟨handles, status, ⟨{ p.channel with isOpen := decide (status = .ok) }, .nothing, none⟩, bad, ?_, ?_, rfl⟩
    · rw [safechannelOpen, runs, calls]
      simp only [if_neg bad]
    · exact decide_eq_false bad

end Opened

section Served

def IsTraffic : Event → Prop
  | .sends _ _ => True
  | .receives _ _ => True
  | .accesses _ _ => True
  | _ => False

theorem setUpLive {voter voter' : RteVoter} (same : SameSetUp voter voter')
    (all : ∀ channel ∈ voter.channels, live channel = true) : ∀ channel ∈ voter'.channels, live channel = true := by
  intro channel member
  have up : live channel ∈ voter'.channels.map live := List.mem_map.mpr ⟨channel, member, rfl⟩
  rw [same.channels] at up
  obtain ⟨before, old, alike⟩ := List.mem_map.mp up
  rw [← alike]
  exact all before old

theorem finishCount (channel : DualChannel) (call : Call) : (finishCall channel call).1.linkCount = channel.linkCount := by
  cases call with
  | exchange =>
    simp only [finishCall, updateStatus]
    split <;> rfl
  | receive =>
    simp only [finishCall]
    split
    · rfl
    · split <;> rfl
  | beacon => rfl
  | receiveState =>
    simp only [finishCall]
    split <;> rfl

theorem settleCount (channel : DualChannel) (done : Performed) (nowMs : UInt64) (call : Call) :
    (settle channel done nowMs call).1.linkCount = channel.linkCount := by
  cases call with
  | exchange payload frame link ackCount hardFault wait =>
    cases wait with
    | none =>
      simp only [settle]
      split <;> rfl
    | some w =>
      simp only [settle]
      split
      · rfl
      · rfl
      · split <;> rfl
  | receive => rfl
  | beacon => rfl
  | receiveState => rfl

theorem advanceCount (channel : DualChannel) (m : ChecksumManager) (call : Call) (answer : Dual.Channel.Answer) :
    (advance channel m call answer).channel.linkCount = channel.linkCount := by
  have performed := (performAccess channel m answer (nextAction channel call)).posts.count
  simp only [advance, conclude]
  split
  · rw [finishCount, performed]
  · rw [settleCount, performed]

theorem startedSame (c : Fitted) (outcome : Outcome) :
    (started (c, outcome)).state = c.state ∧ (started (c, outcome)).impl = c.impl := by
  cases outcome <;> exact ⟨rfl, rfl⟩

theorem Carries.keeps {c c' : Fitted} {handles : List Nat} (carries : Carries c handles) (state : c'.state = c.state)
    (impl : ImplOver handles c.state.type c'.impl) : Carries c' handles := by
  obtain ⟨state', impl', call'⟩ := c'
  subst state
  exact ⟨carries.holds, carries.all, impl⟩

theorem ImplOver.voted {handles links : List Nat} {type : SafechannelType} {voter voter' : RteVoter}
    (built : ImplOver handles type (.vital links voter)) (same : SameSetUp voter voter') :
    ImplOver handles type (.vital links voter') := by
  cases built with
  | vital _ some_ count all initialized =>
    exact .vital voter' some_ (same.count.trans count) (setUpLive same all) (same.initialized.trans initialized)

theorem ImplOver.advanced {handles links : List Nat} {type : SafechannelType} {channel channel' : DualChannel}
    (built : ImplOver handles type (.dual links channel)) (same : channel'.linkCount = channel.linkCount) :
    ImplOver handles type (.dual links channel') := by
  cases built with
  | dual _ count => exact .dual channel' (same.trans count)

theorem trafficKeeps {c : Fitted} {e : Event} (traffic : IsTraffic e) : (step c e).state = c.state ∧
    ∀ handles, ImplOver handles c.state.type c.impl → ImplOver handles c.state.type (step c e).impl := by
  have started (c' : Fitted) (outcome : Outcome) (state : c'.state = c.state)
      (impl : ∀ handles, ImplOver handles c.state.type c.impl → ImplOver handles c.state.type c'.impl) :
      (started (c', outcome)).state = c.state ∧
        ∀ handles, ImplOver handles c.state.type c.impl → ImplOver handles c.state.type (started (c', outcome)).impl := by
    rw [(startedSame c' outcome).1, (startedSame c' outcome).2]
    exact ⟨state, impl⟩
  cases e with
  | opens => cases traffic
  | closes => cases traffic
  | sends payload answers =>
    rw [step]
    split
    · exact ⟨rfl, fun _ built => built⟩
    unfold safechannelSend
    split
    · exact started c _ rfl fun _ built => built
    split
    · split
      · exact started c _ rfl fun _ built => built
      · exact started c _ rfl fun _ built => built
    · rename_i links voter is
      refine started _ _ rfl fun handles built => ?_
      rw [is] at built
      exact built.voted (sendSetUp voter payload.length answers)
    · exact started c _ rfl fun _ built => built
  | receives maxSize answers =>
    rw [step]
    split
    · exact ⟨rfl, fun _ built => built⟩
    unfold safechannelReceive
    split
    · exact started c _ rfl fun _ built => built
    split
    · exact started c _ rfl fun _ built => built
    · rename_i links voter is
      refine started _ _ rfl fun handles built => ?_
      rw [is] at built
      exact built.voted (receiveSetUp voter answers)
    · exact started c _ rfl fun _ built => built
  | accesses m answer =>
    rw [step, safechannelAccess]
    split
    · rename_i links channel call is _
      have count := advanceCount channel m call answer
      dsimp only
      split
      · refine ⟨rfl, fun handles built => ?_⟩
        rw [is] at built
        exact built.advanced count
      · refine ⟨rfl, fun handles built => ?_⟩
        rw [is] at built
        exact built.advanced count
    · exact ⟨rfl, fun _ built => built⟩

end Served

end PlatformRte.Safechannel
