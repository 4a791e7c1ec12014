import PlatformRte.Lib.FirstMatch
import PlatformRte.Safestate
import PlatformRte.Voter.ChannelLink

/-! The voter: it polls its healthy channels once, groups what they returned by the
first earlier response each one matches, and takes the first of the largest groups if
that reaches the quorum. Buffers collected by the caller are voted on the same way. -/
namespace PlatformRte.Voter
open FirstMatch

inductive VotingStrategy where
  | twoOutOfTwo | twoOutOfThree | nmr
  deriving DecidableEq, Repr

inductive VotingResult where
  | agreed | disagreed | timeout | insufficientQuorum
  deriving DecidableEq, Repr

abbrev VoterCompareFn := (size : Nat) → Buffer size → Buffer size → Bool

structure VoterConfig where
  votingStrategy : VotingStrategy
  quorumSize : UInt32
  compare : Option VoterCompareFn
  safestateLevel : SafestateLevel
  safestateReason : SafestateReason
  -- whether a callback was given
  onDisagreement : Bool

def voterMaxChannels : Nat := 8
def voterMaxMessageSize : Nat := 256

structure RteVoter where
  config : VoterConfig
  channels : List RteChannel
  channelsFit : channels.length ≤ voterMaxChannels
  totalDisagreements : UInt32
  initialized : Bool

def voterInit (setupAllowed : RteStatus) (config : VoterConfig) : Except RteStatus RteVoter :=
  if setupAllowed ≠ .ok then .error setupAllowed
  else if config.votingStrategy = .nmr ∧ config.quorumSize = 0 then .error .invalidParam
  else .ok ⟨config, [], Nat.zero_le _, 0, true⟩

def voterRegisterChannel (voter : RteVoter) (channel : RteChannel) (setupAllowed : RteStatus) :
    Except RteStatus RteVoter :=
  if !voter.initialized then .error .notInitialized
  else if setupAllowed ≠ .ok then .error setupAllowed
  else if room : voter.channels.length < voterMaxChannels then
    .ok { voter with
      channels := voter.channels ++ [channel]
      channelsFit := by simpa using Nat.succ_le_of_lt room }
  else .error .resourceExhausted

def voterChannelCountMatchesStrategy (config : VoterConfig) (channelCount : Nat) : Bool :=
  match config.votingStrategy with
  | .twoOutOfTwo => channelCount == 2
  | .twoOutOfThree => channelCount == 3
  | .nmr => decide (1 ≤ channelCount ∧ 1 ≤ config.quorumSize.toNat ∧ config.quorumSize.toNat ≤ channelCount)

def voterRequiredQuorum (config : VoterConfig) : Nat :=
  match config.votingStrategy with
  | .twoOutOfTwo => 2
  | .twoOutOfThree => 2
  | .nmr => config.quorumSize.toNat

def liveChannel : RteChannel := ⟨⟨0, 0, 0, 0, true, .ok⟩, true⟩

def liveVoter (config : VoterConfig) (n : Nat) (few : n ≤ voterMaxChannels) : RteVoter :=
  ⟨config, List.replicate n liveChannel, by simpa using few, 0, true⟩

theorem oneFits : 1 ≤ voterMaxChannels := by decide

theorem threeFit : 3 ≤ voterMaxChannels := by decide

section Vote
variable {size : Nat}

def voterDataEqual (config : VoterConfig) (a b : Buffer size) : Bool :=
  match config.compare with
  | some compare => compare size a b
  | none => a == b

def voterCountHealthy (voter : RteVoter) : Nat := voter.channels.countP fun c => c.health.isHealthy

structure ChannelAnswer (size : Nat) where
  status : RteStatus
  data : Buffer size
  deriving DecidableEq

structure Polled (size : Nat) where
  channel : RteChannel
  status : Option RteStatus
  response : Option (Buffer size)

def pollChannel (slot : RteChannel × ChannelAnswer size) : Polled size :=
  if !slot.1.health.isHealthy then ⟨slot.1, none, none⟩
  else
    let received := channelReceive slot.1 size slot.2.status
    ⟨received.1, some received.2, if received.2 = .ok then some slot.2.data else none⟩

def voterSlots (voter : RteVoter) (answers : Nat → ChannelAnswer size) : List (RteChannel × ChannelAnswer size) :=
  voter.channels.mapIdx fun i c => (c, answers i)

def voterReceiveFromHealthyChannels (voter : RteVoter) (answers : Nat → ChannelAnswer size) : List (Polled size) :=
  (voterSlots voter answers).map pollChannel

def voterGroupMatchingResponses (config : VoterConfig) (responses : List (Option (Buffer size))) :
    Classes (Buffer size) :=
  responses.foldl (fun groups response =>
    match response with
    | none => groups
    | some x => place (voterDataEqual config) groups x) ⟨[], [], []⟩

inductive VoterEvent (size : Nat) where
  | compared (a b : Buffer size)
  | disagreement (result : VotingResult)
  | safestate (entry : SafestateEntry)
  deriving DecidableEq

/- data and bytes: what was written to the caller's buffer and size. -/
structure VoterOutcome (size : Nat) where
  voter : RteVoter
  status : RteStatus
  result : Option VotingResult
  data : Option (Buffer size)
  bytes : Option Nat
  events : List (VoterEvent size)

def voterRejected (voter : RteVoter) (status : RteStatus) : VoterOutcome size := ⟨voter, status, none, none, none, []⟩

-- The registered compare callback is called once for each pair that is looked at.
def voterComparisons (config : VoterConfig) (groups : Classes (Buffer size)) : List (VoterEvent size) :=
  if config.compare.isSome then groups.compared.map fun pair => .compared pair.1 pair.2 else []

def disagreementCallback (config : VoterConfig) (result : VotingResult) : List (VoterEvent size) :=
  if config.onDisagreement then [.disagreement result] else []

def voterReceive (voter : RteVoter) (size : Nat) (answers : Nat → ChannelAnswer size) : VoterOutcome size :=
  if size = 0 then voterRejected voter .invalidParam
  else if !voter.initialized then voterRejected voter .notInitialized
  else if voterMaxMessageSize < size then voterRejected voter .resourceExhausted
  else if !voterChannelCountMatchesStrategy voter.config voter.channels.length then voterRejected voter .invalidParam
  else
    let config := voter.config
    let requiredQuorum := voterRequiredQuorum config
    let failed (voter : RteVoter) (result : VotingResult) : VoterOutcome size :=
      ⟨voter, .hardwareFault, some result, none, some 0, disagreementCallback config result⟩
    if voterCountHealthy voter < requiredQuorum then failed voter .insufficientQuorum
    else
      let polled := voterReceiveFromHealthyChannels voter answers
      let voter := { voter with
        channels := polled.map Polled.channel
        channelsFit := by simpa [polled, voterReceiveFromHealthyChannels, voterSlots] using voter.channelsFit }
      let sawTimeout := polled.any fun p => p.status == some .timeout
      let successful := (polled.filterMap Polled.response).length
      if successful = 0 then failed voter (if sawTimeout then .timeout else .insufficientQuorum)
      else if successful < requiredQuorum then failed voter .insufficientQuorum
      else
        let groups := voterGroupMatchingResponses config (polled.map Polled.response)
        let best := largest groups.sizes
        if requiredQuorum ≤ best.count then
          ⟨voter, .ok, some .agreed, firstOf groups best.group, some size, voterComparisons config groups⟩
        else
          ⟨{ voter with totalDisagreements := voter.totalDisagreements + 1 }, .hardwareFault, some .disagreed, none,
            some 0, voterComparisons config groups ++ disagreementCallback config .disagreed ++
              [.safestate ⟨config.safestateLevel, config.safestateReason⟩]⟩

def voterVoteBuffers (voter : RteVoter) (size : Nat) (buffers : List (Buffer size)) : VoterOutcome size :=
  if size = 0 then voterRejected voter .invalidParam
  else if !voter.initialized then voterRejected voter .notInitialized
  else if voterMaxMessageSize < size then voterRejected voter .resourceExhausted
  else if voterMaxChannels < buffers.length then voterRejected voter .invalidParam
  else if !voterChannelCountMatchesStrategy voter.config buffers.length then voterRejected voter .invalidParam
  else
    let config := voter.config
    let requiredQuorum := voterRequiredQuorum config
    let groups := voterGroupMatchingResponses config (buffers.map some)
    let best := largest groups.sizes
    if requiredQuorum ≤ best.count then
      ⟨voter, .ok, some .agreed, firstOf groups best.group, some size, voterComparisons config groups⟩
    else
      ⟨{ voter with totalDisagreements := voter.totalDisagreements + 1 }, .hardwareFault, some .disagreed, none,
        some 0, voterComparisons config groups ++ disagreementCallback config .disagreed ++
          [.safestate ⟨config.safestateLevel, config.safestateReason⟩]⟩

structure Accepted (voter : RteVoter) (size : Nat) : Prop where
  some_ : size ≠ 0
  initialized : voter.initialized = true
  fits : size ≤ voterMaxMessageSize
  count : voterChannelCountMatchesStrategy voter.config voter.channels.length = true

def returned (slot : RteChannel × ChannelAnswer size) : Option (Buffer size) :=
  if slot.1.health.isHealthy = true ∧ slot.1.initialized = true ∧ slot.2.status = .ok then some slot.2.data else none

def responses (voter : RteVoter) (answers : Nat → ChannelAnswer size) : List (Buffer size) :=
  (voterSlots voter answers).filterMap returned

theorem polledResponse (some_ : size ≠ 0) (slot : RteChannel × ChannelAnswer size) :
    (pollChannel slot).response = returned slot := by
  unfold pollChannel returned
  cases slot.1.health.isHealthy <;> cases up : slot.1.initialized <;> simp [receiveStatus slot.1 some_, up]

theorem polledResponses (some_ : size ≠ 0) (voter : RteVoter) (answers : Nat → ChannelAnswer size) :
    (voterReceiveFromHealthyChannels voter answers).filterMap Polled.response = responses voter answers := by
  rw [voterReceiveFromHealthyChannels, responses, List.filterMap_map]
  congr 1
  exact funext (polledResponse some_)

theorem responsesBounded {p : RteChannel → Bool}
    (only : ∀ c : RteChannel, c.health.isHealthy = true → c.initialized = true → p c = true)
    (voter : RteVoter) (answers : Nat → ChannelAnswer size) :
    (responses voter answers).length ≤ voter.channels.countP p := by
  have counted : voter.channels.countP p = (voterSlots voter answers).countP fun slot => p slot.1 := by
    have channels : voter.channels = (voterSlots voter answers).map Prod.fst := by
      refine List.ext_getElem (by simp [voterSlots]) fun i _ _ => ?_
      simp [voterSlots]
    rw [channels, List.countP_map]
    rfl
  rw [counted, responses, List.length_filterMap_eq_countP]
  refine List.countP_mono_left fun slot _ given => ?_
  unfold returned at given
  split at given
  · rename_i answered
    exact only slot.1 answered.1 answered.2.1
  · cases given

theorem groupsAreClasses (config : VoterConfig) (rs : List (Option (Buffer size))) :
    voterGroupMatchingResponses config rs = classes (voterDataEqual config) (rs.filterMap id) := by
  have fold : ∀ groups, rs.foldl (fun groups response =>
      match response with
      | none => groups
      | some x => place (voterDataEqual config) groups x) groups =
        (rs.filterMap id).foldl (place (voterDataEqual config)) groups := by
    induction rs with
    | nil => intro groups; rfl
    | cons response rest ih =>
      intro groups
      cases response with
      | none => exact ih groups
      | some x => exact ih (place (voterDataEqual config) groups x)
  exact fold _

theorem quorumPositive {config : VoterConfig} {n : Nat} (count : voterChannelCountMatchesStrategy config n = true) :
    1 ≤ voterRequiredQuorum config ∧ voterRequiredQuorum config ≤ n := by
  unfold voterChannelCountMatchesStrategy at count
  unfold voterRequiredQuorum
  cases strategy : config.votingStrategy <;> simp [strategy] at count ⊢ <;> omega

inductive Verdict (voter : RteVoter) (values : List (Buffer size)) (out : VoterOutcome size) : Prop where
  | agreed (quorum : voterRequiredQuorum voter.config ≤
        (largest (classes (voterDataEqual voter.config) values).sizes).count)
      (status : out.status = .ok) (result : out.result = some .agreed)
      (data : out.data = firstOf (classes (voterDataEqual voter.config) values)
        (largest (classes (voterDataEqual voter.config) values).sizes).group)
      (bytes : out.bytes = some size)
      (events : out.events = voterComparisons voter.config (classes (voterDataEqual voter.config) values))
      (counted : out.voter.totalDisagreements = voter.totalDisagreements)
  | disagreed (enough : voterRequiredQuorum voter.config ≤ values.length)
      (split : (largest (classes (voterDataEqual voter.config) values).sizes).count < voterRequiredQuorum voter.config)
      (status : out.status = .hardwareFault) (result : out.result = some .disagreed)
      (data : out.data = none) (bytes : out.bytes = some 0)
      (events : out.events = voterComparisons voter.config (classes (voterDataEqual voter.config) values) ++
        disagreementCallback voter.config .disagreed ++
          [.safestate ⟨voter.config.safestateLevel, voter.config.safestateReason⟩])
      (counted : out.voter.totalDisagreements = voter.totalDisagreements + 1)
  | failed (few : values.length < voterRequiredQuorum voter.config) {undecided : VotingResult}
      (kind : undecided = .timeout ∨ undecided = .insufficientQuorum)
      (status : out.status = .hardwareFault) (result : out.result = some undecided)
      (data : out.data = none) (bytes : out.bytes = some 0)
      (events : out.events = disagreementCallback voter.config undecided)
      (counted : out.voter.totalDisagreements = voter.totalDisagreements)

theorem receiveVerdict {voter : RteVoter} (accepted : Accepted voter size) (answers : Nat → ChannelAnswer size) :
    Verdict voter (responses voter answers) (voterReceive voter size answers) := by
  obtain ⟨some_, initialized, fits, count⟩ := accepted
  have positive := (quorumPositive count).1
  have healthy : (responses voter answers).length ≤ voterCountHealthy voter :=
    responsesBounded (fun _ up _ => up) voter answers
  have groups : voterGroupMatchingResponses voter.config
      ((voterReceiveFromHealthyChannels voter answers).map Polled.response) =
        classes (voterDataEqual voter.config) (responses voter answers) := by
    rw [groupsAreClasses, List.filterMap_map, Function.id_comp, polledResponses some_]
  unfold voterReceive
  simp only [some_, initialized, Nat.not_lt.mpr fits, count, polledResponses some_, groups, if_false, Bool.not_true,
    Bool.false_eq_true]
  split
  · exact .failed (by omega) (Or.inr rfl) rfl rfl rfl rfl rfl rfl
  split
  · refine .failed (by omega) ?_ rfl rfl rfl rfl rfl rfl
    split <;> simp
  split
  · exact .failed (by assumption) (Or.inr rfl) rfl rfl rfl rfl rfl rfl
  split
  · exact .agreed (by assumption) rfl rfl rfl rfl rfl rfl
  · exact .disagreed (by omega) (by omega) rfl rfl rfl rfl rfl rfl

theorem voteBuffersVerdict {voter : RteVoter} {buffers : List (Buffer size)} (some_ : size ≠ 0)
    (initialized : voter.initialized = true) (fits : size ≤ voterMaxMessageSize)
    (few : buffers.length ≤ voterMaxChannels)
    (count : voterChannelCountMatchesStrategy voter.config buffers.length = true) :
    Verdict voter buffers (voterVoteBuffers voter size buffers) := by
  have bound := (quorumPositive count).2
  have groups : voterGroupMatchingResponses voter.config (buffers.map some) =
      classes (voterDataEqual voter.config) buffers := by
    rw [groupsAreClasses, List.filterMap_map, Function.id_comp, List.filterMap_some]
  unfold voterVoteBuffers
  simp only [some_, initialized, Nat.not_lt.mpr fits, Nat.not_lt.mpr few, count, groups, if_false, Bool.not_true,
    Bool.false_eq_true]
  split
  · exact .agreed (by assumption) rfl rfl rfl rfl rfl rfl
  · exact .disagreed (by omega) (by omega) rfl rfl rfl rfl rfl rfl

end Vote
end PlatformRte.Voter
