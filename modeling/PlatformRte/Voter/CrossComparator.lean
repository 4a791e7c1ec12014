import PlatformRte.Voter.Voting

/-! The cross comparator: it receives from two channels and compares what they give. One
call of it ends as one call of a voter of two does, but for a single timeout. -/
namespace PlatformRte.Voter.CrossComparator
open FirstMatch

structure CrossComparatorConfig where
  compare : Option VoterCompareFn
  safestateLevel : SafestateLevel
  safestateReason : SafestateReason
  -- whether a callback was given
  onDisagreement : Bool

def crossComparatorMaxMessageSize : Nat := 256

/- The first channel registered is A, the second one B. -/
inductive Registered where
  | nobody
  | channelA (a : RteChannel)
  | both (a b : RteChannel)

structure RteCrossComparator where
  config : CrossComparatorConfig
  registered : Registered
  totalDisagreements : UInt32
  initialized : Bool

def channelsOf : Registered → List RteChannel
  | .nobody => []
  | .channelA a => [a]
  | .both a b => [a, b]

def crossComparatorInit (setupAllowed : RteStatus) (config : CrossComparatorConfig) :
    Except RteStatus RteCrossComparator :=
  if setupAllowed ≠ .ok then .error setupAllowed else .ok ⟨config, .nobody, 0, true⟩

def crossComparatorRegisterChannel (cmp : RteCrossComparator) (channel : RteChannel) (setupAllowed : RteStatus) :
    Except RteStatus RteCrossComparator :=
  if !cmp.initialized then .error .notInitialized
  else if setupAllowed ≠ .ok then .error setupAllowed
  else match cmp.registered with
    | .nobody => .ok { cmp with registered := .channelA channel }
    | .channelA a => .ok { cmp with registered := .both a channel }
    | .both _ _ => .error .resourceExhausted

section Compare
variable {size : Nat}

def crossComparatorDataEqual (cmp : RteCrossComparator) (a b : Buffer size) : Bool :=
  match cmp.config.compare with
  | some compare => compare size a b
  | none => a == b

structure Comparison (size : Nat) where
  cmp : RteCrossComparator
  status : RteStatus
  result : Option VotingResult
  data : Option (Buffer size)
  bytes : Option Nat
  events : List (VoterEvent size)

def comparisonRejected (cmp : RteCrossComparator) (status : RteStatus) : Comparison size :=
  ⟨cmp, status, none, none, none, []⟩

def onDisagreement (cmp : RteCrossComparator) (result : VotingResult) : List (VoterEvent size) :=
  if cmp.config.onDisagreement then [.disagreement result] else []

-- compared: the calls of the registered compare callback so far.
def crossComparatorFinish (cmp : RteCrossComparator) (localResult : VotingResult) (agreedData : Buffer size)
    (compared : List (VoterEvent size)) : Comparison size :=
  match localResult with
  | .agreed => ⟨cmp, .ok, some localResult, some agreedData, some size, compared⟩
  | .disagreed =>
      ⟨{ cmp with totalDisagreements := cmp.totalDisagreements + 1 }, .hardwareFault, some localResult, none, some 0,
        compared ++ onDisagreement cmp localResult ++
          [.safestate ⟨cmp.config.safestateLevel, cmp.config.safestateReason⟩]⟩
  | _ => ⟨cmp, .hardwareFault, some localResult, none, some 0, compared ++ onDisagreement cmp localResult⟩

def callbackCompared (cmp : RteCrossComparator) (a b : Buffer size) : List (VoterEvent size) :=
  if cmp.config.compare.isSome then [.compared a b] else []

def crossComparatorExecute (cmp : RteCrossComparator) (size : Nat) (answers : Nat → ChannelAnswer size) :
    Comparison size :=
  if size = 0 then comparisonRejected cmp .invalidParam
  else if !cmp.initialized then comparisonRejected cmp .notInitialized
  else if crossComparatorMaxMessageSize < size then comparisonRejected cmp .resourceExhausted
  else match cmp.registered with
    | .both a b =>
        let bufA := (answers 0).data
        let bufB := (answers 1).data
        if !a.health.isHealthy || !b.health.isHealthy then crossComparatorFinish cmp .insufficientQuorum bufA []
        else
          let receivedA := channelReceive a size (answers 0).status
          let receivedB := channelReceive b size (answers 1).status
          let cmp := { cmp with registered := .both receivedA.1 receivedB.1 }
          if receivedA.2 = .timeout ∨ receivedB.2 = .timeout then crossComparatorFinish cmp .timeout bufA []
          else if receivedA.2 ≠ .ok ∨ receivedB.2 ≠ .ok then crossComparatorFinish cmp .insufficientQuorum bufA []
          else if crossComparatorDataEqual cmp bufA bufB then
            crossComparatorFinish cmp .agreed bufA (callbackCompared cmp bufA bufB)
          else crossComparatorFinish cmp .disagreed bufA (callbackCompared cmp bufA bufB)
    | _ => comparisonRejected cmp .invalidParam

def crossComparatorExecuteBuffers (cmp : RteCrossComparator) (size : Nat) (localData peerData : Buffer size) :
    Comparison size :=
  if size = 0 then comparisonRejected cmp .invalidParam
  else if !cmp.initialized then comparisonRejected cmp .notInitialized
  else if crossComparatorMaxMessageSize < size then comparisonRejected cmp .resourceExhausted
  else crossComparatorFinish cmp (if crossComparatorDataEqual cmp localData peerData then .agreed else .disagreed)
    localData (callbackCompared cmp localData peerData)

def crossComparatorGetAggregatedHealth (cmp : RteCrossComparator) : Nat × UInt32 :=
  let healthy := match cmp.registered with
    | .nobody => 0
    | .channelA a => if a.health.isHealthy then 1 else 0
    | .both a b => (if a.health.isHealthy then 1 else 0) + if b.health.isHealthy then 1 else 0
  (healthy, cmp.totalDisagreements)

def crossComparatorDestroy (cmp : RteCrossComparator) : RteCrossComparator := { cmp with initialized := false }

end Compare

section AsVoter
variable {size : Nat} (quorumSize : UInt32)

def voterConfig (config : CrossComparatorConfig) : VoterConfig :=
  ⟨.twoOutOfTwo, quorumSize, config.compare, config.safestateLevel, config.safestateReason, config.onDisagreement⟩

theorem channelsFit (registered : Registered) : (channelsOf registered).length ≤ voterMaxChannels := by
  cases registered <;> simp [channelsOf, voterMaxChannels]

def asVoter (cmp : RteCrossComparator) : RteVoter :=
  ⟨voterConfig quorumSize cmp.config, channelsOf cmp.registered, channelsFit cmp.registered, cmp.totalDisagreements,
    cmp.initialized⟩

def swapped : VoterEvent size → VoterEvent size
  | .compared a b => .compared b a
  | e => e

structure Alike (out : Comparison size) (out' : VoterOutcome size) : Prop where
  left : out'.voter = asVoter quorumSize out.cmp
  status : out'.status = out.status
  result : out'.result = out.result
  data : out'.data = out.data
  bytes : out'.bytes = out.bytes
  events : out'.events = out.events.map swapped

theorem twoResponses (config : VoterConfig) (x y : Buffer size) :
    voterGroupMatchingResponses config [some x, some y] =
      if voterDataEqual config y x then ⟨[(x, 0), (y, 0)], [2], [(y, x)]⟩ else ⟨[(x, 0), (y, 1)], [1, 1], [(y, x)]⟩ := by
  cases same : voterDataEqual config y x <;> simp [voterGroupMatchingResponses, place, same]

def voterFailed (voter : RteVoter) (result : VotingResult) : VoterOutcome size :=
  ⟨voter, .hardwareFault, some result, none, some 0, disagreementCallback voter.config result⟩

def voterCompared (voter : RteVoter) (x y : Buffer size) : VoterOutcome size :=
  let compared : List (VoterEvent size) := if voter.config.compare.isSome then [.compared y x] else []
  if voterDataEqual voter.config y x then ⟨voter, .ok, some .agreed, some x, some size, compared⟩
  else
    ⟨{ voter with totalDisagreements := voter.totalDisagreements + 1 }, .hardwareFault, some .disagreed, none, some 0,
      compared ++ disagreementCallback voter.config .disagreed ++
        [.safestate ⟨voter.config.safestateLevel, voter.config.safestateReason⟩]⟩

theorem receiveBoth {cmp : RteCrossComparator} {a b : RteChannel} (answers : Nat → ChannelAnswer size)
    (some_ : size ≠ 0) (initialized : cmp.initialized = true) (fits : size ≤ voterMaxMessageSize)
    (both : cmp.registered = .both a b) (healthyA : a.health.isHealthy = true) (healthyB : b.health.isHealthy = true) :
    let receivedA := channelReceive a size (answers 0).status
    let receivedB := channelReceive b size (answers 1).status
    let left := asVoter quorumSize { cmp with registered := .both receivedA.1 receivedB.1 }
    voterReceive (asVoter quorumSize cmp) size answers =
      if receivedA.2 = .ok ∧ receivedB.2 = .ok then voterCompared left (answers 0).data (answers 1).data
      else if receivedA.2 ≠ .ok ∧ receivedB.2 ≠ .ok ∧ (receivedA.2 = .timeout ∨ receivedB.2 = .timeout) then
        voterFailed left .timeout
      else voterFailed left .insufficientQuorum := by
  intro receivedA receivedB left
  have pollA : pollChannel (a, answers 0) =
      ⟨receivedA.1, some receivedA.2, if receivedA.2 = .ok then some (answers 0).data else none⟩ := by
    simp [pollChannel, healthyA, receivedA]
  have pollB : pollChannel (b, answers 1) =
      ⟨receivedB.1, some receivedB.2, if receivedB.2 = .ok then some (answers 1).data else none⟩ := by
    simp [pollChannel, healthyB, receivedB]
  have polled : voterReceiveFromHealthyChannels (asVoter quorumSize cmp) answers =
      [⟨receivedA.1, some receivedA.2, if receivedA.2 = .ok then some (answers 0).data else none⟩,
        ⟨receivedB.1, some receivedB.2, if receivedB.2 = .ok then some (answers 1).data else none⟩] := by
    simp [voterReceiveFromHealthyChannels, voterSlots, asVoter, both, channelsOf, pollA, pollB]
  have healthy : voterCountHealthy (asVoter quorumSize cmp) = 2 := by
    simp [voterCountHealthy, asVoter, both, channelsOf, healthyA, healthyB]
  have quorum : voterRequiredQuorum (asVoter quorumSize cmp).config = 2 := rfl
  have count : voterChannelCountMatchesStrategy (asVoter quorumSize cmp).config
      (asVoter quorumSize cmp).channels.length = true := by
    simp [voterChannelCountMatchesStrategy, asVoter, both, channelsOf, voterConfig]
  have up : (asVoter quorumSize cmp).initialized = true := initialized
  unfold voterReceive
  simp only [some_, up, Nat.not_lt.mpr fits, count, quorum, healthy, polled, if_false, Bool.not_true, Bool.false_eq_true,
    Nat.lt_irrefl]
  by_cases okA : receivedA.2 = .ok
  · by_cases okB : receivedB.2 = .ok
    · cases same : voterDataEqual (voterConfig quorumSize cmp.config) (answers 1).data (answers 0).data <;>
        simp [okA, okB, twoResponses, same, largest, larger, firstOf, voterComparisons, voterCompared, left, asVoter,
          channelsOf, initialized]
    · simp [okA, okB, voterFailed, left, asVoter, channelsOf, initialized]
  · by_cases okB : receivedB.2 = .ok
    · simp [okA, okB, voterFailed, left, asVoter, channelsOf, initialized]
    · by_cases timeout : receivedA.2 = .timeout ∨ receivedB.2 = .timeout
      · simp [okA, okB, timeout, voterFailed, left, asVoter, channelsOf, initialized]
      · simp [okA, okB, timeout, voterFailed, left, asVoter, channelsOf, initialized]

def SymmetricCompare (config : CrossComparatorConfig) : Prop :=
  ∀ compare, config.compare = some compare → ∀ size (a b : Buffer size), compare size a b = compare size b a

theorem swappedEqual {cmp : RteCrossComparator} (symmetric : SymmetricCompare cmp.config) (a b : Buffer size) :
    voterDataEqual (voterConfig quorumSize cmp.config) b a = crossComparatorDataEqual cmp a b := by
  unfold voterDataEqual crossComparatorDataEqual voterConfig
  cases given : cmp.config.compare with
  | none => exact Bool.beq_comm
  | some compare => exact symmetric compare given size b a

def OneTimedOut (cmp : RteCrossComparator) (size : Nat) (answers : Nat → ChannelAnswer size) : Prop :=
  size ≠ 0 ∧ cmp.initialized = true ∧ size ≤ crossComparatorMaxMessageSize ∧
  ∃ a b, cmp.registered = .both a b ∧ a.health.isHealthy = true ∧ b.health.isHealthy = true ∧
    ((channelReceive a size (answers 0).status).2 = .ok ∧ (channelReceive b size (answers 1).status).2 = .timeout ∨
      (channelReceive a size (answers 0).status).2 = .timeout ∧ (channelReceive b size (answers 1).status).2 = .ok)

theorem rejectedAlike (cmp : RteCrossComparator) (status : RteStatus) :
    Alike quorumSize (comparisonRejected cmp status : Comparison size) (voterRejected (asVoter quorumSize cmp) status) :=
  ⟨rfl, rfl, rfl, rfl, rfl, rfl⟩

theorem failedAlike (cmp : RteCrossComparator) {result : VotingResult}
    (undecided : result = .timeout ∨ result = .insufficientQuorum) (data : Buffer size) :
    Alike quorumSize (crossComparatorFinish cmp result data []) (voterFailed (asVoter quorumSize cmp) result) := by
  rcases undecided with rfl | rfl <;>
    refine ⟨rfl, rfl, rfl, rfl, rfl, ?_⟩ <;>
    cases callback : cmp.config.onDisagreement <;>
    simp [voterFailed, crossComparatorFinish, disagreementCallback, onDisagreement, asVoter, voterConfig, callback, swapped]

theorem comparedAlike {cmp : RteCrossComparator} (symmetric : SymmetricCompare cmp.config) (x y : Buffer size) :
    Alike quorumSize
      (crossComparatorFinish cmp (if crossComparatorDataEqual cmp x y then .agreed else .disagreed) x
        (callbackCompared cmp x y))
      (voterCompared (asVoter quorumSize cmp) x y) := by
  have equal : voterDataEqual (asVoter quorumSize cmp).config y x = crossComparatorDataEqual cmp x y :=
    swappedEqual quorumSize symmetric x y
  have called : (callbackCompared cmp x y).map swapped =
      if (asVoter quorumSize cmp).config.compare.isSome then [VoterEvent.compared y x] else [] := by
    unfold callbackCompared
    cases given : cmp.config.compare <;> simp [asVoter, voterConfig, given, swapped]
  unfold voterCompared
  rw [equal]
  cases same : crossComparatorDataEqual cmp x y with
  | true => exact ⟨rfl, rfl, rfl, rfl, rfl, called.symm⟩
  | false =>
    refine ⟨rfl, rfl, rfl, rfl, rfl, ?_⟩
    simp only [crossComparatorFinish, Bool.false_eq_true, if_false, List.map_append, called]
    cases callback : cmp.config.onDisagreement <;>
      simp [disagreementCallback, onDisagreement, asVoter, voterConfig, callback, swapped]

section Execute
variable {cmp : RteCrossComparator} {a b : RteChannel} (some_ : size ≠ 0) (initialized : cmp.initialized = true)
  (fits : size ≤ voterMaxMessageSize)
include some_ initialized fits

theorem executeMissing (missing : (channelsOf cmp.registered).length ≠ 2) (answers : Nat → ChannelAnswer size) :
    Alike quorumSize (crossComparatorExecute cmp size answers) (voterReceive (asVoter quorumSize cmp) size answers) := by
  have up : (asVoter quorumSize cmp).initialized = true := initialized
  have fits' : ¬crossComparatorMaxMessageSize < size := Nat.not_lt.mpr fits
  have count : voterChannelCountMatchesStrategy (asVoter quorumSize cmp).config
      (asVoter quorumSize cmp).channels.length = false := by
    simpa [voterChannelCountMatchesStrategy, asVoter, voterConfig] using missing
  have rejected : crossComparatorExecute cmp size answers = comparisonRejected cmp .invalidParam := by
    unfold crossComparatorExecute
    simp only [some_, initialized, fits', if_false, Bool.not_true, Bool.false_eq_true]
    cases registered : cmp.registered with
    | nobody => rfl
    | channelA a => rfl
    | both a b => exact absurd (by rw [registered]; rfl) missing
  have rejected' : voterReceive (asVoter quorumSize cmp) size answers =
      voterRejected (asVoter quorumSize cmp) .invalidParam := by
    simp [voterReceive, some_, up, Nat.not_lt.mpr fits, count]
  rw [rejected, rejected']
  exact rejectedAlike quorumSize cmp .invalidParam

theorem executeUnhealthy (both : cmp.registered = .both a b)
    (unhealthy : ¬(a.health.isHealthy = true ∧ b.health.isHealthy = true)) (answers : Nat → ChannelAnswer size) :
    Alike quorumSize (crossComparatorExecute cmp size answers) (voterReceive (asVoter quorumSize cmp) size answers) := by
  have up : (asVoter quorumSize cmp).initialized = true := initialized
  have fits' : ¬crossComparatorMaxMessageSize < size := Nat.not_lt.mpr fits
  have count : voterChannelCountMatchesStrategy (asVoter quorumSize cmp).config
      (asVoter quorumSize cmp).channels.length = true := by
    simp [voterChannelCountMatchesStrategy, asVoter, both, channelsOf, voterConfig]
  have few : voterCountHealthy (asVoter quorumSize cmp) < voterRequiredQuorum (asVoter quorumSize cmp).config := by
    simp only [voterCountHealthy, voterRequiredQuorum, asVoter, both, channelsOf, voterConfig]
    cases upA : a.health.isHealthy <;> cases upB : b.health.isHealthy <;> simp [upA, upB] at unhealthy ⊢
  have failed : crossComparatorExecute cmp size answers =
      crossComparatorFinish cmp .insufficientQuorum (answers 0).data [] := by
    have one : (!a.health.isHealthy || !b.health.isHealthy) = true := by
      cases upA : a.health.isHealthy <;> cases upB : b.health.isHealthy <;> simp [upA, upB] at unhealthy ⊢
    simp [crossComparatorExecute, some_, initialized, fits', both, one]
  have failed' : voterReceive (asVoter quorumSize cmp) size answers =
      voterFailed (asVoter quorumSize cmp) .insufficientQuorum := by
    simp [voterReceive, some_, up, Nat.not_lt.mpr fits, count, few, voterFailed]
  rw [failed, failed']
  exact failedAlike quorumSize cmp (Or.inr rfl) _

theorem executeBoth {answers : Nat → ChannelAnswer size} (symmetric : SymmetricCompare cmp.config)
    (both : cmp.registered = .both a b) (healthyA : a.health.isHealthy = true) (healthyB : b.health.isHealthy = true)
    (not_ : ¬((channelReceive a size (answers 0).status).2 = .ok ∧
        (channelReceive b size (answers 1).status).2 = .timeout ∨
      (channelReceive a size (answers 0).status).2 = .timeout ∧
        (channelReceive b size (answers 1).status).2 = .ok)) :
    Alike quorumSize (crossComparatorExecute cmp size answers) (voterReceive (asVoter quorumSize cmp) size answers) := by
  have fits' : ¬crossComparatorMaxMessageSize < size := Nat.not_lt.mpr fits
  have executed : crossComparatorExecute cmp size answers =
      let receivedA := channelReceive a size (answers 0).status
      let receivedB := channelReceive b size (answers 1).status
      let left := { cmp with registered := .both receivedA.1 receivedB.1 }
      if receivedA.2 = .timeout ∨ receivedB.2 = .timeout then crossComparatorFinish left .timeout (answers 0).data []
      else if receivedA.2 ≠ .ok ∨ receivedB.2 ≠ .ok then
        crossComparatorFinish left .insufficientQuorum (answers 0).data []
      else crossComparatorFinish left
        (if crossComparatorDataEqual left (answers 0).data (answers 1).data then .agreed else .disagreed)
        (answers 0).data (callbackCompared left (answers 0).data (answers 1).data) := by
    simp only [crossComparatorExecute, some_, initialized, fits', both, healthyA, healthyB, if_false, Bool.not_true,
      Bool.false_eq_true, Bool.or_false]
    split
    · rfl
    split
    · rfl
    split <;> rfl
  rw [executed, receiveBoth quorumSize answers some_ initialized fits both healthyA healthyB]
  generalize channelReceive a size (answers 0).status = receivedA at not_ ⊢
  generalize channelReceive b size (answers 1).status = receivedB at not_ ⊢
  dsimp only
  let left : RteCrossComparator := { cmp with registered := .both receivedA.1 receivedB.1 }
  have symmetric' : SymmetricCompare left.config := symmetric
  have vote := comparedAlike quorumSize symmetric' (answers 0).data (answers 1).data
  have timedOut := failedAlike quorumSize left (Or.inl rfl) (answers 0).data
  have missing := failedAlike quorumSize left (Or.inr rfl) (answers 0).data
  by_cases okA : receivedA.2 = .ok
  · by_cases okB : receivedB.2 = .ok
    · simpa [okA, okB] using vote
    · have noTimeout : receivedB.2 ≠ .timeout := fun timeout => not_ (Or.inl ⟨okA, timeout⟩)
      simpa [okA, okB, noTimeout] using missing
  · by_cases okB : receivedB.2 = .ok
    · have noTimeout : receivedA.2 ≠ .timeout := fun timeout => not_ (Or.inr ⟨timeout, okB⟩)
      simpa [okA, okB, noTimeout] using missing
    · by_cases timeout : receivedA.2 = .timeout ∨ receivedB.2 = .timeout
      · simpa [okA, okB, timeout] using timedOut
      · simpa [okA, okB, timeout] using missing

end Execute

theorem executeAlike {cmp : RteCrossComparator} {answers : Nat → ChannelAnswer size}
    (symmetric : SymmetricCompare cmp.config) (not_ : ¬OneTimedOut cmp size answers) :
    Alike quorumSize (crossComparatorExecute cmp size answers) (voterReceive (asVoter quorumSize cmp) size answers) := by
  by_cases some_ : size = 0
  · simp only [crossComparatorExecute, voterReceive, some_, if_true]
    exact rejectedAlike quorumSize cmp .invalidParam
  cases initialized : cmp.initialized with
  | false =>
    have down : (asVoter quorumSize cmp).initialized = false := initialized
    simp only [crossComparatorExecute, voterReceive, some_, initialized, down, if_false, Bool.not_false, if_true]
    exact rejectedAlike quorumSize cmp .notInitialized
  | true =>
    have up : (asVoter quorumSize cmp).initialized = true := initialized
    by_cases fits : crossComparatorMaxMessageSize < size
    · have fits' : voterMaxMessageSize < size := fits
      simp only [crossComparatorExecute, voterReceive, some_, initialized, up, fits, fits', if_false, Bool.not_true,
        Bool.false_eq_true, if_true]
      exact rejectedAlike quorumSize cmp .resourceExhausted
    have fits' : size ≤ voterMaxMessageSize := Nat.le_of_not_lt fits
    cases registered : cmp.registered with
    | nobody => exact executeMissing quorumSize some_ initialized fits' (by simp [registered, channelsOf]) answers
    | channelA a => exact executeMissing quorumSize some_ initialized fits' (by simp [registered, channelsOf]) answers
    | both a b =>
      by_cases healthy : a.health.isHealthy = true ∧ b.health.isHealthy = true
      · exact executeBoth quorumSize some_ initialized fits' symmetric registered healthy.1 healthy.2
          fun one => not_ ⟨some_, initialized, fits', a, b, registered, healthy.1, healthy.2, one⟩
      · exact executeUnhealthy quorumSize some_ initialized fits' registered healthy answers

/- Where one channel gives a value and the other times out, the comparator says that there was
a timeout, and the voter that there are too few values; nothing else differs. -/
structure TimeoutApart (out : Comparison size) (out' : VoterOutcome size) : Prop where
  left : out'.voter = asVoter quorumSize out.cmp
  status : out.status = .hardwareFault ∧ out'.status = .hardwareFault
  result : out.result = some .timeout ∧ out'.result = some .insufficientQuorum
  data : out.data = none ∧ out'.data = none
  bytes : out.bytes = some 0 ∧ out'.bytes = some 0
  events : out.events = onDisagreement out.cmp .timeout ∧
    out'.events = disagreementCallback out'.voter.config .insufficientQuorum

theorem oneTimedOutApart {cmp : RteCrossComparator} {answers : Nat → ChannelAnswer size}
    (one : OneTimedOut cmp size answers) : TimeoutApart quorumSize (crossComparatorExecute cmp size answers)
      (voterReceive (asVoter quorumSize cmp) size answers) := by
  obtain ⟨some_, initialized, fits, a, b, both, healthyA, healthyB, statuses⟩ := one
  have fits' : ¬crossComparatorMaxMessageSize < size := Nat.not_lt.mpr fits
  rw [receiveBoth quorumSize answers some_ initialized fits both healthyA healthyB]
  unfold crossComparatorExecute
  rcases statuses with ⟨okA, timeoutB⟩ | ⟨timeoutA, okB⟩
  · simp only [some_, initialized, fits', both, healthyA, healthyB, okA, timeoutB]
    exact ⟨rfl, ⟨rfl, rfl⟩, ⟨rfl, rfl⟩, ⟨rfl, rfl⟩, ⟨rfl, rfl⟩, rfl, rfl⟩
  · simp only [some_, initialized, fits', both, healthyA, healthyB, timeoutA, okB]
    exact ⟨rfl, ⟨rfl, rfl⟩, ⟨rfl, rfl⟩, ⟨rfl, rfl⟩, ⟨rfl, rfl⟩, rfl, rfl⟩

theorem buffersAlike {cmp : RteCrossComparator} (symmetric : SymmetricCompare cmp.config) (x y : Buffer size) :
    Alike quorumSize (crossComparatorExecuteBuffers cmp size x y)
      (voterVoteBuffers (asVoter quorumSize cmp) size [x, y]) := by
  by_cases some_ : size = 0
  · simp only [crossComparatorExecuteBuffers, voterVoteBuffers, some_, if_true]
    exact rejectedAlike quorumSize cmp .invalidParam
  cases initialized : cmp.initialized with
  | false =>
    have down : (asVoter quorumSize cmp).initialized = false := initialized
    simp only [crossComparatorExecuteBuffers, voterVoteBuffers, some_, initialized, down, if_false, Bool.not_false, if_true]
    exact rejectedAlike quorumSize cmp .notInitialized
  | true =>
    have up : (asVoter quorumSize cmp).initialized = true := initialized
    by_cases fits : crossComparatorMaxMessageSize < size
    · have fits' : voterMaxMessageSize < size := fits
      simp only [crossComparatorExecuteBuffers, voterVoteBuffers, some_, initialized, up, fits, fits', if_false,
        Bool.not_true, Bool.false_eq_true, if_true]
      exact rejectedAlike quorumSize cmp .resourceExhausted
    have fits' : ¬voterMaxMessageSize < size := fits
    have few : ¬voterMaxChannels < [x, y].length := by simp [voterMaxChannels]
    have count : voterChannelCountMatchesStrategy (asVoter quorumSize cmp).config [x, y].length = true := rfl
    have quorum : voterRequiredQuorum (asVoter quorumSize cmp).config = 2 := rfl
    have voted : voterVoteBuffers (asVoter quorumSize cmp) size [x, y] = voterCompared (asVoter quorumSize cmp) x y := by
      simp only [voterVoteBuffers, some_, up, fits', few, count, quorum, if_false, Bool.not_true, Bool.false_eq_true,
        List.map_cons, List.map_nil, twoResponses, voterCompared]
      cases same : voterDataEqual (asVoter quorumSize cmp).config y x <;>
        simp [largest, larger, firstOf, voterComparisons]
    rw [voted]
    simp only [crossComparatorExecuteBuffers, some_, initialized, fits, if_false, Bool.not_true, Bool.false_eq_true]
    exact comparedAlike quorumSize symmetric x y

end AsVoter

end PlatformRte.Voter.CrossComparator
