import PlatformRte.Voter.CrossComparator
import PlatformRte.Voter.Sending
import PlatformRte.Lib.Machine

/-! Calls of a cross comparator in any order, next to the same calls of a voter of two. -/
namespace PlatformRte.Voter.CrossComparator
open Machine

inductive Call where
  | registerChannel (channel : RteChannel) (setupAllowed : RteStatus)
  | execute (size : Nat) (answers : Nat → ChannelAnswer size)
  | executeBuffers (size : Nat) (localData peerData : Buffer size)
  | setHealthy (place : Nat) (isHealthy : Bool)
  | send (place size : Nat) (answer : RteStatus)
  | destroy

def onChannel (change : RteChannel → RteChannel) : Registered → Nat → Registered
  | .channelA a, 0 => .channelA (change a)
  | .both a b, 0 => .both (change a) b
  | .both a b, 1 => .both a (change b)
  | registered, _ => registered

def comparatorStep (cmp : RteCrossComparator) : Call → RteCrossComparator
  | .registerChannel channel setupAllowed =>
      match crossComparatorRegisterChannel cmp channel setupAllowed with
      | .ok cmp' => cmp'
      | .error _ => cmp
  | .execute size answers => (crossComparatorExecute cmp size answers).cmp
  | .executeBuffers size localData peerData => (crossComparatorExecuteBuffers cmp size localData peerData).cmp
  | .setHealthy place isHealthy =>
      { cmp with registered := onChannel (channelSetHealthy · isHealthy) cmp.registered place }
  | .send place size answer =>
      { cmp with registered := onChannel (fun c => (channelSend c size answer).1) cmp.registered place }
  | .destroy => crossComparatorDestroy cmp

def onVoterChannel (change : RteChannel → RteChannel) (voter : RteVoter) (place : Nat) : RteVoter :=
  { voter with
    channels := voter.channels.modify place change
    channelsFit := by simpa using voter.channelsFit }

def voterStep (voter : RteVoter) : Call → RteVoter
  | .registerChannel channel setupAllowed =>
      match voterRegisterChannel voter channel setupAllowed with
      | .ok voter' => voter'
      | .error _ => voter
  | .execute size answers => (voterReceive voter size answers).voter
  | .executeBuffers size localData peerData => (voterVoteBuffers voter size [localData, peerData]).voter
  | .setHealthy place isHealthy => onVoterChannel (channelSetHealthy · isHealthy) voter place
  | .send place size answer => onVoterChannel (fun c => (channelSend c size answer).1) voter place
  | .destroy => voterDestroy voter

def TwoChannels (cmp : RteCrossComparator) : Call → Prop
  | .registerChannel _ _ => (channelsOf cmp.registered).length < 2
  | _ => True

theorem onChannelAlike (quorumSize : UInt32) (change : RteChannel → RteChannel) (cmp : RteCrossComparator) (place : Nat) :
    onVoterChannel change (asVoter quorumSize cmp) place =
      asVoter quorumSize { cmp with registered := onChannel change cmp.registered place } := by
  have channels : (channelsOf cmp.registered).modify place change =
      channelsOf (onChannel change cmp.registered place) := by
    cases cmp.registered with
    | nobody => simp [channelsOf, onChannel]
    | channelA a => rcases place with _ | n <;> simp [channelsOf, onChannel]
    | both a b => rcases place with _ | _ | n <;> simp [channelsOf, onChannel]
  simp [onVoterChannel, asVoter, channels]

theorem initAlike (quorumSize : UInt32) (setupAllowed : RteStatus) (config : CrossComparatorConfig) :
    voterInit setupAllowed (voterConfig quorumSize config) =
      (crossComparatorInit setupAllowed config).map (asVoter quorumSize) := by
  unfold voterInit crossComparatorInit
  split <;> rfl

theorem registerAlike (quorumSize : UInt32) {cmp : RteCrossComparator} (room : (channelsOf cmp.registered).length < 2)
    (channel : RteChannel) (setupAllowed : RteStatus) :
    voterRegisterChannel (asVoter quorumSize cmp) channel setupAllowed =
      (crossComparatorRegisterChannel cmp channel setupAllowed).map (asVoter quorumSize) := by
  have fits : (asVoter quorumSize cmp).channels.length < voterMaxChannels := room.trans (by decide)
  unfold voterRegisterChannel crossComparatorRegisterChannel
  rw [dif_pos fits]
  cases initialized : cmp.initialized with
  | false => simp [asVoter, initialized, Except.map]
  | true =>
    by_cases allowed : setupAllowed = .ok
    · cases registered : cmp.registered with
      | nobody => simp [asVoter, initialized, allowed, registered, channelsOf, Except.map]
      | channelA a => simp [asVoter, initialized, allowed, registered, channelsOf, Except.map]
      | both a b => simp [registered, channelsOf] at room
    · simp [asVoter, initialized, allowed, Except.map]

theorem registerConfig {cmp cmp' : RteCrossComparator} {channel : RteChannel} {setupAllowed : RteStatus}
    (registered : crossComparatorRegisterChannel cmp channel setupAllowed = .ok cmp') : cmp'.config = cmp.config := by
  unfold crossComparatorRegisterChannel at registered
  split at registered
  · cases registered
  split at registered
  · cases registered
  split at registered
  · cases registered
    rfl
  · cases registered
    rfl
  · cases registered

theorem stepConfig (cmp : RteCrossComparator) (call : Call) : (comparatorStep cmp call).config = cmp.config := by
  cases call with
  | registerChannel channel setupAllowed =>
    simp only [comparatorStep]
    cases registered : crossComparatorRegisterChannel cmp channel setupAllowed with
    | ok cmp' => exact registerConfig registered
    | error status => rfl
  | execute size answers =>
    simp only [comparatorStep, crossComparatorExecute]
    repeat' split
    all_goals rfl
  | executeBuffers size localData peerData =>
    simp only [comparatorStep, crossComparatorExecuteBuffers]
    repeat' split
    all_goals rfl
  | setHealthy place isHealthy => rfl
  | send place size answer => rfl
  | destroy => rfl

theorem stepAlike (quorumSize : UInt32) {cmp : RteCrossComparator} {call : Call}
    (symmetric : SymmetricCompare cmp.config) (two : TwoChannels cmp call) :
    voterStep (asVoter quorumSize cmp) call = asVoter quorumSize (comparatorStep cmp call) := by
  cases call with
  | registerChannel channel setupAllowed =>
    simp only [voterStep, comparatorStep, registerAlike quorumSize two]
    cases crossComparatorRegisterChannel cmp channel setupAllowed <;> rfl
  | execute size answers =>
    by_cases one : OneTimedOut cmp size answers
    · exact (oneTimedOutApart quorumSize one).left
    · exact (executeAlike quorumSize symmetric one).left
  | executeBuffers size localData peerData => exact (buffersAlike quorumSize symmetric localData peerData).left
  | setHealthy place isHealthy => exact onChannelAlike quorumSize _ cmp place
  | send place size answer => exact onChannelAlike quorumSize _ cmp place
  | destroy => rfl

theorem healthAlike (quorumSize : UInt32) (cmp : RteCrossComparator) :
    voterGetAggregatedHealth (asVoter quorumSize cmp) = crossComparatorGetAggregatedHealth cmp := by
  unfold voterGetAggregatedHealth crossComparatorGetAggregatedHealth voterCountHealthy
  cases registered : cmp.registered with
  | nobody => simp [asVoter, registered, channelsOf]
  | channelA a => simp [asVoter, registered, channelsOf, List.countP_cons]
  | both a b => simp [asVoter, registered, channelsOf, List.countP_cons, Nat.add_comm]

/- A comparator of two channels is a voter of two after any calls of both, except that it calls
one timeout a timeout where the voter misses a quorum. -/
theorem comparatorIsVoterOfTwo (quorumSize : UInt32) {cmp : RteCrossComparator} {calls : List Call}
    (symmetric : SymmetricCompare cmp.config) (two : Always comparatorStep TwoChannels cmp calls) :
    let c := run comparatorStep cmp calls
    let v := run voterStep (asVoter quorumSize cmp) calls
    (∀ setupAllowed, voterInit setupAllowed (voterConfig quorumSize cmp.config) =
      (crossComparatorInit setupAllowed cmp.config).map (asVoter quorumSize)) ∧
    v = asVoter quorumSize c ∧ voterGetAggregatedHealth v = crossComparatorGetAggregatedHealth c ∧
    ∀ size,
      (∀ answers, ¬OneTimedOut c size answers →
        Alike quorumSize (crossComparatorExecute c size answers) (voterReceive v size answers)) ∧
      (∀ answers, OneTimedOut c size answers →
        TimeoutApart quorumSize (crossComparatorExecute c size answers) (voterReceive v size answers)) ∧
      ∀ x y, Alike quorumSize (crossComparatorExecuteBuffers c size x y) (voterVoteBuffers v size [x, y]) := by
  intro c v
  have both : c.config = cmp.config ∧ v = asVoter quorumSize c := by
    induction calls using List.reverseRecOn with
    | nil => exact ⟨rfl, rfl⟩
    | append_singleton init call ih =>
      obtain ⟨before, last⟩ := alwaysSnoc.mp two
      obtain ⟨config, same⟩ := ih before
      have symmetric' : SymmetricCompare (run comparatorStep cmp init).config := by rw [config]; exact symmetric
      refine ⟨?_, ?_⟩
      · rw [show c = _ from runSnoc comparatorStep cmp init call, stepConfig, config]
      · rw [show v = _ from runSnoc voterStep _ init call, same, stepAlike quorumSize symmetric' last,
          show c = _ from runSnoc comparatorStep cmp init call]
  obtain ⟨config, same⟩ := both
  have symmetric' : SymmetricCompare c.config := by rw [config]; exact symmetric
  rw [same]
  exact ⟨fun setupAllowed => initAlike quorumSize setupAllowed cmp.config, rfl, healthAlike quorumSize c, fun size =>
    ⟨fun answers => executeAlike quorumSize symmetric', fun answers => oneTimedOutApart quorumSize,
      buffersAlike quorumSize symmetric'⟩⟩

def byteComparator : RteCrossComparator := ⟨⟨none, .safe, 7, true⟩, .both liveChannel liveChannel, 0, true⟩

theorem comparedTwice :
    let calls := [.execute 1 fun i => ⟨.ok, if i = 0 then #v[5] else #v[9]⟩, .setHealthy 1 false]
    let c := run comparatorStep byteComparator calls
    let v := run voterStep (asVoter 0 byteComparator) calls
    (∀ setupAllowed, voterInit setupAllowed (voterConfig 0 byteComparator.config) =
      (crossComparatorInit setupAllowed byteComparator.config).map (asVoter 0)) ∧
    v = asVoter 0 c ∧ voterGetAggregatedHealth v = crossComparatorGetAggregatedHealth c ∧
    ∀ size,
      (∀ answers, ¬OneTimedOut c size answers →
        Alike 0 (crossComparatorExecute c size answers) (voterReceive v size answers)) ∧
      (∀ answers, OneTimedOut c size answers →
        TimeoutApart 0 (crossComparatorExecute c size answers) (voterReceive v size answers)) ∧
      ∀ x y, Alike 0 (crossComparatorExecuteBuffers c size x y) (voterVoteBuffers v size [x, y]) := by
  refine comparatorIsVoterOfTwo 0 (fun compare given => by cases given) ?_
  exact alwaysCons.mpr ⟨trivial, alwaysCons.mpr ⟨trivial, alwaysNil _ _ _⟩⟩

end PlatformRte.Voter.CrossComparator
