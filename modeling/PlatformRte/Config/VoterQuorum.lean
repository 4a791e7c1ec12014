import PlatformRte.Config.Load
import PlatformRte.Voter.TwoPaths

/-! The quorum of a loaded configuration and the quorum a voter votes with. -/
namespace PlatformRte.Config
open Bytes Voter FirstMatch

/- config: none for NULL. -/
def applyToVoter (config : Option RedundancyConfig) (voterCfg : VoterConfig) : VoterConfig × RteStatus :=
  match config with
  | none => (voterCfg, .invalidParam)
  | some config => ({ voterCfg with quorumSize := config.quorumSize }, .ok)

def strategyNamed : RedundancyTopology → Option VotingStrategy
  | .twoOutOfTwo => some .twoOutOfTwo
  | .twoOutOfTwoRedundant => none
  | .twoOutOfThree => some .twoOutOfThree
  | .nmr => some .nmr

def registerAll (voter : RteVoter) (channels : List RteChannel) : Except RteStatus RteVoter :=
  channels.foldlM (fun voter channel => voterRegisterChannel voter channel .ok) voter

def Serves (config : RedundancyConfig) (strategy : VotingStrategy) (voter : RteVoter) : Prop :=
  ∃ voterCfg fresh channels, voterCfg.votingStrategy = strategy ∧ voterCfg.compare = none ∧
    voterInit .ok (applyToVoter (some config) voterCfg).1 = .ok fresh ∧
    channels.length = config.replicaCount.toNat ∧ registerAll fresh channels = .ok voter

structure VotesAsConfigured (config : RedundancyConfig) (voter : RteVoter) : Prop where
  accepts : voterChannelCountMatchesStrategy voter.config voter.channels.length = true
  agreed : ∀ size, size ≠ 0 → size ≤ voterMaxMessageSize → ∀ answers : Nat → ChannelAnswer size,
    ((voterReceive voter size answers).result = some .agreed ↔
      ∃ v, config.quorumSize.toNat ≤ (responses voter answers).count v)

def QuorumVoted (config : RedundancyConfig) (strategy : VotingStrategy) : Prop :=
  ∀ voter, Serves config strategy voter → VotesAsConfigured config voter

structure Consistent (config : RedundancyConfig) : Prop where
  pair : config.topology = .twoOutOfTwo → config.replicaCount = 2 ∧ config.quorumSize = 2
  triple : config.topology = .twoOutOfThree → config.replicaCount = 3 ∧ config.quorumSize = 2

section Serving
variable {config : RedundancyConfig} {strategy : VotingStrategy} {voter : RteVoter}

theorem registeredAll {fresh : RteVoter} {channels : List RteChannel} (started : fresh.initialized = true)
    (registered : registerAll fresh channels = .ok voter) :
    voter.config = fresh.config ∧ voter.initialized = true ∧ voter.channels = fresh.channels ++ channels := by
  induction channels generalizing fresh with
  | nil =>
    cases registered
    exact ⟨rfl, started, (List.append_nil _).symm⟩
  | cons channel rest ih =>
    rw [registerAll, List.foldlM_cons, voterRegisterChannel] at registered
    simp only [started, Bool.not_true, Bool.false_eq_true, if_false, ne_eq, not_true_eq_false] at registered
    by_cases room : fresh.channels.length < voterMaxChannels
    · rw [dif_pos room] at registered
      obtain ⟨same, initialized, held⟩ := ih rfl registered
      exact ⟨same, initialized, by rw [held, List.append_assoc]; rfl⟩
    · rw [dif_neg room] at registered
      cases registered

theorem registersAll {fresh : RteVoter} {channels : List RteChannel} (started : fresh.initialized = true)
    (room : fresh.channels.length + channels.length ≤ voterMaxChannels) :
    ∃ voter, registerAll fresh channels = .ok voter := by
  induction channels generalizing fresh with
  | nil => exact ⟨fresh, rfl⟩
  | cons channel rest ih =>
    rw [List.length_cons] at room
    rw [registerAll, List.foldlM_cons, voterRegisterChannel]
    simp only [started, Bool.not_true, Bool.false_eq_true, if_false, ne_eq, not_true_eq_false]
    rw [dif_pos (show fresh.channels.length < voterMaxChannels by omega)]
    exact ih rfl (by simp only [List.length_append, List.length_singleton]; omega)

structure Served (config : RedundancyConfig) (strategy : VotingStrategy) (voter : RteVoter) : Prop where
  strategy : voter.config.votingStrategy = strategy
  quorum : voter.config.quorumSize = config.quorumSize
  memcmp : voter.config.compare = none
  initialized : voter.initialized = true
  registered : voter.channels.length = config.replicaCount.toNat

theorem initialized {voterCfg : VoterConfig} (init : voterInit .ok voterCfg = .ok voter) :
    voter.config = voterCfg ∧ voter.initialized = true ∧ voter.channels = [] := by
  simp only [voterInit, ne_eq, not_true_eq_false, if_false] at init
  split at init
  · cases init
  · cases init
    exact ⟨rfl, rfl, rfl⟩

theorem serves (serving : Serves config strategy voter) : Served config strategy voter := by
  obtain ⟨voterCfg, fresh, channels, named, memcmp, init, replicas, registered⟩ := serving
  obtain ⟨given, started, empty⟩ := initialized init
  obtain ⟨same, still, held⟩ := registeredAll started registered
  rw [empty, List.nil_append] at held
  refine ⟨?_, ?_, ?_, still, held ▸ replicas⟩ <;> rw [same, given]
  exacts [named, rfl, memcmp]

theorem servable (wellFormed : WellFormed config) (strategy : VotingStrategy) :
    ∃ voter, Serves config strategy voter ∧ voter.channels = List.replicate config.replicaCount.toNat liveChannel := by
  have replicas := wellFormed.replicas.2
  have quorum := wellFormed.quorum.1
  have some_ : config.quorumSize ≠ 0 := by
    intro none_
    rw [none_] at quorum
    exact absurd quorum (by decide)
  let voterCfg : VoterConfig := ⟨strategy, 0, none, .safe, 0, false⟩
  have init : voterInit .ok (applyToVoter (some config) voterCfg).1 =
      .ok ⟨(applyToVoter (some config) voterCfg).1, [], Nat.zero_le _, 0, true⟩ := by
    simp [voterInit, applyToVoter, some_]
  have room : 0 + (List.replicate config.replicaCount.toNat liveChannel).length ≤ voterMaxChannels := by
    rw [List.length_replicate, Nat.zero_add]
    exact replicas.trans (by decide)
  let fresh : RteVoter := ⟨(applyToVoter (some config) voterCfg).1, [], Nat.zero_le _, 0, true⟩
  have started : fresh.initialized = true := rfl
  obtain ⟨voter, registered⟩ := registersAll started room
  refine ⟨voter, ⟨voterCfg, fresh, _, rfl, rfl, init, List.length_replicate, registered⟩, ?_⟩
  exact (registeredAll started registered).2.2

theorem agreesByRequired (served : Served config strategy voter)
    (count : voterChannelCountMatchesStrategy voter.config voter.channels.length = true) {size : Nat} (some_ : size ≠ 0)
    (fits : size ≤ voterMaxMessageSize) (answers : Nat → ChannelAnswer size) :
    (voterReceive voter size answers).result = some .agreed ↔
      ∃ v, voterRequiredQuorum voter.config ≤ (responses voter answers).count v :=
  (pluralityOfVerdict served.memcmp (quorumPositive count).1
    (receiveVerdict ⟨some_, served.initialized, fits, count⟩ answers)).agreed

theorem anyValues (served : Served config strategy voter)
    (live : voter.channels = List.replicate config.replicaCount.toNat liveChannel)
    (votes : VotesAsConfigured config voter) (values : List (Buffer 1))
    (all : values.length = config.replicaCount.toNat) :
    (∃ v, voterRequiredQuorum voter.config ≤ values.count v) ↔ ∃ v, config.quorumSize.toNat ≤ values.count v := by
  have isLive {channel : RteChannel} (member : channel ∈ voter.channels) : channel = liveChannel := by
    rw [live] at member
    exact List.eq_of_mem_replicate member
  have answered : AllAnswer voter values fun i => ⟨.ok, values.getD i #v[0]⟩ := by
    refine ⟨served.registered.trans all.symm, ?_, ?_, fun i b found => ?_⟩
    · intro channel member
      rw [isLive member]
      rfl
    · intro channel member
      rw [isLive member]
      rfl
    · rw [List.getD_eq_getElem?_getD, found]
      rfl
  have agreed := votes.agreed 1 (by decide) (by decide) fun i => ⟨.ok, values.getD i #v[0]⟩
  rw [agreesByRequired served votes.accepts (by decide) (by decide), answersAreBuffers answered] at agreed
  exact agreed

theorem quorumOfTwo (served : Served config strategy voter)
    (live : voter.channels = List.replicate config.replicaCount.toNat liveChannel)
    (votes : VotesAsConfigured config voter) (wellFormed : WellFormed config)
    (required : voterRequiredQuorum voter.config = 2)
    (replicas : config.replicaCount.toNat = 2 ∨ config.replicaCount.toNat = 3) : config.quorumSize.toNat = 2 := by
  obtain ⟨positive, below⟩ := wellFormed.quorum
  have same := anyValues served live votes
  rw [required] at same
  by_contra other
  rcases replicas with two | three
  · have differ := same [#v[0], #v[1]] two.symm
    have one : config.quorumSize.toNat = 1 := by omega
    obtain ⟨v, twice⟩ := differ.mpr ⟨#v[0], by rw [one]; decide⟩
    have distinct : ([#v[0], #v[1]] : List (Buffer 1)).Nodup := by decide
    have once := List.nodup_iff_count_le_one.mp distinct v
    omega
  · by_cases one : config.quorumSize.toNat = 1
    · have differ := same [#v[0], #v[1], #v[2]] three.symm
      obtain ⟨v, twice⟩ := differ.mpr ⟨#v[0], by rw [one]; decide⟩
      have distinct : ([#v[0], #v[1], #v[2]] : List (Buffer 1)).Nodup := by decide
      have once := List.nodup_iff_count_le_one.mp distinct v
      omega
    · have all : config.quorumSize.toNat = 3 := by omega
      have twoSame := same [#v[0], #v[0], #v[1]] three.symm
      obtain ⟨v, thrice⟩ := twoSame.mp ⟨#v[0], by decide⟩
      rw [all] at thrice
      have every : ([#v[0], #v[0], #v[1]] : List (Buffer 1)).length ≤ List.count v [#v[0], #v[0], #v[1]] := thrice
      have equal := List.count_eq_length.mp (le_antisymm List.count_le_length every)
      have zeroOne := (equal #v[0] (by decide)).symm.trans (equal #v[1] (by decide))
      exact absurd zeroOne (by decide)

theorem quorumVotedWhen (wellFormed : WellFormed config) (named : strategyNamed config.topology = some strategy)
    (consistent : Consistent config) : QuorumVoted config strategy := by
  intro voter serving
  have served := serves serving
  have counts := served.registered
  have required : voterChannelCountMatchesStrategy voter.config voter.channels.length = true ∧
      voterRequiredQuorum voter.config = config.quorumSize.toNat := by
    rw [voterChannelCountMatchesStrategy, voterRequiredQuorum, served.strategy, served.quorum, served.registered]
    cases topology : config.topology with
    | twoOutOfTwo =>
      rw [topology] at named
      cases named
      obtain ⟨replicas, quorum⟩ := consistent.pair topology
      rw [replicas, quorum]
      exact ⟨rfl, rfl⟩
    | twoOutOfTwoRedundant =>
      rw [topology] at named
      cases named
    | twoOutOfThree =>
      rw [topology] at named
      cases named
      obtain ⟨replicas, quorum⟩ := consistent.triple topology
      rw [replicas, quorum]
      exact ⟨rfl, rfl⟩
    | nmr =>
      rw [topology] at named
      cases named
      exact ⟨decide_eq_true ⟨wellFormed.replicas.1, wellFormed.quorum⟩, rfl⟩
  refine ⟨required.1, fun size some_ fits answers => ?_⟩
  rw [agreesByRequired served required.1 some_ fits answers, required.2]

theorem consistentWhen (wellFormed : WellFormed config) (named : strategyNamed config.topology = some strategy)
    (voted : QuorumVoted config strategy) : Consistent config := by
  obtain ⟨voter, serving, live⟩ := servable wellFormed strategy
  have served := serves serving
  have votes := voted voter serving
  have accepts := votes.accepts
  rw [voterChannelCountMatchesStrategy, served.strategy, served.registered] at accepts
  constructor
  · intro topology
    rw [topology] at named
    cases named
    have replicas : config.replicaCount.toNat = 2 := by simpa using accepts
    have required : voterRequiredQuorum voter.config = 2 := by rw [voterRequiredQuorum, served.strategy]
    exact ⟨UInt32.toNat_inj.mp replicas,
      UInt32.toNat_inj.mp (quorumOfTwo served live votes wellFormed required (Or.inl replicas))⟩
  · intro topology
    rw [topology] at named
    cases named
    have replicas : config.replicaCount.toNat = 3 := by simpa using accepts
    have required : voterRequiredQuorum voter.config = 2 := by rw [voterRequiredQuorum, served.strategy]
    exact ⟨UInt32.toNat_inj.mp replicas,
      UInt32.toNat_inj.mp (quorumOfTwo served live votes wellFormed required (Or.inr replicas))⟩

end Serving

theorem quorumVotedIff {m : ConfigModule} {path : Option ConfigFile} {outConfig : Option RedundancyConfig}
    {loaded : Loaded} {config : RedundancyConfig} {strategy : VotingStrategy}
    (load : redundancyConfigLoad m path outConfig = some loaded) (ok : loaded.status = .ok)
    (held : loaded.outConfig = some config) (named : strategyNamed config.topology = some strategy) :
    QuorumVoted config strategy ↔ Consistent config := by
  obtain ⟨_, same, safe⟩ := loadIsSafe m path outConfig
  cases load.symm.trans same
  obtain ⟨stored, holds, _, _, wellFormed⟩ := safe.stored ok
  cases held.symm.trans holds
  exact ⟨consistentWhen wellFormed named, quorumVotedWhen wellFormed named⟩

def tripleText : Bytes := ascii "\x7b\"topology\": \"2oo3\", \"replicas\": 3\x7d"

def fiveText : Bytes := ascii "\x7b\"topology\": \"2oo3\", \"replicas\": 5, \"quorum\": 3\x7d"

theorem tripleVoted : QuorumVoted (noRolesConfig .twoOutOfThree 3 2) .twoOutOfThree :=
  have read : configOf tripleText = some (noRolesConfig .twoOutOfThree 3 2) := by decide +kernel
  have iff := quorumVotedIff (loadsContent (by decide) read none (noRolesConfig .nmr 1 1)) rfl rfl rfl
  iff.mpr ⟨fun other => RedundancyTopology.noConfusion other, fun _ => ⟨rfl, rfl⟩⟩

/- With a quorum of its own, a 2oo3 file is accepted with any number of replicas. -/
theorem fiveReplicasNotVoted : ¬ ∀ m path outConfig loaded config strategy,
    redundancyConfigLoad m path outConfig = some loaded → loaded.status = .ok → loaded.outConfig = some config →
      strategyNamed config.topology = some strategy → QuorumVoted config strategy := by
  intro claimed
  have read : configOf fiveText = some (noRolesConfig .twoOutOfThree 5 3) := by decide +kernel
  have voted := claimed _ _ _ _ _ .twoOutOfThree
    (loadsContent (by decide) read none (noRolesConfig .nmr 1 1)) rfl rfl rfl
  have consistent := consistentWhen (configBound read) rfl voted
  exact absurd (consistent.triple rfl).1 (by decide)

end PlatformRte.Config
