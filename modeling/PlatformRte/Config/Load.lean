import PlatformRte.Config.Reads

/-! Loading a configuration file: what is stored of it, and that a failed load stores
nothing. -/
namespace PlatformRte.Config
open Bytes

inductive ConfigFile where
  | notOpened
  | readError
  | content (raw : Bytes)
  deriving DecidableEq, Repr

/- capability: none for NULL. active: none when there is no active configuration. -/
structure ConfigModule where
  capability : Option (RedundancyTopology → UInt32 → Bool)
  active : Option RedundancyConfig

def redundancyConfigSetActive (m : ConfigModule) (config : Option RedundancyConfig) : ConfigModule :=
  { m with active := config }

structure Loaded where
  module : ConfigModule
  outConfig : Option RedundancyConfig
  status : RteStatus

/- path and outConfig: none for NULL. The result is none when a byte outside the text is
read. -/
def redundancyConfigLoad (m : ConfigModule) (path : Option ConfigFile) (outConfig : Option RedundancyConfig) :
    Option Loaded :=
  match path, outConfig with
  | none, _ => some ⟨m, outConfig, .invalidParam⟩
  | _, none => some ⟨m, outConfig, .invalidParam⟩
  | some .notOpened, _ => some ⟨m, outConfig, .internalError⟩
  | some .readError, _ => some ⟨m, outConfig, .internalError⟩
  | some (.content raw), some _ =>
      -- the end of the file is seen when the buffer has room left
      if maxFileSize ≤ raw.length then some ⟨m, outConfig, .internalError⟩
      else
        match parseConfig raw raw.length with
        | .outside => none
        | .refused status => some ⟨m, outConfig, status⟩
        | .done result =>
            if m.capability.any fun capability => !capability result.topology result.replicaCount then
              some ⟨m, outConfig, .notSupported⟩
            else some ⟨redundancyConfigSetActive m (some result), some result, .ok⟩

structure WellFormed (config : RedundancyConfig) : Prop where
  replicas : 1 ≤ config.replicaCount.toNat ∧ config.replicaCount.toNat ≤ maxReplicas
  quorum : 1 ≤ config.quorumSize.toNat ∧ config.quorumSize.toNat ≤ config.replicaCount.toNat
  roleCount : config.roleCount.toNat ≤ maxReplicas
  channelCount : config.channelCount.toNat ≤ maxChannels
  roles : ∀ role ∈ config.roles, Terminated role
  channels : ∀ channel ∈ config.channels, Terminated channel.name ∧ Terminated channel.host

section Bounds
variable {α : Type} {outSize : Nat} {rest text behind : Bytes}

theorem stringBound (read : stringOf outSize rest = some (text, behind)) : text.length < outSize := by
  unfold stringOf at read
  split at read
  · cases read
  · split at read
    · cases read
    · split at read
      · cases read
      · split at read
        · cases read
        · rename_i fits
          cases read
          exact Nat.not_le.mp fits

theorem textBound (read : textOf outSize rest = some text) : text.length < outSize := by
  obtain ⟨⟨_, behind⟩, string, rfl⟩ := Option.map_eq_some_iff.mp read
  exact stringBound string

theorem itemsBound {item : Bytes → Option (α × Bytes)} {room : Nat} {items : List α}
    (read : itemsOf item room rest = some items) :
    items.length ≤ room ∧ ∀ value ∈ items, ∃ here behind, item here = some (value, behind) := by
  induction room generalizing rest items with
  | zero =>
    cases rest with
    | nil => cases read
    | cons next rest =>
      simp only [itemsOf] at read
      split at read
      · cases read
        exact ⟨le_refl _, by simp⟩
      · cases read
  | succ room ih =>
    cases rest with
    | nil => cases read
    | cons next rest =>
      simp only [itemsOf] at read
      split at read
      · cases read
        exact ⟨Nat.zero_le _, by simp⟩
      · simp only [bind, Option.bind_eq_some_iff] at read
        obtain ⟨⟨value, behind⟩, here, more, later, same⟩ := read
        cases same
        obtain ⟨few, each⟩ := ih later
        refine ⟨Nat.succ_le_succ few, fun other member => ?_⟩
        rcases List.mem_cons.mp member with rfl | member
        · exact ⟨_, _, here⟩
        · exact each other member

theorem arrayBound {item : Bytes → Option (α × Bytes)} {maxItems : Nat} {items : List α}
    (read : arrayOf item maxItems rest = some items) :
    items.length ≤ maxItems ∧ ∀ value ∈ items, ∃ here behind, item here = some (value, behind) := by
  unfold arrayOf at read
  split at read
  · cases read
  · split at read
    · cases read
    · exact itemsBound read

theorem channelBound {object : Bytes} {channel : ChannelDef} (read : channelOf object = some channel) :
    Terminated channel.name ∧ Terminated channel.host := by
  simp only [channelOf, channelFrom, bind, Option.bind_eq_some_iff] at read
  obtain ⟨id, _, name, named, _, _, _, _, same⟩ := read
  cases same
  refine ⟨storedTerminated ?_, storedTerminated ?_⟩
  · obtain ⟨value, _, here⟩ := named
    exact textBound here
  · cases host : (lookIn object (ascii "host")).bind (textOf maxHostLen) with
    | none => decide
    | some text =>
      obtain ⟨value, _, here⟩ := Option.bind_eq_some_iff.mp host
      exact textBound here

theorem votingBound {voting : Voting} (read : votingFrom (lookIn text) = some voting) :
    (1 ≤ voting.replicaCount.toNat ∧ voting.replicaCount.toNat ≤ maxReplicas) ∧
      1 ≤ voting.quorumSize.toNat ∧ voting.quorumSize.toNat ≤ voting.replicaCount.toNat := by
  simp only [votingFrom, bind, Option.bind_eq_some_iff] at read
  obtain ⟨topologyName, _, topology, _, replicaCount, _, read⟩ := read
  split at read
  · cases read
  · rename_i replicas
    simp only [Option.bind_eq_some_iff] at read
    obtain ⟨quorumSize, _, read⟩ := read
    split at read
    · cases read
    · rename_i quorum
      cases read
      simp only [not_or, UInt32.not_lt, UInt32.le_iff_toNat_le] at replicas quorum
      exact ⟨replicas, quorum⟩

theorem givenBound {found : Option Bytes} {absent : Option α} {read : Bytes → Option α} {value : α}
    (given : givenOf found absent read = some value) : absent = some value ∨ ∃ here, read here = some value := by
  unfold givenOf at given
  split at given
  · exact Or.inl given
  · exact Or.inr ⟨_, given⟩

theorem rolesBound {roles : List Bytes} (read : rolesFrom (lookIn text) = some roles) :
    roles.length ≤ maxReplicas ∧ ∀ role ∈ roles, role.length < maxRoleNameLen := by
  rcases givenBound read with absent | ⟨value, array⟩
  · cases absent
    exact ⟨Nat.zero_le _, by simp⟩
  · obtain ⟨few, each⟩ := arrayBound array
    refine ⟨few, fun role member => ?_⟩
    obtain ⟨here, behind, string⟩ := each role member
    exact stringBound string

theorem channelItemBound {channel : ChannelDef} (read : channelItemOf rest = some (channel, behind)) :
    Terminated channel.name ∧ Terminated channel.host := by
  unfold channelItemOf at read
  split at read
  · cases read
  · split at read
    · cases read
    · split at read
      · cases read
      · obtain ⟨found, object, same⟩ := Option.map_eq_some_iff.mp read
        cases same
        exact channelBound object

theorem channelsBound {channels : List ChannelDef} (read : channelsFrom (lookIn text) = some channels) :
    channels.length ≤ maxChannels ∧ ∀ channel ∈ channels, Terminated channel.name ∧ Terminated channel.host := by
  rcases givenBound read with absent | ⟨value, array⟩
  · cases absent
    exact ⟨Nat.zero_le _, by simp⟩
  · obtain ⟨few, each⟩ := arrayBound array
    refine ⟨few, fun channel member => ?_⟩
    obtain ⟨here, behind, item⟩ := each channel member
    exact channelItemBound item

theorem filledMember {size : Nat} {items : List α} {cleared item : α}
    (member : item ∈ Vector.ofFn fun i : Fin size => items.getD i cleared) : item ∈ items ∨ item = cleared := by
  obtain ⟨i, here⟩ := Vector.mem_ofFn.mp member
  rw [List.getD_eq_getElem?_getD] at here
  cases found : items[i.val]? with
  | none =>
    rw [found] at here
    exact Or.inr here.symm
  | some value =>
    rw [found] at here
    exact Or.inl (here ▸ List.mem_of_getElem? found)

theorem configBound {config : RedundancyConfig} (read : configOf text = some config) : WellFormed config := by
  simp only [configOf, configFrom, bind, Option.bind_eq_some_iff] at read
  obtain ⟨voting, votes, standbyMode, _, roles, named, channels, linked, same⟩ := read
  cases same
  obtain ⟨replicas, quorum⟩ := votingBound votes
  obtain ⟨fewRoles, roleFits⟩ := rolesBound named
  obtain ⟨fewChannels, channelFits⟩ := channelsBound linked
  refine ⟨replicas, quorum, ?_, ?_, ?_, ?_⟩
  · exact (UInt32.toNat_ofNat_of_lt' (fewRoles.trans_lt (by decide))).trans_le fewRoles
  · exact (UInt32.toNat_ofNat_of_lt' (fewChannels.trans_lt (by decide))).trans_le fewChannels
  · intro role member
    obtain ⟨i, rfl⟩ := Vector.mem_ofFn.mp member
    refine storedTerminated ?_
    rw [List.getD_eq_getElem?_getD]
    cases found : roles[i.val]? with
    | none => decide
    | some text => exact roleFits text (List.mem_of_getElem? found)
  · intro channel member
    rcases filledMember member with parsed | rfl
    · exact channelFits channel parsed
    · exact ⟨storedTerminated (by decide), storedTerminated (by decide)⟩

end Bounds

structure Loads (m : ConfigModule) (outConfig : Option RedundancyConfig) (loaded : Loaded) : Prop where
  stored : loaded.status = .ok → ∃ config, loaded.outConfig = some config ∧ loaded.module.active = some config ∧
    loaded.module.capability = m.capability ∧ WellFormed config
  unchanged : loaded.status ≠ .ok → loaded.outConfig = outConfig ∧ loaded.module = m

theorem loadCases (m : ConfigModule) (path : Option ConfigFile) (outConfig : Option RedundancyConfig) :
    (∃ status, status ≠ .ok ∧ redundancyConfigLoad m path outConfig = some ⟨m, outConfig, status⟩) ∨
      ∃ raw config, path = some (.content raw) ∧ configOf raw = some config ∧
        redundancyConfigLoad m path outConfig = some ⟨redundancyConfigSetActive m (some config), some config, .ok⟩ := by
  unfold redundancyConfigLoad
  split
  · exact Or.inl ⟨_, by decide, rfl⟩
  · exact Or.inl ⟨_, by decide, rfl⟩
  · exact Or.inl ⟨_, by decide, rfl⟩
  · exact Or.inl ⟨_, by decide, rfl⟩
  · rename_i raw old
    split
    · exact Or.inl ⟨_, by decide, rfl⟩
    · rw [configReads]
      cases read : configOf raw with
      | none => exact Or.inl ⟨.invalidState, by decide, rfl⟩
      | some config =>
        dsimp only [ofOptionSome]
        split
        · exact Or.inl ⟨_, by decide, rfl⟩
        · exact Or.inr ⟨raw, config, rfl, read, rfl⟩

theorem loadIsSafe (m : ConfigModule) (path : Option ConfigFile) (outConfig : Option RedundancyConfig) :
    ∃ loaded, redundancyConfigLoad m path outConfig = some loaded ∧ Loads m outConfig loaded := by
  rcases loadCases m path outConfig with ⟨status, failed, load⟩ | ⟨raw, config, _, read, load⟩
  · exact ⟨_, load, fun ok => absurd ok failed, fun _ => ⟨rfl, rfl⟩⟩
  · exact ⟨_, load, fun _ => ⟨config, rfl, rfl, rfl, configBound read⟩, fun failed => absurd rfl failed⟩

theorem loadsContent {raw : Bytes} {config : RedundancyConfig} (fits : raw.length < maxFileSize)
    (read : configOf raw = some config) (active : Option RedundancyConfig) (old : RedundancyConfig) :
    redundancyConfigLoad ⟨none, active⟩ (some (.content raw)) (some old) =
      some ⟨⟨none, some config⟩, some config, .ok⟩ := by
  simp only [redundancyConfigLoad, if_neg (Nat.not_le.mpr fits), configReads, read, ofOptionSome]
  rfl

def noRolesConfig (topology : RedundancyTopology) (replicaCount quorumSize : UInt32) : RedundancyConfig :=
  filledConfig ⟨topology, replicaCount, quorumSize⟩ .cold [] []

end PlatformRte.Config
