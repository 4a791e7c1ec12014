import PlatformRte.Config.Clear

/-! What a clear document is read as: of every key the value of its own member. -/
namespace PlatformRte.Config
open Bytes

variable {key inner behind : Bytes}

theorem configNotChannel : ∀ key ∈ configKeys, key ∉ channelKeys := by decide

theorem arraySilent {pieces : List Bytes} (plain : PlainKey key) (spaces : Spaces inner) (spaces' : Spaces behind)
    (silent : ∀ piece ∈ pieces, Silent key piece) : Silent key (arrayText inner pieces ++ behind) := by
  have split : arrayText inner pieces ++ behind = arrayStart :: (inner ++ (joined pieces ++ arrayEnd :: behind)) := by
    simp [arrayText]
  rw [Silent, split, skipByte (by decide), skipBytes spaces.noQuote]
  exact joinedSilent plain (Or.inr ⟨arrayEnd, behind, rfl, by decide, noQuoteSilent spaces'.noQuote⟩) silent

theorem objectSilent {pieces : List Bytes} (plain : PlainKey key) (spaces : Spaces inner) (spaces' : Spaces behind)
    (silent : ∀ piece ∈ pieces, Silent key piece) :
    Silent key (openObjectText inner pieces ++ objectEnd :: behind) := by
  rw [Silent, openObjectText, List.append_assoc, List.cons_append, skipByte (by decide), skipBytes spaces.noQuote]
  exact joinedSilent plain (Or.inr ⟨objectEnd, behind, rfl, by decide, noQuoteSilent spaces'.noQuote⟩) silent

theorem channelSilent {object : Spaced ChannelObject} (known : key ∈ configKeys) (spaced : SpacedOk object)
    (schema : ChannelSchema object.value)
    (quiet : ∀ inside ∈ object.value.members, inside.key ∉ channelKeys → Silent key (inside.text id)) :
    Silent key (object.text ChannelObject.text) := by
  have plain := plainConfigKey key known
  have split : object.text ChannelObject.text =
      object.before ++ (object.value.openText ++ objectEnd :: object.behind) := by
    simp [Spaced.text, ChannelObject.text]
  rw [Silent, split, skipBytes spaced.before.noQuote]
  refine objectSilent plain schema.inner spaced.behind fun piece member => ?_
  obtain ⟨inside, among, rfl⟩ := List.mem_map.mp member
  by_cases recognised : inside.key ∈ channelKeys
  · have differs : inside.key ≠ key := fun same => configNotChannel key known (same ▸ recognised)
    exact scalarSilent plain (schema.members inside among) (plainChannelKey _ recognised).noQuote differs
      (channelScalar recognised (schema.values inside among))
  · exact quiet inside among recognised

theorem memberSilent {member : Member Value} (known : key ∈ configKeys) (ok : MemberOk member)
    (value : ValueOk member.key member.value.value) (differs : member.key ≠ key) (quiet : KeepsQuiet key member) :
    Silent key (member.text Value.text) := by
  have plain := plainConfigKey key known
  have passed (noQuote : quote ∉ member.key)
      (silent : Silent key (member.value.value.text ++ member.value.behind)) : Silent key (member.text Value.text) := by
    rw [Silent, Member.text, otherLook plain noQuote differs ok.before ok.between, Spaced.text, List.append_assoc,
      skipBytes ok.value.before.noQuote]
    exact silent
  cases held : member.value.value with
  | raw text =>
    rw [held] at value
    rw [KeepsQuiet, held] at quiet
    have recognisedSilent (recognised : member.key ∈ configKeys) (scalar : JsonString text ∨ JsonNumber text) :
        Silent key (member.text Value.text) :=
      scalarSilent plain ok (plainConfigKey _ recognised).noQuote differs (by rw [held]; exact scalar)
    cases value with
    | string recognised string =>
      refine recognisedSilent ?_ (Or.inl string)
      exact (show ∀ key ∈ stringKeys, key ∈ configKeys by decide) _ recognised
    | number recognised number =>
      refine recognisedSilent ?_ (Or.inr number)
      exact (show ∀ key ∈ numberKeys, key ∈ configKeys by decide) _ recognised
    | other unknown _ => exact quiet unknown
  | roles inner names =>
    rw [held] at value
    cases value with
    | roles isRoles spaces each =>
      refine passed (by rw [isRoles]; decide) ?_
      rw [held]
      refine arraySilent plain spaces ok.value.behind fun piece inside => ?_
      obtain ⟨name, among, rfl⟩ := List.mem_map.mp inside
      obtain ⟨spaced, string⟩ := each name among
      rw [Silent, Spaced.text, List.append_assoc, skipBytes spaced.before.noQuote]
      exact stringSilent plain string spaced.behind
  | channels inner objects =>
    rw [held] at value
    rw [KeepsQuiet, held] at quiet
    cases value with
    | channels isChannels spaces each =>
      refine passed (by rw [isChannels]; decide) ?_
      rw [held]
      refine arraySilent plain spaces ok.value.behind fun piece inside => ?_
      obtain ⟨object, among, rfl⟩ := List.mem_map.mp inside
      exact channelSilent known (each object among).1 (each object among).2 (quiet object among)

theorem valueBegins {value : Value} (ok : ValueOk key value) (known : key ∈ configKeys) : Begins value.text := by
  cases ok with
  | string _ string => exact stringBegins string
  | number _ number => exact numberBegins number
  | roles _ _ _ => exact ⟨arrayStart, _, rfl, by decide⟩
  | channels _ _ _ => exact ⟨arrayStart, _, rfl, by decide⟩
  | other unknown _ => exact absurd known unknown

theorem keyFound {d : Document} (schema : Schema d) (clear : Clear d)
    (searched : Searched (lookOf Value.text d.members) key) :
    Found d.text (objectEnd :: d.behind) key (lookOf Value.text d.members key) := by
  have known := searchedKnown searched
  have plain := plainConfigKey key known
  have closes : Closes key (objectEnd :: d.behind) :=
    Or.inr ⟨objectEnd, d.behind, rfl, by decide, noQuoteSilent schema.behind.noQuote⟩
  have found := membersLook plain closes schema.inner schema.members
    (fun member inside same => valueBegins (schema.values member inside) (same ▸ known))
    fun member passed => by
      obtain ⟨inside, differs⟩ := passedOther passed
      exact memberSilent known (schema.members member inside) (schema.values member inside) differs
        (clear.own key searched member passed)
  have skipped : lookIn d.text key =
      lookIn (openObjectText d.inner (d.members.map (Member.text Value.text)) ++ objectEnd :: d.behind) key := by
    rw [Document.text, List.append_assoc, skipBytes schema.before.noQuote]
  exact ⟨skipped ▸ found.absent, skipped ▸ found.present⟩

section Arrays
variable {inner : Bytes}

def readRoles (text : Bytes) : Option (List Bytes) := arrayOf (stringOf maxRoleNameLen) maxReplicas text

theorem rolesAlone {names : List (Spaced Bytes)} (spaces : Spaces inner)
    (each : ∀ name ∈ names, SpacedOk name ∧ StringBody name.value)
    (clear : ∀ name, Reached nameMeaning names maxReplicas name → quote ∉ name.value) (tail : Bytes) :
    readRoles (arrayText inner (names.map (Spaced.text stringText)) ++ tail) =
      if names.length ≤ maxReplicas then names.mapM fun name => nameMeaning name.value else none := by
  have read : ItemsRead stringText (stringOf maxRoleNameLen) nameMeaning names maxReplicas :=
    ⟨fun name inside => (each name inside).1, fun name _ => ⟨quote, name.value ++ [quote], rfl, by decide, by decide⟩,
      fun name reached => stringAlone (clear name reached) maxRoleNameLen⟩
  exact arrayAlone read spaces tail

def readChannels (text : Bytes) : Option (List ChannelDef) := arrayOf channelItemOf maxChannels text

theorem channelsAlone {objects : List (Spaced ChannelObject)} (spaces : Spaces inner)
    (each : ∀ object ∈ objects, SpacedOk object ∧ ChannelSchema object.value)
    (clear : ∀ object, Reached channelMeaning objects maxChannels object → ChannelClear object.value) (tail : Bytes) :
    readChannels (arrayText inner (objects.map (Spaced.text ChannelObject.text)) ++ tail) =
      if objects.length ≤ maxChannels then objects.mapM fun object => channelMeaning object.value else none := by
  have read : ItemsRead ChannelObject.text channelItemOf channelMeaning objects maxChannels :=
    ⟨fun object inside => (each object inside).1, fun object _ => ⟨objectStart, _, rfl, by decide, by decide⟩,
      fun object reached => channelRead (each object (reachedMember reached)).2 (clear object reached)⟩
  exact arrayAlone read spaces tail

end Arrays

section Whole
variable {d : Document} {look look' : Bytes → Option Bytes}

structure SameReads (look look' : Bytes → Option Bytes) : Prop where
  texts : ∀ key ∈ stringKeys, Searched look' key →
    ∀ size, (look key).map (textOf size) = (look' key).map (textOf size)
  numbers : ∀ key ∈ numberKeys, Searched look' key → (look key).map uintOf = (look' key).map uintOf
  roles : Searched look' (ascii "roles") → (look (ascii "roles")).map readRoles = (look' (ascii "roles")).map readRoles
  channels : Searched look' (ascii "channels") →
    (look (ascii "channels")).map readChannels = (look' (ascii "channels")).map readChannels

theorem SameReads.voting (same : SameReads look look') : votingFrom look = votingFrom look' := by
  rw [votingFrom, votingFrom, bindSame (same.texts (ascii "topology") (by decide) .topology topologyNameSize)]
  cases name : (look' (ascii "topology")).bind (textOf topologyNameSize) with
  | none => rfl
  | some topologyName =>
    simp only [Option.bind_eq_bind, Option.bind_some]
    cases known : (topologyFromString topologyName).toOption with
    | none => rfl
    | some topology =>
      have topologyRead : (topologyFrom look').isSome = true := by rw [topologyFrom, name, Option.bind_some, known]; rfl
      rw [bindSame (same.numbers (ascii "replicas") (by decide) (.replicas topologyRead))]
      cases counted : (look' (ascii "replicas")).bind uintOf with
      | none => rfl
      | some replicaCount =>
        simp only [Option.bind_some]
        by_cases range : replicaCount < 1 ∨ UInt32.ofNat maxReplicas < replicaCount
        · rw [if_pos range, if_pos range]
        · have replicasRead : (replicaCountFrom look').isSome = true := by
            rw [replicaCountFrom, counted, Option.bind_some, if_neg range]
            rfl
          rw [if_neg range, if_neg range,
            givenSame (same.numbers (ascii "quorum") (by decide) (.quorum topologyRead replicasRead))]

theorem SameReads.standbyMode (same : SameReads look look') (voting : (votingFrom look').isSome = true) :
    standbyModeFrom look = standbyModeFrom look' := by
  refine givenSame ?_ _
  have texts := congrArg (Option.map fun text : Option Bytes => text.bind fun name => (standbyModeFromString name).toOption)
    (same.texts (ascii "standby_mode") (by decide) (.standbyMode voting) standbyModeNameSize)
  rwa [Option.map_map, Option.map_map] at texts

theorem SameReads.config (same : SameReads look look') : configFrom look = configFrom look' := by
  rw [configFrom, configFrom, same.voting]
  cases voting : votingFrom look' with
  | none => rfl
  | some _ =>
    have votingRead : (votingFrom look').isSome = true := by rw [voting]; rfl
    rw [same.standbyMode votingRead]
    cases standbyMode : standbyModeFrom look' with
    | none => rfl
    | some _ =>
      have standbyModeRead : (standbyModeFrom look').isSome = true := by rw [standbyMode]; rfl
      have roles : rolesFrom look = rolesFrom look' := givenSame (same.roles (.roles votingRead standbyModeRead)) _
      rw [roles]
      cases named : rolesFrom look' with
      | none => rfl
      | some _ =>
        have rolesRead : (rolesFrom look').isSome = true := by rw [named]; rfl
        have channels : channelsFrom look = channelsFrom look' :=
          givenSame (same.channels (.channels votingRead standbyModeRead rolesRead)) _
        rw [channels]

theorem stringHeld {key : Bytes} {value : Value} (ok : ValueOk key value) (known : key ∈ stringKeys) :
    JsonString value.text := by
  have recognised := (show ∀ key ∈ stringKeys, key ∈ configKeys ∧ key ∉ numberKeys ∧ key ≠ ascii "roles" ∧
    key ≠ ascii "channels" by decide) key known
  cases ok with
  | string _ string => exact string
  | number isNumber _ => exact absurd isNumber recognised.2.1
  | roles isRoles _ _ => exact absurd isRoles recognised.2.2.1
  | channels isChannels _ _ => exact absurd isChannels recognised.2.2.2
  | other unknown _ => exact absurd recognised.1 unknown

theorem rolesHeld {value : Value} (ok : ValueOk (ascii "roles") value) :
    ∃ inner names, value = .roles inner names ∧ Spaces inner ∧ ∀ name ∈ names, SpacedOk name ∧ StringBody name.value := by
  cases ok with
  | string known _ => exact absurd known (by decide)
  | number known _ => exact absurd known (by decide)
  | roles _ white each => exact ⟨_, _, rfl, white, each⟩
  | channels known _ _ => exact absurd known (by decide)
  | other unknown _ => exact absurd (by decide) unknown

theorem channelsHeld {value : Value} (ok : ValueOk (ascii "channels") value) :
    ∃ inner objects, value = .channels inner objects ∧ Spaces inner ∧
      ∀ object ∈ objects, SpacedOk object ∧ ChannelSchema object.value := by
  cases ok with
  | string known _ => exact absurd known (by decide)
  | number known _ => exact absurd known (by decide)
  | roles known _ _ => exact absurd known (by decide)
  | channels _ white each => exact ⟨_, _, rfl, white, each⟩
  | other unknown _ => exact absurd (by decide) unknown

theorem ownValue {key text : Bytes} (schema : Schema d) (clear : Clear d)
    (searched : Searched (lookOf Value.text d.members) key) (held : lookOf Value.text d.members key = some text) :
    ∃ value, ValueOk key value ∧ ValueClear value ∧ value.text = text := by
  obtain ⟨member, inside, rfl, rfl⟩ := ownOf held
  exact ⟨member.value.value, schema.values member inside, clear.values member inside searched, rfl⟩

theorem tailIgnored {α : Type} {read : Bytes → Option α} {text : Bytes} {result : Option α}
    (alone : ∀ tail, read (text ++ tail) = result) (tail : Bytes) : read (text ++ tail) = read text := by
  have self := alone []
  rw [List.append_nil] at self
  exact (alone tail).trans self.symm

theorem documentIs (schema : Schema d) (clear : Clear d) :
    configOf d.text = configFrom (lookOf Value.text d.members) := by
  refine SameReads.config ⟨fun key known searched size => ?_, fun key known searched => ?_, fun searched => ?_,
    fun searched => ?_⟩
  · refine (keyFound schema clear searched).same fun text held spaces tail _ _ => textAlone size ?_
    obtain ⟨value, ok, _, rfl⟩ := ownValue schema clear searched held
    exact stringHeld ok known
  · refine (keyFound schema clear searched).same fun text _ spaces tail white ends => uintAlone ?_
    rintro next rest begins
    rcases ends with rfl | ⟨later, rfl⟩
    · cases spaces with
      | nil => exact (List.cons.inj begins).1 ▸ rfl
      | cons space _ => exact (List.cons.inj begins).1 ▸ (wsNot (white space List.mem_cons_self)).2.2.1
    · exact closedNotDigit (spacesClosed white (Or.inr ⟨later, rfl⟩)) next rest begins
  · refine (keyFound schema clear searched).same fun text held spaces tail _ _ => ?_
    obtain ⟨value, ok, isClear, rfl⟩ := ownValue schema clear searched held
    obtain ⟨inner, names, rfl, white, each⟩ := rolesHeld ok
    exact tailIgnored (rolesAlone white each isClear) (spaces ++ tail)
  · refine (keyFound schema clear searched).same fun text held spaces tail _ _ => ?_
    obtain ⟨value, ok, isClear, rfl⟩ := ownValue schema clear searched held
    obtain ⟨inner, objects, rfl, white, each⟩ := channelsHeld ok
    exact tailIgnored (channelsAlone white each isClear) (spaces ++ tail)

end Whole
end PlatformRte.Config
