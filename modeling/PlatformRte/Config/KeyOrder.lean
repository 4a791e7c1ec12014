import Mathlib.Algebra.Order.BigOperators.Group.List
import Mathlib.Algebra.Order.Group.Nat
import Mathlib.Data.List.Perm.Subperm
import PlatformRte.Config.DocumentRead
import PlatformRte.Config.Load

/-! Loading a document in any key order, with members of other keys, and loading its
canonical text. -/
namespace PlatformRte.Config
open Bytes

section Ordered
variable {ν : Type} {text : ν → Bytes} {members : List (Member ν)} {keys : List Bytes}

theorem inOrderKeys (keys : List Bytes) (members : List (Member ν)) :
    ((inOrder keys members).map Member.key).Sublist keys := by
  induction keys with
  | nil => exact List.Sublist.refl _
  | cons first rest ih =>
    rw [inOrder, List.filterMap_cons]
    cases held : memberOf members first with
    | none => exact ih.cons _
    | some member =>
      have isFirst : member.key = first := by simpa using List.find?_some held
      rw [List.map_cons, isFirst]
      exact ih.cons_cons _

theorem inOrderOnce (distinct : keys.Nodup) : (keysAmong keys (inOrder keys members)).Nodup :=
  (distinct.sublist (inOrderKeys keys members)).filter _

theorem inOrderSubperm (distinct : keys.Nodup) : (inOrder keys members).Subperm members := by
  have each : (inOrder keys members).Nodup := (distinct.sublist (inOrderKeys keys members)).of_map _
  exact each.subperm fun member inside => (inOrderMember inside).1

theorem memberOfMap {μ : Type} (f : ν → μ) (key : Bytes) :
    memberOf (members.map (Member.map f)) key = (memberOf members key).map (Member.map f) := by
  rw [memberOf, List.find?_map]
  rfl

theorem joinedLength (pieces : List Bytes) :
    (joined pieces).length = (pieces.map fun piece => piece.length + 1).sum - 1 := by
  induction pieces with
  | nil => rfl
  | cons piece others ih =>
    cases others with
    | nil => simp [joined]
    | cons next rest =>
      rw [joined, List.length_append, List.length_cons, ih]
      simp only [List.map_cons, List.sum_cons]
      omega

theorem joinedShorter {μ : Type} {kept all : List μ} {shortened whole : μ → Bytes} (fewer : kept.Subperm all)
    (shorter : ∀ one ∈ kept, (shortened one).length ≤ (whole one).length) :
    (joined (kept.map shortened)).length ≤ (joined (all.map whole)).length := by
  obtain ⟨chosen, same, among⟩ := fewer
  have each : (kept.map fun one => (shortened one).length + 1).sum ≤ (kept.map fun one => (whole one).length + 1).sum :=
    List.sum_le_sum fun one inside => Nat.add_le_add_right (shorter one inside) 1
  have total : (chosen.map fun one => (whole one).length + 1).sum = (kept.map fun one => (whole one).length + 1).sum :=
    (same.map _).sum_eq
  have others : (chosen.map fun one => (whole one).length + 1).sum ≤ (all.map fun one => (whole one).length + 1).sum :=
    (among.map _).sum_le_sum fun _ _ => Nat.zero_le _
  rw [joinedLength, joinedLength, List.map_map, List.map_map]
  exact Nat.sub_le_sub_right (each.trans (total ▸ others)) 1

end Ordered

section Canonical
variable {object : ChannelObject} {d : Document}

theorem ChannelSchema.canonical (schema : ChannelSchema object) : ChannelSchema object.canonical where
  inner := schema.inner
  members := fun member inside => schema.members member (inOrderMember inside).1
  values := fun member inside => schema.values member (inOrderMember inside).1
  once := inOrderOnce (by decide)

theorem ChannelClear.canonical (clear : ChannelClear object) : ChannelClear object.canonical where
  closed := fun member inside => clear.closed member (inOrderMember inside).1
  own := fun _ _ _ passed unknown => absurd (inOrderMember (passedOther passed).1).2 unknown

theorem objectsCanonical {objects : List (Spaced ChannelObject)}
    (each : ∀ object ∈ objects, SpacedOk object ∧ ChannelSchema object.value) :
    ∀ object ∈ objects.map (Spaced.map ChannelObject.canonical), SpacedOk object ∧ ChannelSchema object.value := by
  intro object inside
  obtain ⟨original, among, rfl⟩ := List.mem_map.mp inside
  obtain ⟨spaced, schema⟩ := each original among
  exact ⟨⟨spaced.before, spaced.behind⟩, schema.canonical⟩

theorem ValueOk.canonical {key : Bytes} {value : Value} (ok : ValueOk key value) : ValueOk key value.canonical := by
  cases ok with
  | string known string => exact .string known string
  | number known number => exact .number known number
  | roles known spaces each => exact .roles known spaces each
  | other unknown value => exact .other unknown value
  | channels known spaces each => exact .channels known spaces (objectsCanonical each)

theorem canonicalMember {member : Member Value} (inside : member ∈ d.canonical.members) :
    ∃ original ∈ d.members, original.key ∈ configKeys ∧ member = original.map Value.canonical := by
  obtain ⟨original, among, rfl⟩ := List.mem_map.mp inside
  exact ⟨original, (inOrderMember among).1, (inOrderMember among).2, rfl⟩

theorem Schema.canonical (schema : Schema d) : Schema d.canonical where
  before := schema.before
  inner := schema.inner
  behind := schema.behind
  members := by
    intro member inside
    obtain ⟨original, among, _, rfl⟩ := canonicalMember inside
    have ok := schema.members original among
    exact ⟨ok.before, ok.key, ok.between, ⟨ok.value.before, ok.value.behind⟩⟩
  values := by
    intro member inside
    obtain ⟨original, among, _, rfl⟩ := canonicalMember inside
    exact (schema.values original among).canonical
  once := by
    have same : keysAmong configKeys d.canonical.members = keysAmong configKeys (inOrder configKeys d.members) := by
      rw [keysAmong, Document.canonical, List.map_map]
      rfl
    rw [same]
    exact inOrderOnce (by decide)

theorem channelShorter (object : ChannelObject) : object.canonical.text.length ≤ object.text.length := by
  have fewer := @inOrderSubperm _ object.members channelKeys (by decide)
  have members := @joinedShorter _ _ _ (Member.text id) _ fewer fun _ _ => le_rfl
  simp only [ChannelObject.text, ChannelObject.openText, openObjectText, ChannelObject.canonical, List.length_append,
    List.length_cons]
  omega

theorem valueShorter (value : Value) : value.canonical.text.length ≤ value.text.length := by
  cases value with
  | raw text => exact le_rfl
  | roles inner names => exact le_rfl
  | channels inner objects =>
    have shorter (object : Spaced ChannelObject) :
        ((object.map ChannelObject.canonical).text ChannelObject.text).length ≤
          (object.text ChannelObject.text).length := by
      have shorter := channelShorter object.value
      simp only [Spaced.text, Spaced.map, List.length_append]
      omega
    have pieces := joinedShorter (List.Subperm.refl objects) fun object _ => shorter object
    rw [← Function.comp_def, ← List.map_map] at pieces
    simp only [Value.canonical, Value.text, arrayText, List.length_append, List.length_cons]
    omega

theorem documentShorter (d : Document) : d.canonical.text.length ≤ d.text.length := by
  have shorter (member : Member Value) :
      ((member.map Value.canonical).text Value.text).length ≤ (member.text Value.text).length := by
    have shorter := valueShorter member.value.value
    simp only [Member.text, Member.map, Spaced.text, Spaced.map, List.length_append, List.length_cons]
    omega
  have members := joinedShorter (@inOrderSubperm _ d.members configKeys (by decide)) fun member _ => shorter member
  rw [← Function.comp_def, ← List.map_map] at members
  simp only [Document.text, openObjectText, Document.canonical, List.length_append, List.length_cons]
  omega

theorem canonicalLook {key : Bytes} (known : key ∈ configKeys) :
    lookOf Value.text d.canonical.members key =
      (memberOf d.members key).map fun member => member.value.value.canonical.text := by
  rw [lookOf, Document.canonical, memberOfMap, memberInOrder, if_pos known, Option.map_map]
  rfl

theorem canonicalChannel (object : ChannelObject) : channelMeaning object.canonical = channelMeaning object := by
  have same {key : Bytes} (known : key ∈ channelKeys) :
      lookOf id object.canonical.members key = lookOf id object.members key := by
    rw [lookOf, lookOf, ChannelObject.canonical, memberInOrder, if_pos known]
  refine ChannelReads.channel ⟨fun key _ searched size => ?_, fun key _ searched => ?_, fun key _ searched => ?_⟩ <;>
    rw [same (channelSearchedKnown searched)]

theorem canonicalOwn (schema : Schema d) {key : Bytes} (known : key ∈ configKeys) (notChannels : key ≠ ascii "channels") :
    lookOf Value.text d.canonical.members key = lookOf Value.text d.members key := by
  rw [canonicalLook known, lookOf]
  cases held : memberOf d.members key with
  | none => rfl
  | some member =>
    have isKey : member.key = key := by simpa using List.find?_some held
    have ok := schema.values member (List.mem_of_find?_eq_some held)
    rw [isKey] at ok
    rw [Option.map_some, Option.map_some]
    cases value : member.value.value with
    | raw text => rfl
    | roles inner names => rfl
    | channels inner objects =>
      rw [value] at ok
      cases ok with
      | channels isChannels _ _ => exact absurd isChannels notChannels

theorem canonicalSearched (schema : Schema d) {key : Bytes} (searched : Searched (lookOf Value.text d.canonical.members) key) :
    Searched (lookOf Value.text d.members) key := by
  have own {key : Bytes} (known : key ∈ configKeys ∧ key ≠ ascii "channels") :=
    canonicalOwn schema known.1 known.2
  have topologies : topologyFrom (lookOf Value.text d.canonical.members) = topologyFrom (lookOf Value.text d.members) := by
    rw [topologyFrom, topologyFrom, own (by decide)]
  have counts : replicaCountFrom (lookOf Value.text d.canonical.members) =
      replicaCountFrom (lookOf Value.text d.members) := by
    rw [replicaCountFrom, replicaCountFrom, own (by decide)]
  have votings : votingFrom (lookOf Value.text d.canonical.members) = votingFrom (lookOf Value.text d.members) := by
    rw [votingFrom, votingFrom, own (by decide), own (by decide), own (by decide)]
  have modes : standbyModeFrom (lookOf Value.text d.canonical.members) =
      standbyModeFrom (lookOf Value.text d.members) := by
    rw [standbyModeFrom, standbyModeFrom, own (by decide)]
  have named : rolesFrom (lookOf Value.text d.canonical.members) = rolesFrom (lookOf Value.text d.members) := by
    rw [rolesFrom, rolesFrom, own (by decide)]
  cases searched with
  | topology => exact .topology
  | replicas topology => exact .replicas (topologies ▸ topology)
  | quorum topology replicas => exact .quorum (topologies ▸ topology) (counts ▸ replicas)
  | standbyMode voting => exact .standbyMode (votings ▸ voting)
  | roles voting standbyMode => exact .roles (votings ▸ voting) (modes ▸ standbyMode)
  | channels voting standbyMode roles => exact .channels (votings ▸ voting) (modes ▸ standbyMode) (named ▸ roles)

theorem canonicalObjectsClear {objects : List (Spaced ChannelObject)}
    (clear : ∀ object, Reached channelMeaning objects maxChannels object → ChannelClear object.value)
    (object : Spaced ChannelObject)
    (reached : Reached channelMeaning (objects.map (Spaced.map ChannelObject.canonical)) maxChannels object) :
    ChannelClear object.value := by
  obtain ⟨original, first, rfl⟩ := reachedMap canonicalChannel reached
  exact (clear original first).canonical

theorem Clear.canonical (clear : Clear d) (schema : Schema d) : Clear d.canonical where
  own := by
    intro key _ member passed
    obtain ⟨original, among, known, rfl⟩ := canonicalMember (passedOther passed).1
    rw [KeepsQuiet]
    cases held : original.value.value with
    | raw text => simp only [Member.map, Spaced.map, held, Value.canonical]; exact fun unknown => absurd known unknown
    | roles inner names => simp only [Member.map, Spaced.map, held, Value.canonical]
    | channels inner objects =>
      simp only [Member.map, Spaced.map, held, Value.canonical]
      intro object inside one passed unknown
      obtain ⟨_, _, rfl⟩ := List.mem_map.mp inside
      exact absurd (inOrderMember passed).2 unknown
  values := by
    intro member inside searched
    obtain ⟨original, among, known, rfl⟩ := canonicalMember inside
    have isClear := clear.values original among (canonicalSearched schema searched)
    cases held : original.value.value with
    | raw text => simp only [Member.map, Spaced.map, held, Value.canonical, ValueClear]
    | roles inner names =>
      rw [held] at isClear
      simp only [Member.map, Spaced.map, held, Value.canonical]
      exact isClear
    | channels inner objects =>
      rw [held] at isClear
      simp only [Member.map, Spaced.map, held, Value.canonical]
      exact canonicalObjectsClear isClear

theorem canonicalConfig (schema : Schema d) (clear : Clear d) : configOf d.canonical.text = configOf d.text := by
  rw [documentIs schema clear, documentIs schema.canonical (clear.canonical schema)]
  refine SameReads.config ⟨fun key known _ size => ?_, fun key known _ => ?_, fun _ => ?_, fun searched => ?_⟩
  · have recognised := (show ∀ key ∈ stringKeys, key ∈ configKeys ∧ key ≠ ascii "channels" by decide) key known
    rw [canonicalOwn schema recognised.1 recognised.2]
  · have recognised := (show ∀ key ∈ numberKeys, key ∈ configKeys ∧ key ≠ ascii "channels" by decide) key known
    rw [canonicalOwn schema recognised.1 recognised.2]
  · rw [canonicalOwn schema (by decide) (by decide)]
  · rw [canonicalLook (by decide), lookOf]
    cases held : memberOf d.members (ascii "channels") with
    | none => rfl
    | some member =>
      have isKey : member.key = ascii "channels" := by simpa using List.find?_some held
      have inside := List.mem_of_find?_eq_some held
      have ok := schema.values member inside
      have isClear := clear.values member inside (isKey.symm ▸ searched)
      rw [isKey] at ok
      obtain ⟨inner, objects, value, white, each⟩ := channelsHeld ok
      rw [value] at isClear
      have read := channelsAlone white each isClear []
      have read' := channelsAlone white (objectsCanonical each) (canonicalObjectsClear isClear) []
      rw [List.append_nil] at read read'
      rw [Option.map_some, Option.map_some, Option.map_some, Option.map_some, value, Value.canonical, Value.text,
        Value.text, read, read', List.length_map, List.mapM_map]
      simp only [Function.comp_def, Spaced.map, canonicalChannel]

theorem notInternalError {m : ConfigModule} {raw : Bytes} {config : RedundancyConfig} {loaded : Loaded}
    (small : raw.length < maxFileSize) (load : redundancyConfigLoad m (some (.content raw)) (some config) = some loaded) :
    loaded.status ≠ .internalError := by
  rw [redundancyConfigLoad, if_neg (Nat.not_le.mpr small), configReads] at load
  cases read : configOf raw with
  | none =>
    rw [read] at load
    cases load
    simp
  | some config =>
    rw [read] at load
    dsimp only [ofOptionSome] at load
    split at load <;> cases load <;> simp

/- A file of the schema, whatever the order of its keys and the members of other keys. A file
that is too long is refused, and so must its canonical text be. -/
theorem keyOrderIgnored (m : ConfigModule) (d : Document) (outConfig : Option RedundancyConfig) (schema : Schema d)
    (clear : outConfig ≠ none → d.text.length < maxFileSize → Clear d) :
    redundancyConfigLoad m (some (.content d.text)) outConfig =
        redundancyConfigLoad m (some (.content d.canonical.text)) outConfig ↔
      outConfig = none ∨ d.text.length < maxFileSize ∨ maxFileSize ≤ d.canonical.text.length := by
  have shorter := documentShorter d
  cases outConfig with
  | none => exact iff_of_true rfl (Or.inl rfl)
  | some config =>
    have given : some config ≠ none := Option.some_ne_none config
    by_cases small : d.text.length < maxFileSize
    · refine iff_of_true ?_ (Or.inr (Or.inl small))
      rw [redundancyConfigLoad, redundancyConfigLoad, if_neg (by omega), if_neg (by omega), configReads, configReads,
        canonicalConfig schema (clear given small)]
    by_cases large : maxFileSize ≤ d.canonical.text.length
    · refine iff_of_true ?_ (Or.inr (Or.inr large))
      rw [redundancyConfigLoad, redundancyConfigLoad, if_pos (by omega), if_pos large]
    · refine iff_of_false (fun same => ?_) fun either => ?_
      · rw [redundancyConfigLoad, if_pos (Nat.not_lt.mp small)] at same
        exact notInternalError (Nat.not_le.mp large) same.symm rfl
      · rcases either with null | fits | long
        · exact given null
        · exact small fits
        · exact large long

end Canonical

section Documents

def isPlainByte (byte : UInt8) : Bool := decide (0x20 ≤ byte ∧ byte ≠ quote ∧ byte ≠ backslash)

theorem plainBody {text : Bytes} (plain : text.all isPlainByte = true) : StringBody text := by
  induction text with
  | nil => exact .nil
  | cons byte rest ih =>
    rw [List.all_cons, Bool.and_eq_true, isPlainByte, decide_eq_true_eq] at plain
    obtain ⟨⟨shown, notQuote, notBackslash⟩, others⟩ := plain
    exact .plain shown notQuote notBackslash (ih others)

theorem wholeNumber {digits : Bytes} (some_ : digits ≠ []) (all : digits.all isDigit = true)
    (noZero : digits.head? = some 0x30 → digits.length = 1) : JsonNumber digits :=
  ⟨[], digits, [], [], by simp, Or.inl rfl, ⟨some_, List.all_eq_true.mp all⟩, noZero, Or.inl rfl, Or.inl rfl⟩

theorem noSpaces : Spaces [] := List.forall_mem_nil _

def bareMember {ν : Type} (key : Bytes) (value : ν) : Member ν := ⟨[], key, [], ⟨[], value, []⟩⟩

theorem bareMemberOk {ν : Type} {key : Bytes} (value : ν) (plain : key.all isPlainByte = true) :
    MemberOk (bareMember key value) := by
  exact ⟨noSpaces, plainBody plain, noSpaces, ⟨noSpaces, noSpaces⟩⟩

def bareDocument (members : List (Member Value)) : Document := ⟨[], [], members, []⟩

def topologyMember : Member Value := bareMember (ascii "topology") (.raw (stringText (ascii "2oo3")))

def replicasMember : Member Value := bareMember (ascii "replicas") (.raw (ascii "3"))

def mixedDocument : Document :=
  bareDocument [bareMember (ascii "note") (.raw (ascii "null")),
    bareMember (ascii "channels") (.channels [] [⟨[], ⟨[], [bareMember (ascii "note") (ascii "true"),
      bareMember (ascii "name") (stringText (ascii "peer"))]⟩, []⟩]),
    replicasMember, topologyMember]

def shadowedDocument : Document :=
  bareDocument [bareMember (ascii "site") (.raw (ascii "\x7b\"replicas\":5\x7d")), topologyMember, replicasMember]

theorem bareSchema {members : List (Member Value)} (each : ∀ member ∈ members, MemberOk member)
    (values : ∀ member ∈ members, ValueOk member.key member.value.value)
    (once : (keysAmong configKeys members).Nodup) : Schema (bareDocument members) := by
  exact ⟨noSpaces, noSpaces, noSpaces, each, values, once⟩

theorem replicasOk : ValueOk (ascii "replicas") (.raw (ascii "3")) :=
  .number (by decide) (wholeNumber (by decide) (by decide) (by decide))

theorem topologyOk : ValueOk (ascii "topology") (.raw (stringText (ascii "2oo3"))) :=
  .string (by decide) ⟨_, plainBody (by decide), rfl⟩

theorem mixedSchema : Schema mixedDocument := by
  refine bareSchema ?_ ?_ (by decide)
  · simp only [List.forall_mem_cons]
    exact ⟨bareMemberOk _ (by decide), bareMemberOk _ (by decide), bareMemberOk _ (by decide),
      bareMemberOk _ (by decide), List.forall_mem_nil _⟩
  · simp only [List.forall_mem_cons]
    refine ⟨.other (by decide) (.word (by decide)), .channels rfl noSpaces ?_, replicasOk, topologyOk,
      List.forall_mem_nil _⟩
    intro object inside
    obtain rfl := List.mem_singleton.mp inside
    refine ⟨⟨noSpaces, noSpaces⟩, noSpaces, ?_, ?_, by decide⟩
    · simp only [List.forall_mem_cons]
      exact ⟨bareMemberOk _ (by decide), bareMemberOk _ (by decide), List.forall_mem_nil _⟩
    · simp only [List.forall_mem_cons]
      refine ⟨?_, ?_, List.forall_mem_nil _⟩
      · rw [ChannelValueOk, if_neg (by decide), if_neg (by decide)]
        exact .word (by decide)
      · rw [ChannelValueOk, if_pos (by decide)]
        exact ⟨_, plainBody (by decide), rfl⟩

theorem shadowedSchema : Schema shadowedDocument := by
  refine bareSchema ?_ ?_ (by decide)
  · simp only [List.forall_mem_cons]
    exact ⟨bareMemberOk _ (by decide), bareMemberOk _ (by decide), bareMemberOk _ (by decide),
      List.forall_mem_nil _⟩
  · have five : JsonItem ([] ++ ascii "5" ++ []) :=
      .spaced noSpaces (.number (wholeNumber (by decide) (by decide) (by decide))) noSpaces
    have site := JsonValue.object (.last noSpaces (@plainBody (ascii "replicas") (by decide)) noSpaces five)
    simp only [List.forall_mem_cons]
    exact ⟨.other (by decide) site, topologyOk, replicasOk, List.forall_mem_nil _⟩

theorem mixedClear : Clear mixedDocument := by
  have quiet : ∀ member ∈ mixedDocument.members, ∀ key ∈ configKeys, KeepsQuiet key member := by
    simp only [mixedDocument, bareDocument, List.forall_mem_cons]
    refine ⟨fun key known _ => ?_, fun key known => ?_, fun key _ unknown => absurd (by decide) unknown,
      fun key _ unknown => absurd (by decide) unknown, List.forall_mem_nil _⟩
    · revert key
      decide
    · intro object inside
      obtain rfl := List.mem_singleton.mp inside
      revert key
      decide
  refine ⟨fun key searched member passed => quiet member (passedOther passed).1 key (searchedKnown searched), ?_⟩
  simp only [mixedDocument, bareDocument, List.forall_mem_cons]
  refine ⟨fun _ => trivial, fun _ object reached => ?_, fun _ => trivial, fun _ => trivial,
    List.forall_mem_nil _⟩
  obtain rfl := List.mem_singleton.mp (reachedMember reached)
  have silent : ∀ key ∈ channelKeys, Silent key (Member.text id (bareMember (ascii "note") (ascii "true"))) := by decide
  refine ⟨by decide, fun key searched member passed unknown => ?_⟩
  rcases List.mem_pair.mp (passedOther passed).1 with rfl | rfl
  · exact silent key (channelSearchedKnown searched)
  · exact absurd (by decide) unknown

theorem mixedOrderIgnored :
    redundancyConfigLoad ⟨none, none⟩ (some (.content mixedDocument.text)) (some (noRolesConfig .nmr 1 1)) =
      redundancyConfigLoad ⟨none, none⟩ (some (.content mixedDocument.canonical.text))
        (some (noRolesConfig .nmr 1 1)) :=
  (keyOrderIgnored _ mixedDocument _ mixedSchema fun _ _ => mixedClear).mpr (Or.inr (Or.inl (by decide)))

/- The nested key is found first, and 2oo3 is refused with five replicas. -/
theorem nestedKeyShadows : ¬ ∀ m d outConfig, Schema d →
    redundancyConfigLoad m (some (.content d.text)) outConfig =
      redundancyConfigLoad m (some (.content d.canonical.text)) outConfig := by
  intro claimed
  have same := claimed ⟨none, none⟩ shadowedDocument (some (noRolesConfig .nmr 1 1)) shadowedSchema
  have small : shadowedDocument.text.length < maxFileSize := by decide +kernel
  have read : configOf shadowedDocument.text = none := by decide +kernel
  have canonical : configOf shadowedDocument.canonical.text = some (noRolesConfig .twoOutOfThree 3 2) := by
    decide +kernel
  rw [loadsContent ((documentShorter shadowedDocument).trans_lt small) canonical, redundancyConfigLoad,
    if_neg (Nat.not_le.mpr small), configReads, read] at same
  exact RteStatus.noConfusion (congrArg Loaded.status (Option.some.inj same))

end Documents
end PlatformRte.Config
