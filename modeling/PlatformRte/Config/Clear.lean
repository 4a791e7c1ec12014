import PlatformRte.Config.Members

/-! The documents in which every search that the loader comes to make ends at the key's own
member, and what a channel of them is read as. -/
namespace PlatformRte.Config
open Bytes

instance {key text : Bytes} : Decidable (Silent key text) := inferInstanceAs (Decidable (lookIn text key = none))

section Searches
variable (look : Bytes → Option Bytes)

def channelIdFrom : Option UInt32 := givenOf (look (ascii "id")) (some 0) uintOf

def channelNameFrom : Option Bytes := (look (ascii "name")).bind (textOf maxNameLen)

def rcvbufBytesFrom : Option UInt32 := givenOf (look (ascii "rcvbuf_bytes")) (some 0) uint32CheckedOf

/- The keys of an object that come to be read when look gives what stands at each. The other
keys are searched before the buffer sizes, but what is found is lost if one of these is bad. -/
inductive ChannelSearched : Bytes → Prop where
  | id : ChannelSearched (ascii "id")
  | name (id : (channelIdFrom look).isSome = true) : ChannelSearched (ascii "name")
  | rcvbufBytes (id : (channelIdFrom look).isSome = true) (name : (channelNameFrom look).isSome = true) :
      ChannelSearched (ascii "rcvbuf_bytes")
  | sndbufBytes (id : (channelIdFrom look).isSome = true) (name : (channelNameFrom look).isSome = true)
      (rcvbufBytes : (rcvbufBytesFrom look).isSome = true) : ChannelSearched (ascii "sndbuf_bytes")
  | other {key : Bytes} (known : key ∈ channelKeys) (whole : (channelFrom look).isSome = true) : ChannelSearched key

def topologyFrom : Option RedundancyTopology :=
  ((look (ascii "topology")).bind (textOf topologyNameSize)).bind fun name => (topologyFromString name).toOption

def replicaCountFrom : Option UInt32 :=
  ((look (ascii "replicas")).bind uintOf).bind fun replicaCount =>
    if replicaCount < 1 ∨ UInt32.ofNat maxReplicas < replicaCount then none else some replicaCount

/- The keys of a file that come to be searched: the load stops at the first bad value. -/
inductive Searched : Bytes → Prop where
  | topology : Searched (ascii "topology")
  | replicas (topology : (topologyFrom look).isSome = true) : Searched (ascii "replicas")
  | quorum (topology : (topologyFrom look).isSome = true) (replicas : (replicaCountFrom look).isSome = true) :
      Searched (ascii "quorum")
  | standbyMode (voting : (votingFrom look).isSome = true) : Searched (ascii "standby_mode")
  | roles (voting : (votingFrom look).isSome = true) (standbyMode : (standbyModeFrom look).isSome = true) :
      Searched (ascii "roles")
  | channels (voting : (votingFrom look).isSome = true) (standbyMode : (standbyModeFrom look).isSome = true)
      (roles : (rolesFrom look).isSome = true) : Searched (ascii "channels")

end Searches

theorem channelSearchedKnown {look : Bytes → Option Bytes} {key : Bytes} (searched : ChannelSearched look key) :
    key ∈ channelKeys := by
  cases searched with
  | other known => exact known
  | _ => decide

theorem searchedKnown {look : Bytes → Option Bytes} {key : Bytes} (searched : Searched look key) : key ∈ configKeys := by
  cases searched <;> decide

def channelMeaning (object : ChannelObject) : Option ChannelDef := channelFrom (lookOf id object.members)

def nameMeaning (body : Bytes) : Option Bytes := if maxRoleNameLen ≤ body.length then none else some body

structure ChannelClear (object : ChannelObject) : Prop where
  closed : ∀ member ∈ object.members, objectEnd ∉ member.text id
  own : ∀ key, ChannelSearched (lookOf id object.members) key → ∀ member ∈ membersBefore object.members key,
    member.key ∉ channelKeys → Silent key (member.text id)

/- What is passed over has no place of the key: of a member of another key its whole text,
of channels the members of other keys in them. -/
def KeepsQuiet (key : Bytes) (member : Member Value) : Prop :=
  match member.value.value with
  | .raw _ => member.key ∉ configKeys → Silent key (member.text Value.text)
  | .roles _ _ => True
  | .channels _ objects => ∀ object ∈ objects, ∀ inside ∈ object.value.members,
      inside.key ∉ channelKeys → Silent key (inside.text id)

/- A name is read up to its first quote, which is not to be an escaped one. Nothing is asked
of the names and objects behind a bad one, or behind the last one there is room for. -/
def ValueClear : Value → Prop
  | .raw _ => True
  | .roles _ names => ∀ name, Reached nameMeaning names maxReplicas name → quote ∉ name.value
  | .channels _ objects => ∀ object, Reached channelMeaning objects maxChannels object → ChannelClear object.value

structure Clear (d : Document) : Prop where
  own : ∀ key, Searched (lookOf Value.text d.members) key → ∀ member ∈ membersBefore d.members key,
    KeepsQuiet key member
  values : ∀ member ∈ d.members, Searched (lookOf Value.text d.members) member.key → ValueClear member.value.value

section Reads
variable {α : Type} {text close key value tail : Bytes} {own found found' : Option Bytes} {read : Bytes → Option α}

theorem Found.same (here : Found text close key own)
    (alone : ∀ value, own = some value → ∀ spaces tail, Spaces spaces → (tail = close ∨ ∃ rest, tail = comma :: rest) →
      read (value ++ (spaces ++ tail)) = read value) : (lookIn text key).map read = own.map read := by
  cases held : own with
  | none => exact congrArg (Option.map read) (here.absent held)
  | some value =>
    obtain ⟨spaces, tail, looked, white, ends⟩ := here.present value held
    rw [looked, Option.map_some, Option.map_some, alone value held spaces tail white ends]

theorem givenSame (same : found.map read = found'.map read) (absent : Option α) :
    givenOf found absent read = givenOf found' absent read := by
  cases found <;> cases found' <;> simp_all [givenOf]

theorem bindSame (same : found.map read = found'.map read) : found.bind read = found'.bind read := by
  cases found <;> cases found' <;> simp_all

theorem stringBegins (string : JsonString value) : Begins value := by
  obtain ⟨body, _, rfl⟩ := string
  exact ⟨quote, body ++ [quote], rfl, by decide⟩

theorem numberBegins (number : JsonNumber value) : Begins value := by
  obtain ⟨some_, bytes⟩ := numberBytes number
  obtain ⟨byte, rest, rfl⟩ := List.exists_cons_of_ne_nil some_
  exact ⟨byte, rest, rfl, (numberByteNot (bytes byte List.mem_cons_self)).2.2.2⟩

theorem spacesClosed {spaces : Bytes} (white : Spaces spaces) (ends : tail = [] ∨ ∃ rest, tail = comma :: rest) :
    closed (spaces ++ tail) = true := by
  rw [closed, dropSpaces white]
  rcases ends with rfl | ⟨rest, rfl⟩
  · rfl
  · rw [List.dropWhile_cons_of_neg (by decide)]
    rfl

end Reads

section Channels
variable {object : ChannelObject} {look look' : Bytes → Option Bytes}

def plainNumberKeys : List Bytes := [ascii "id", ascii "port", ascii "message_size", ascii "connect_timeout_ms"]

def checkedNumberKeys : List Bytes := [ascii "rcvbuf_bytes", ascii "sndbuf_bytes"]

structure ChannelReads (look look' : Bytes → Option Bytes) : Prop where
  texts : ∀ key ∈ channelStringKeys, ChannelSearched look' key →
    ∀ size, (look key).map (textOf size) = (look' key).map (textOf size)
  numbers : ∀ key ∈ plainNumberKeys, ChannelSearched look' key → (look key).map uintOf = (look' key).map uintOf
  checked : ∀ key ∈ checkedNumberKeys, ChannelSearched look' key →
    (look key).map uint32CheckedOf = (look' key).map uint32CheckedOf

theorem ChannelReads.channel (same : ChannelReads look look') : channelFrom look = channelFrom look' := by
  rw [channelFrom, channelFrom, givenSame (same.numbers (ascii "id") (by decide) .id)]
  cases id : givenOf (look' (ascii "id")) (some 0) uintOf with
  | none => rfl
  | some _ =>
    have idRead : (channelIdFrom look').isSome = true := by rw [channelIdFrom, id]; rfl
    rw [bindSame (same.texts (ascii "name") (by decide) (.name idRead) maxNameLen)]
    cases name : (look' (ascii "name")).bind (textOf maxNameLen) with
    | none => rfl
    | some _ =>
      have nameRead : (channelNameFrom look').isSome = true := by rw [channelNameFrom, name]; rfl
      rw [givenSame (same.checked (ascii "rcvbuf_bytes") (by decide) (.rcvbufBytes idRead nameRead))]
      cases rcvbuf : givenOf (look' (ascii "rcvbuf_bytes")) (some 0) uint32CheckedOf with
      | none => rfl
      | some _ =>
        have rcvbufRead : (rcvbufBytesFrom look').isSome = true := by rw [rcvbufBytesFrom, rcvbuf]; rfl
        rw [givenSame (same.checked (ascii "sndbuf_bytes") (by decide) (.sndbufBytes idRead nameRead rcvbufRead))]
        cases sndbuf : givenOf (look' (ascii "sndbuf_bytes")) (some 0) uint32CheckedOf with
        | none => rfl
        | some _ =>
          have whole : (channelFrom look').isSome = true := by
            rw [channelFrom, id, name, rcvbuf, sndbuf]
            rfl
          have text (key : Bytes) (known : key ∈ channelStringKeys ∧ key ∈ channelKeys) (size : Nat) :
              (look key).bind (textOf size) = (look' key).bind (textOf size) :=
            bindSame (same.texts key known.1 (.other known.2 whole) size)
          have number (key : Bytes) (known : key ∈ plainNumberKeys ∧ key ∈ channelKeys) :
              (look key).bind uintOf = (look' key).bind uintOf :=
            bindSame (same.numbers key known.1 (.other known.2 whole))
          rw [text (ascii "transport") (by decide), text (ascii "role") (by decide), text (ascii "host") (by decide),
            number (ascii "port") (by decide), number (ascii "message_size") (by decide),
            number (ascii "connect_timeout_ms") (by decide)]

theorem channelScalar {key value : Bytes} (known : key ∈ channelKeys) (ok : ChannelValueOk key value) :
    JsonString value ∨ JsonNumber value := by
  rw [ChannelValueOk, if_pos known] at ok
  split at ok
  · exact Or.inl ok
  · exact Or.inr ok

theorem scalarBegins {value : Bytes} (scalar : JsonString value ∨ JsonNumber value) : Begins value :=
  scalar.elim stringBegins numberBegins

theorem passedOther {ν : Type} {members : List (Member ν)} {key : Bytes} {member : Member ν}
    (passed : member ∈ membersBefore members key) : member ∈ members ∧ member.key ≠ key := by
  refine ⟨(List.takeWhile_sublist _).subset passed, ?_⟩
  simpa using List.mem_takeWhile_imp passed

theorem ownOf {ν : Type} {text : ν → Bytes} {members : List (Member ν)} {key value : Bytes}
    (held : lookOf text members key = some value) :
    ∃ member ∈ members, member.key = key ∧ text member.value.value = value := by
  obtain ⟨member, found, rfl⟩ := Option.map_eq_some_iff.mp held
  exact ⟨member, List.mem_of_find?_eq_some found, by simpa using List.find?_some found, rfl⟩

theorem channelFound {key : Bytes} (schema : ChannelSchema object) (clear : ChannelClear object)
    (searched : ChannelSearched (lookOf id object.members) key) :
    Found object.openText [] key (lookOf id object.members key) := by
  have known := channelSearchedKnown searched
  have found := @membersLook key [] object.inner _ id object.members (plainChannelKey key known) (Or.inl rfl)
    schema.inner schema.members
    (fun member inside same => scalarBegins (channelScalar (same ▸ known) (schema.values member inside)))
    fun member passed => by
      obtain ⟨inside, differs⟩ := passedOther passed
      by_cases recognised : member.key ∈ channelKeys
      · exact scalarSilent (plainChannelKey key known) (schema.members member inside)
          (plainChannelKey _ recognised).noQuote differs (channelScalar recognised (schema.values member inside))
      · exact clear.own key searched member passed recognised
  rwa [List.append_nil] at found

theorem channelIs (schema : ChannelSchema object) (clear : ChannelClear object) :
    channelOf object.openText = channelMeaning object := by
  have numberOf {key value : Bytes} (known : key ∈ channelKeys) (notText : key ∉ channelStringKeys)
      (held : lookOf id object.members key = some value) : JsonNumber value := by
    obtain ⟨member, inside, rfl, rfl⟩ := ownOf held
    have ok := schema.values member inside
    rwa [ChannelValueOk, if_neg notText, if_pos known] at ok
  refine ChannelReads.channel ⟨fun key known searched size => ?_, fun key known searched => ?_,
    fun key known searched => ?_⟩
  · refine (channelFound schema clear searched).same fun value held spaces tail _ _ => textAlone size ?_
    obtain ⟨member, inside, rfl, rfl⟩ := ownOf held
    have ok := schema.values member inside
    rwa [ChannelValueOk, if_pos known] at ok
  · exact (channelFound schema clear searched).same fun value held spaces tail white ends =>
      uintAlone (closedNotDigit (spacesClosed white ends))
  · have notText := (show ∀ key ∈ checkedNumberKeys, key ∉ channelStringKeys by decide) key known
    exact (channelFound schema clear searched).same fun value held spaces tail white ends =>
      checkedAlone (numberOf (channelSearchedKnown searched) notText held) (spacesClosed white ends)

theorem joinedWithout {byte : UInt8} {pieces : List Bytes} (notComma : byte ≠ comma)
    (without : ∀ piece ∈ pieces, byte ∉ piece) : byte ∉ joined pieces := by
  induction pieces with
  | nil => exact List.not_mem_nil
  | cons piece others ih =>
    have first := without piece List.mem_cons_self
    cases others with
    | nil => exact first
    | cons next rest =>
      rw [joined, List.mem_append, List.mem_cons]
      have later := ih fun other member => without other (List.mem_cons_of_mem _ member)
      rintro (inside | same | behind)
      · exact first inside
      · exact notComma same
      · exact later behind

theorem channelRead (schema : ChannelSchema object) (clear : ChannelClear object) (rest : Bytes) :
    channelItemOf (object.text ++ rest) = (channelMeaning object).map fun channel => (channel, rest) := by
  have noEnd : objectEnd ∉ object.inner ++ joined (object.members.map (Member.text id)) := by
    rw [List.mem_append]
    rintro (space | inside)
    · exact (wsNot (schema.inner _ space)).2.2.2 (by decide)
    · refine joinedWithout (by decide) (fun piece member => ?_) inside
      obtain ⟨one, among, rfl⟩ := List.mem_map.mp member
      exact clear.closed one among
  obtain ⟨until_, from_⟩ := untilByte noEnd rest
  have split : object.text ++ rest =
      objectStart :: (object.inner ++ joined (object.members.map (Member.text id)) ++ objectEnd :: rest) := by
    simp [ChannelObject.text, ChannelObject.openText, openObjectText]
  rw [split, channelItemOf, if_neg (by simp), until_, from_]
  dsimp only
  rw [← channelIs schema clear]
  rfl

end Channels
end PlatformRte.Config
