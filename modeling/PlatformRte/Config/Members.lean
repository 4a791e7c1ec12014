import PlatformRte.Config.Values

/-! Which member of an object the key search finds, when no member before it has the key in
its text. -/
namespace PlatformRte.Config
open Bytes

variable {key close inner : Bytes}

section Objects
variable {ν : Type} {text : ν → Bytes} {members : List (Member ν)}

def lookOf (text : ν → Bytes) (members : List (Member ν)) (key : Bytes) : Option Bytes :=
  (memberOf members key).map fun member => text member.value.value

def membersBefore (members : List (Member ν)) (key : Bytes) : List (Member ν) :=
  members.takeWhile fun member => member.key != key

def Begins (value : Bytes) : Prop := ∃ byte rest, value = byte :: rest ∧ isWs byte = false

theorem ownMember {member : Member ν} (ok : MemberOk member) (begins : Begins (text member.value.value)) :
    lookIn (member.text text) member.key = some (text member.value.value ++ member.value.behind) := by
  obtain ⟨byte, rest, starts, notWs⟩ := begins
  rw [Member.text, ownLook ok.before ok.between, Spaced.text, List.append_assoc, dropSpaces ok.value.before, starts,
    List.cons_append, List.dropWhile_cons_of_neg (by simp [notWs])]

structure Found (text : Bytes) (close key : Bytes) (own : Option Bytes) : Prop where
  absent : own = none → lookIn text key = none
  present : ∀ value, own = some value → ∃ spaces tail, lookIn text key = some (value ++ (spaces ++ tail)) ∧
    Spaces spaces ∧ (tail = close ∨ ∃ rest, tail = comma :: rest)

theorem membersLook (plain : PlainKey key) (closes : Closes key close) (spaces : Spaces inner)
    (ok : ∀ member ∈ members, MemberOk member)
    (begins : ∀ member ∈ members, member.key = key → Begins (text member.value.value))
    (silent : ∀ member ∈ membersBefore members key, Silent key (member.text text)) :
    Found (openObjectText inner (members.map (Member.text text)) ++ close) close key (lookOf text members key) := by
  have skipped : lookIn (openObjectText inner (members.map (Member.text text)) ++ close) key =
      lookIn (joined (members.map (Member.text text)) ++ close) key := by
    rw [openObjectText, List.append_assoc, List.cons_append, skipByte (by decide), skipBytes spaces.noQuote]
  constructor
  · intro none_
    rw [skipped]
    have noOwn : ∀ member ∈ members, member.key ≠ key := by
      intro member inside same
      have found := List.find?_eq_none.mp (Option.map_eq_none_iff.mp none_) member inside
      simp [same] at found
    refine joinedSilent plain closes fun piece inside => ?_
    obtain ⟨passed, among, rfl⟩ := List.mem_map.mp inside
    refine silent passed ?_
    rw [membersBefore, List.takeWhile_eq_self_iff.mpr fun member inside => by simpa using noOwn member inside]
    exact among
  · intro value found
    obtain ⟨own, held, rfl⟩ := Option.map_eq_some_iff.mp found
    obtain ⟨isOwn, earlier, later, rfl, others⟩ := List.find?_eq_some_iff_append.mp held
    have same : own.key = key := by simpa using isOwn
    have inside : own ∈ earlier ++ own :: later := by simp
    have here := ownMember (ok own inside) (begins own inside same)
    rw [same] at here
    have quiet : ∀ piece ∈ earlier.map (Member.text text), Silent key piece := by
      intro piece inside
      obtain ⟨passed, among, rfl⟩ := List.mem_map.mp inside
      refine silent passed ?_
      rw [membersBefore, List.takeWhile_append_of_pos fun member among => by simpa using others member among]
      exact List.mem_append_left _ among
    rw [List.map_append, List.map_cons] at skipped ⊢
    obtain ⟨tail, looked, ends⟩ := @joinedLook key _ plain close closes _ (later.map (Member.text text)) _ quiet here
    exact ⟨own.value.behind, tail, by rw [skipped, looked, List.append_assoc], (ok own inside).value.behind, ends⟩

theorem scalarSilent {member : Member ν} (plain : PlainKey key) (ok : MemberOk member) (noQuote : quote ∉ member.key)
    (differs : member.key ≠ key)
    (scalar : JsonString (text member.value.value) ∨ JsonNumber (text member.value.value)) :
    Silent key (member.text text) := by
  rw [Silent, Member.text, otherLook plain noQuote differs ok.before ok.between, Spaced.text, List.append_assoc,
    skipBytes ok.value.before.noQuote]
  rcases scalar with ⟨body, string, same⟩ | number
  · rw [same]
    exact stringSilent plain string ok.value.behind
  · refine noQuoteSilent fun member => ?_
    rcases List.mem_append.mp member with inside | behind
    · exact (numberByteNot ((numberBytes number).2 quote inside)).1 rfl
    · exact ok.value.behind.noQuote behind

theorem memberInOrder (keys : List Bytes) :
    memberOf (inOrder keys members) key = if key ∈ keys then memberOf members key else none := by
  induction keys with
  | nil => rfl
  | cons first rest ih =>
    have unfolded : inOrder (first :: rest) members = (memberOf members first).toList ++ inOrder rest members := by
      rw [inOrder, List.filterMap_cons]
      cases memberOf members first <;> rfl
    cases held : memberOf members first with
    | none =>
      rw [unfolded, held, Option.toList_none, List.nil_append, ih]
      by_cases same : key = first
      · subst same
        simp [held]
      · simp [same]
    | some member =>
      have isFirst : member.key = first := by simpa using List.find?_some held
      rw [unfolded, held, Option.toList_some, List.singleton_append, memberOf, List.find?_cons]
      by_cases same : key = first
      · subst same
        simp [isFirst, held]
      · have other : (member.key == key) = false := by simpa [isFirst] using Ne.symm same
        rw [other]
        rw [memberOf] at ih
        simp [ih, same]

theorem inOrderMember {keys : List Bytes} {member : Member ν} (inside : member ∈ inOrder keys members) :
    member ∈ members ∧ member.key ∈ keys := by
  obtain ⟨key, known, held⟩ := List.mem_filterMap.mp inside
  have same : member.key = key := by simpa using List.find?_some held
  exact ⟨List.mem_of_find?_eq_some held, same ▸ known⟩

end Objects
end PlatformRte.Config
