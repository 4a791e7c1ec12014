import PlatformRte.Config.Values
import PlatformRte.Config.Numbers
import PlatformRte.Lib.FirstPlace

/-! The sizes of the socket buffers are read exactly: a plain decimal that fits into 32 bits
is stored as it is written, and anything else refuses the object and the load. -/
namespace PlatformRte.Config
open Bytes Reading FirstPlace

def NotWs (text : Bytes) : Prop := ∀ next rest, text = next :: rest → isWs next = false

def KeyStands (key text value : Bytes) : Prop :=
  ∃ between spaces, Spaces between ∧ Spaces spaces ∧
    text = stringText key ++ between ++ colon :: (spaces ++ value) ∧ NotWs value

def ValueAt (object key value : Bytes) : Prop :=
  ∃ before after, object = before ++ after ∧ KeyStands key after value ∧
    ∀ earlier later, object = earlier ++ later → earlier.length < before.length → ∀ other, ¬KeyStands key later other

def KeyAbsent (object key : Bytes) : Prop := ∀ before after value, object = before ++ after → ¬KeyStands key after value

def PlainDecimal (value : Bytes) (number : Nat) : Prop :=
  ∃ digits spaces tail, value = digits ++ (spaces ++ tail) ∧ digits ≠ [] ∧ (∀ byte ∈ digits, isDigit byte = true) ∧
    Spaces spaces ∧ (tail = [] ∨ ∃ rest, tail = comma :: rest) ∧ numeral digits = number

inductive BufferSize (object key : Bytes) : UInt32 → Prop where
  | absent (nowhere : KeyAbsent object key) : BufferSize object key 0
  | given {value : Bytes} {number : Nat} (found : ValueAt object key value) (plain : PlainDecimal value number)
      (fits : number ≤ 4294967295) : BufferSize object key (UInt32.ofNat number)

section Places
variable {object key text value : Bytes}

theorem notWsDropped (begins : NotWs value) : value.dropWhile isWs = value := by
  cases value with
  | nil => rfl
  | cons next rest => exact List.dropWhile_cons_of_neg (by rw [begins next rest rfl]; decide)

theorem droppedNotWs (text : Bytes) : NotWs (text.dropWhile isWs) := by
  intro next rest begins
  have stops := List.head?_dropWhile_not isWs text
  rw [begins] at stops
  simpa using stops

theorem spacesTaken (text : Bytes) : Spaces (text.takeWhile isWs) := fun _ member => List.mem_takeWhile_imp member

theorem keyHereIff : keyHere (needleOf key) text = some value ↔ KeyStands key text value := by
  constructor
  · intro found
    unfold keyHere at found
    split at found
    · rename_i same
      split at found
      · cases found
      · rename_i mark rest dropped
        split at found
        · rename_i isColon
          cases found
          refine ⟨(text.drop (needleOf key).length).takeWhile isWs, rest.takeWhile isWs, spacesTaken _, spacesTaken _, ?_,
            droppedNotWs rest⟩
          rw [List.takeWhile_append_dropWhile, ← isColon, ← dropped, List.append_assoc, List.takeWhile_append_dropWhile]
          have whole := List.take_append_drop (needleOf key).length text
          rw [same] at whole
          exact whole.symm
        · cases found
    · cases found
  · rintro ⟨between, spaces, gap, pad, rfl, begins⟩
    rw [placeHere gap, dropSpaces pad, notWsDropped begins]

theorem lookFirst (text key : Bytes) : lookIn text key = firstPlace (keyHere (needleOf key)) text := by
  rw [lookIn]
  induction text with
  | nil =>
    rw [firstPlace, keyHere, if_neg (by simp [needleOf])]
    rfl
  | cons byte rest ih =>
    rw [valueOf, firstPlace, ih]
    cases keyHere (needleOf key) (byte :: rest) <;> rfl

theorem keyNowhere : keyHere (needleOf key) text = none ↔ ∀ value, ¬KeyStands key text value := by
  rw [Option.eq_none_iff_forall_ne_some]
  exact forall_congr' fun value => not_congr keyHereIff

theorem valueAtIff : lookIn object key = some value ↔ ValueAt object key value := by
  rw [lookFirst, firstPlaceIff]
  refine exists_congr fun before => exists_congr fun after => and_congr_right fun _ => ?_
  refine and_congr keyHereIff (forall_congr' fun earlier => forall_congr' fun later => ?_)
  exact imp_congr_right fun _ => imp_congr_right fun _ => keyNowhere

theorem keyAbsentIff : lookIn object key = none ↔ KeyAbsent object key := by
  rw [lookFirst, nowhereIff]
  refine forall_congr' fun before => forall_congr' fun after => ?_
  exact ⟨fun nothing value split => keyNowhere.mp (nothing split) value,
    fun nothing split => keyNowhere.mpr fun value => nothing value split⟩

theorem digitsTaken {digits tail : Bytes} (all : ∀ byte ∈ digits, isDigit byte = true) (stops : NotDigit tail) :
    digitsOf (digits ++ tail) = digits ∧ (digits ++ tail).dropWhile isDigit = tail := by
  have taken : (digits ++ tail).takeWhile isDigit = digits ++ tail.takeWhile isDigit := List.takeWhile_append_of_pos all
  have dropped : (digits ++ tail).dropWhile isDigit = tail.dropWhile isDigit := List.dropWhile_append_of_pos all
  rw [digitsOf, taken, dropped, (noDigits stops).1, (noDigits stops).2, List.append_nil]
  exact ⟨rfl, rfl⟩

theorem closedIff : closed text = true ↔
    ∃ spaces tail, text = spaces ++ tail ∧ Spaces spaces ∧ (tail = [] ∨ ∃ rest, tail = comma :: rest) := by
  constructor
  · intro closes
    refine ⟨text.takeWhile isWs, text.dropWhile isWs, List.takeWhile_append_dropWhile.symm, spacesTaken text, ?_⟩
    rw [closed] at closes
    cases behind : text.dropWhile isWs with
    | nil => exact Or.inl rfl
    | cons next rest =>
      rw [behind] at closes
      exact Or.inr ⟨rest, by rw [eq_of_beq closes]⟩
  · rintro ⟨spaces, tail, rfl, pad, rfl | ⟨rest, rfl⟩⟩
    · rw [closed, dropSpaces pad]
      rfl
    · rw [closed, dropSpaces pad]
      rfl

theorem plainIff {number : Nat} : PlainDecimal value number ↔
    digitsOf value ≠ [] ∧ closed (value.dropWhile isDigit) = true ∧ numeral (digitsOf value) = number := by
  constructor
  · rintro ⟨digits, spaces, tail, rfl, some_, all, pad, ends, rfl⟩
    have closes : closed (spaces ++ tail) = true := closedIff.mpr ⟨spaces, tail, rfl, pad, ends⟩
    obtain ⟨taken, dropped⟩ := digitsTaken all (closedNotDigit closes)
    rw [taken, dropped]
    exact ⟨some_, closes, rfl⟩
  · rintro ⟨some_, closes, same⟩
    obtain ⟨spaces, tail, split, pad, ends⟩ := closedIff.mp closes
    refine ⟨digitsOf value, spaces, tail, ?_, some_, takenDigits value, pad, ends, same⟩
    rw [← split, digitsOf, List.takeWhile_append_dropWhile]

theorem checkedIff {size : UInt32} : uint32CheckedOf value = some size ↔
    ∃ number, PlainDecimal value number ∧ number ≤ 4294967295 ∧ size = UInt32.ofNat number := by
  rw [uint32CheckedOf]
  constructor
  · intro read
    split at read
    · cases read
    · rename_i accepted
      rw [not_or, not_or, Nat.not_le, Bool.not_eq_false] at accepted
      obtain ⟨some_, small, closes⟩ := accepted
      cases read
      exact ⟨_, plainIff.mpr ⟨some_, closes, rfl⟩, Nat.le_of_lt_succ small, rfl⟩
  · rintro ⟨number, plain, fits, rfl⟩
    obtain ⟨some_, closes, rfl⟩ := plainIff.mp plain
    rw [if_neg]
    rw [not_or, not_or, Nat.not_le, Bool.not_eq_false]
    exact ⟨some_, Nat.lt_succ_of_le fits, closes⟩

theorem bufferSizeIff {size : UInt32} :
    givenOf (lookIn object key) (some 0) uint32CheckedOf = some size ↔ BufferSize object key size := by
  cases found : lookIn object key with
  | none =>
    have nowhere := keyAbsentIff.mp found
    rw [givenOf, Option.some_inj]
    constructor
    · rintro rfl
      exact .absent nowhere
    · intro stored
      cases stored with
      | absent => rfl
      | given place => cases found.symm.trans (valueAtIff.mpr place)
  | some value =>
    rw [givenOf, checkedIff]
    constructor
    · rintro ⟨number, plain, fits, rfl⟩
      exact .given (valueAtIff.mp found) plain fits
    · intro stored
      cases stored with
      | absent nowhere => cases found.symm.trans (keyAbsentIff.mpr nowhere)
      | given place plain fits =>
        cases found.symm.trans (valueAtIff.mpr place)
        exact ⟨_, plain, fits, rfl⟩

end Places

def bufferKeys : List Bytes := [ascii "rcvbuf_bytes", ascii "sndbuf_bytes"]

structure ValueExact (before value behind : Bytes) (out : UInt32) : Prop where
  stored : ∀ number, PlainDecimal value number → number ≤ 4294967295 →
    parseUint32CheckedInto (before ++ (value ++ behind)) (before.length + value.length) before.length out =
      .done (.ok, UInt32.ofNat number)
  unchanged : (∀ number, PlainDecimal value number → 4294967295 < number) →
    parseUint32CheckedInto (before ++ (value ++ behind)) (before.length + value.length) before.length out =
      .done (.invalidState, out)

structure ObjectExact (before object behind : Bytes) : Prop where
  accepts : ∀ key ∈ bufferKeys, ∀ size,
    parseOptionalChannelU32Into (before ++ (object ++ behind)) before.length (before.length + object.length) key 0 =
      .done (.ok, size) ↔ BufferSize object key size
  refuses : ∀ key ∈ bufferKeys, (∀ size, ¬BufferSize object key size) →
    parseOptionalChannelU32Into (before ++ (object ++ behind)) before.length (before.length + object.length) key 0 =
      .done (.invalidState, 0)
  stores : ∀ channel,
    parseChannelObject (before ++ (object ++ behind)) before.length (before.length + object.length) = .done channel →
      BufferSize object (ascii "rcvbuf_bytes") channel.rcvbufBytes ∧
        BufferSize object (ascii "sndbuf_bytes") channel.sndbufBytes
  accepted : (∃ channel,
      parseChannelObject (before ++ (object ++ behind)) before.length (before.length + object.length) = .done channel) ↔
    (givenOf (lookIn object (ascii "id")) (some 0) uintOf).isSome = true ∧
      ((lookIn object (ascii "name")).bind (textOf maxNameLen)).isSome = true ∧
      ∀ key ∈ bufferKeys, ∃ size, BufferSize object key size
  rejected : (∃ key ∈ bufferKeys, ∀ size, ¬BufferSize object key size) →
    parseChannelObject (before ++ (object ++ behind)) before.length (before.length + object.length) =
      .refused .invalidState

structure LoadExact (raw : Bytes) (outConfig : Option RedundancyConfig) (loaded : Loaded) : Prop where
  stores : loaded.status = .ok → ∃ config objects, loaded.outConfig = some config ∧ objectsOf raw = some objects ∧
    config.channelCount.toNat = objects.length ∧
    ∀ i (inside : i < maxChannels), (there : i < objects.length) →
      BufferSize objects[i] (ascii "rcvbuf_bytes") (config.channels.get ⟨i, inside⟩).rcvbufBytes ∧
        BufferSize objects[i] (ascii "sndbuf_bytes") (config.channels.get ⟨i, inside⟩).sndbufBytes
  rejects : ∀ objects, objectsOf raw = some objects →
    (∃ object ∈ objects, ∃ key ∈ bufferKeys, ∀ size, ¬BufferSize object key size) →
      loaded.status ≠ .ok ∧ loaded.outConfig = outConfig

theorem standsBetween (before value behind : Bytes) :
    Stands (before ++ (value ++ behind)) (before.length + value.length) before.length value := by
  refine ⟨by simp, Nat.le_add_right _ _, ?_⟩
  rw [← List.append_assoc, List.take_left' (by simp), List.drop_left]

section Exact
variable {buf object : Bytes} {objStart objEnd : Nat}

theorem valueExact (before value behind : Bytes) (out : UInt32) : ValueExact before value behind out := by
  have read := intoReads (standsBetween before value behind) out
  constructor
  · intro number plain fits
    rw [read, checkedIff.mpr ⟨number, plain, fits, rfl⟩]
  · intro above
    cases checked : uint32CheckedOf value with
    | none => rw [read, checked]
    | some size =>
      obtain ⟨number, plain, fits, _⟩ := checkedIff.mp checked
      exact absurd (above number plain) (Nat.not_lt.mpr fits)

example : parseUint32CheckedInto (ascii "0004294967295 , ") 16 0 7 = .done (.ok, 4294967295) ∧
    parseUint32CheckedInto (ascii "4294967296") 10 0 7 = .done (.invalidState, 7) ∧
    parseUint32CheckedInto (ascii "256 * 1024") 10 0 7 = .done (.invalidState, 7) := by decide +kernel

theorem bufferKeyShort : ∀ key ∈ bufferKeys, key.length < 38 := by decide

theorem channelGiven : (∃ channel, channelOf object = some channel) ↔
    (givenOf (lookIn object (ascii "id")) (some 0) uintOf).isSome = true ∧
      ((lookIn object (ascii "name")).bind (textOf maxNameLen)).isSome = true ∧
      ∀ key ∈ bufferKeys, ∃ size, givenOf (lookIn object key) (some 0) uint32CheckedOf = some size := by
  rw [channelOf, channelFrom]
  simp only [bufferKeys, List.mem_cons, List.not_mem_nil, or_false, forall_eq_or_imp, forall_eq]
  cases givenOf (lookIn object (ascii "id")) (some 0) uintOf <;>
    cases (lookIn object (ascii "name")).bind (textOf maxNameLen) <;>
    cases givenOf (lookIn object (ascii "rcvbuf_bytes")) (some 0) uint32CheckedOf <;>
    cases givenOf (lookIn object (ascii "sndbuf_bytes")) (some 0) uint32CheckedOf <;>
    simp

theorem channelStores {channel : ChannelDef} (read : channelOf object = some channel) :
    BufferSize object (ascii "rcvbuf_bytes") channel.rcvbufBytes ∧
      BufferSize object (ascii "sndbuf_bytes") channel.sndbufBytes := by
  simp only [channelOf, channelFrom, Bind.bind, Option.bind_eq_some_iff] at read
  obtain ⟨_, _, _, _, rcvbufBytes, rcvbuf, sndbufBytes, sndbuf, same⟩ := read
  cases same
  exact ⟨bufferSizeIff.mp rcvbuf, bufferSizeIff.mp sndbuf⟩

theorem channelAccepted : (∃ channel, channelOf object = some channel) ↔
    (givenOf (lookIn object (ascii "id")) (some 0) uintOf).isSome = true ∧
      ((lookIn object (ascii "name")).bind (textOf maxNameLen)).isSome = true ∧
      ∀ key ∈ bufferKeys, ∃ size, BufferSize object key size := by
  rw [channelGiven]
  simp only [bufferSizeIff]

theorem channelRejected (bad : ∃ key ∈ bufferKeys, ∀ size, ¬BufferSize object key size) : channelOf object = none := by
  obtain ⟨key, one, none_⟩ := bad
  cases read : channelOf object with
  | none => rfl
  | some channel =>
    obtain ⟨size, stored⟩ := (channelAccepted.mp ⟨channel, read⟩).2.2 key one
    exact absurd stored (none_ size)

theorem objectExact (before object behind : Bytes) : ObjectExact before object behind := by
  have stands := standsBetween before object behind
  have whole := channelObjectReads stands
  constructor
  · intro key one size
    rw [optionalReadsInto stands (bufferKeyShort key one), ← bufferSizeIff]
    cases givenOf (lookIn object key) (some 0) uint32CheckedOf <;> simp
  · intro key one none_
    rw [optionalReadsInto stands (bufferKeyShort key one)]
    cases read : givenOf (lookIn object key) (some 0) uint32CheckedOf with
    | none => rfl
    | some size => exact absurd (bufferSizeIff.mp read) (none_ size)
  · intro channel done
    rw [whole] at done
    cases read : channelOf object with
    | none =>
      rw [read] at done
      cases done
    | some stored =>
      rw [read] at done
      cases done
      exact channelStores read
  · rw [whole, ← channelAccepted]
    cases channelOf object <;> simp [ofOption]
  · intro bad
    rw [whole, channelRejected bad]
    rfl

theorem loadExact (m : ConfigModule) (raw : Bytes) (outConfig : Option RedundancyConfig) :
    ∃ loaded, redundancyConfigLoad m (some (.content raw)) outConfig = some loaded ∧ LoadExact raw outConfig loaded := by
  rcases loadCases m (some (.content raw)) outConfig with ⟨status, failed, load⟩ | ⟨text, config, file, read, load⟩
  · exact ⟨_, load, fun ok => absurd ok failed, fun _ _ _ => ⟨failed, rfl⟩⟩
  · cases file
    obtain ⟨objects, found, few, counted, each⟩ := configChannels read
    refine ⟨_, load, fun _ => ⟨config, objects, rfl, found, counted, fun i inside there =>
      channelStores (each i inside there)⟩, fun others again bad => ?_⟩
    cases found.symm.trans again
    obtain ⟨object, member, bad⟩ := bad
    obtain ⟨i, there, rfl⟩ := List.getElem_of_mem member
    have accepted := each i (there.trans_le few) there
    rw [channelRejected bad] at accepted
    cases accepted

end Exact

/- A socket buffer size is stored exactly as it is written, 0 where its key is missing; a value
that is no plain decimal below 2^32 refuses its object and the whole load, and is not stored. -/
theorem bufferSizesExact :
    (∀ before value behind out, ValueExact before value behind out) ∧
      (∀ before object behind, ObjectExact before object behind) ∧
      ∀ m raw outConfig, ∃ loaded, redundancyConfigLoad m (some (.content raw)) outConfig = some loaded ∧
        LoadExact raw outConfig loaded :=
  ⟨valueExact, objectExact, loadExact⟩

end PlatformRte.Config
