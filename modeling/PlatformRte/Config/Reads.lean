import PlatformRte.Config.Reader
import Mathlib.Data.UInt

/-! The scanner agrees with the reader, and so never reads past the text. -/
namespace PlatformRte.Config
open Bytes Reading

variable {α : Type} {buf rest needle key : Bytes} {limit pos : Nat}

theorem skipWsReads (stands : Stands buf limit pos rest) :
    ∃ stop, skipWs buf limit pos = .done stop ∧ Stands buf limit stop (rest.dropWhile isWs) :=
  ⟨_, stands.skipWhile isWs, stands.afterWhile isWs⟩

theorem valueOfShort (short : rest.length < needle.length) : valueOf needle rest = none := by
  induction rest with
  | nil => rfl
  | cons byte rest ih =>
    have notHere : keyHere needle (byte :: rest) = none := by
      refine if_neg fun same => ?_
      have size := congrArg List.length same
      rw [List.length_take] at size
      omega
    simp only [valueOf, notHere]
    exact ih (Nat.lt_of_succ_lt short)

theorem searchKeyReads (some_ : needle ≠ []) {count : Nat} (stands : Stands buf limit pos rest)
    (steps : count = limit + 1 - needle.length - pos) :
    Finds buf limit (searchKey buf limit needle count pos) (valueOf needle rest) := by
  have positive := List.length_pos_iff.mpr some_
  induction count generalizing pos rest with
  | zero =>
    have length := stands.length
    have before := stands.before
    rw [valueOfShort (by omega)]
    exact ⟨_, rfl⟩
  | succ count ih =>
    have length := stands.length
    have enough : needle.length ≤ rest.length := by omega
    cases rest with
    | nil => simp only [List.length_nil] at enough; omega
    | cons byte rest =>
      have later := ih stands.tail (by omega)
      rw [searchKey, stands.readRange enough, doneBind, valueOf]
      by_cases same : (byte :: rest).take needle.length = needle
      · obtain ⟨stop, skipped, there⟩ := skipWsReads (stands.skip enough)
        rw [if_pos same, skipped, doneBind, there.peek, keyHere, if_pos same]
        cases mark : ((byte :: rest).drop needle.length).dropWhile isWs with
        | nil => exact later
        | cons next behind =>
          rw [mark] at there
          simp only [List.head?_cons]
          by_cases isColon : next = colon
          · rw [if_pos isColon, if_pos isColon]
            obtain ⟨value, found, begins⟩ := skipWsReads there.tail
            exact ⟨value, found, begins⟩
          · rw [if_neg isColon, if_neg isColon]
            exact later
      · rw [if_neg same, keyHere, if_neg same]
        exact later

theorem findReads (stands : Stands buf limit pos rest) (short : key.length < 38) :
    Finds buf limit (findKeyValuePosBounded buf pos limit key) (valueOf (needleOf key) rest) := by
  have taken : key.take (needleSize - 2) = key := List.take_of_length_le short.le
  have length := stands.length
  have before := stands.before
  simp only [findKeyValuePosBounded, taken]
  rw [if_neg (by simp only [needleSize, List.length_cons]; omega)]
  by_cases room : limit < pos + (quote :: key ++ [quote]).length
  · rw [if_pos room, valueOfShort (by rw [needleOf]; omega)]
    exact ⟨_, rfl⟩
  · rw [if_neg room]
    exact searchKeyReads (by simp) stands rfl

theorem stringReads (stands : Stands buf limit pos rest) (outSize : Nat) :
    Follows buf limit (parseStringValue buf limit pos outSize) (stringOf outSize rest) := by
  rw [parseStringValue, stands.peek]
  cases rest with
  | nil => rfl
  | cons first rest =>
    simp only [List.head?_cons, stringOf]
    by_cases opened : first ≠ quote
    · rw [if_pos opened, if_pos opened]
      rfl
    · rw [if_neg opened, if_neg opened, stands.tail.skipWhile, doneBind]
      have there := stands.tail.afterWhile fun byte => byte != quote
      cases closing : rest.dropWhile fun byte => byte != quote with
      | nil =>
        rw [closing] at there
        rw [if_pos there.atEnd.ge]
        rfl
      | cons last behind =>
        rw [closing] at there
        rw [if_neg (Nat.not_le.mpr there.next), Nat.add_sub_cancel_left]
        dsimp only
        by_cases long : outSize ≤ (rest.takeWhile fun byte => byte != quote).length
        · rw [if_pos long, if_pos long]
          rfl
        · rw [if_neg long, if_neg long]
          have copied := stands.tail.readRange (ε := RteStatus) (List.takeWhile_sublist fun byte => byte != quote).length_le
          rw [copied, doneBind]
          refine ⟨_, ?_, there.tail⟩
          rw [takenWhile]

theorem digitValue {byte : UInt8} (digit : isDigit byte = true) :
    0x30 ≤ byte.toNat ∧ byte.toNat ≤ 0x39 ∧ (byte - 0x30).toUInt32.toNat = byte.toNat - 0x30 := by
  simp only [isDigit, Bool.and_eq_true, decide_eq_true_eq, UInt8.le_iff_toNat_le] at digit
  refine ⟨digit.1, digit.2, ?_⟩
  rw [UInt8.toNat_toUInt32, UInt8.toNat_sub_of_le _ _ (UInt8.le_iff_toNat_le.mpr digit.1)]
  rfl

theorem nextDigit {byte : UInt8} (digit : isDigit byte = true) (value : Nat) :
    UInt32.ofNat value * 10 + (byte - 0x30).toUInt32 = UInt32.ofNat (value * 10 + (byte.toNat - 0x30)) := by
  have digitIs : (byte - 0x30).toUInt32 = UInt32.ofNat (byte.toNat - 0x30) := by
    apply UInt32.toNat_inj.mp
    rw [(digitValue digit).2.2, UInt32.toNat_ofNat']
    exact (Nat.mod_eq_of_lt (by have high := (digitValue digit).2.1; omega)).symm
  rw [digitIs, UInt32.ofNat_add, UInt32.ofNat_mul]
  rfl

theorem addDigits {digits : Bytes} (all : ∀ byte ∈ digits, isDigit byte = true) (value : Nat) :
    digits.foldlM addDigit (UInt32.ofNat value) = .ok (UInt32.ofNat (numeralFrom value digits)) := by
  induction digits generalizing value with
  | nil => rfl
  | cons byte rest ih =>
    rw [List.foldlM_cons, addDigit, nextDigit (all byte List.mem_cons_self)]
    exact ih (fun digit member => all digit (List.mem_cons_of_mem _ member)) _

theorem numeralGrows (value : Nat) (digits : Bytes) : value ≤ numeralFrom value digits := by
  induction digits generalizing value with
  | nil => exact le_refl _
  | cons byte rest ih => exact le_trans (by omega) (ih (value * 10 + (byte.toNat - 0x30)))

def addDigitChecked (value : UInt32) (byte : UInt8) : Except RteStatus UInt32 :=
  let digit := (byte - 0x30).toUInt32
  if (0xFFFFFFFF - digit) / 10 < value then .error .invalidState else .ok (value * 10 + digit)

theorem addDigitsChecked {digits : Bytes} (all : ∀ byte ∈ digits, isDigit byte = true) {value : Nat}
    (small : value < 2 ^ 32) :
    digits.foldlM addDigitChecked (UInt32.ofNat value) =
      if 2 ^ 32 ≤ numeralFrom value digits then .error .invalidState
      else .ok (UInt32.ofNat (numeralFrom value digits)) := by
  induction digits generalizing value with
  | nil => exact (if_neg (Nat.not_le.mpr small)).symm
  | cons byte rest ih =>
    obtain ⟨low, high, digit⟩ := digitValue (all byte List.mem_cons_self)
    have here : (UInt32.ofNat value).toNat = value := by simpa using Nat.mod_eq_of_lt small
    have allowed : (0xFFFFFFFF - (byte - 0x30).toUInt32).toNat = 0xFFFFFFFF - (byte.toNat - 0x30) := by
      rw [UInt32.toNat_sub_of_le, digit]
      · rfl
      · rw [UInt32.le_iff_toNat_le, digit]
        change _ ≤ 0xFFFFFFFF
        omega
    have tooBig : (0xFFFFFFFF - (byte - 0x30).toUInt32) / 10 < UInt32.ofNat value ↔
        2 ^ 32 ≤ value * 10 + (byte.toNat - 0x30) := by
      rw [UInt32.lt_iff_toNat_lt, UInt32.toNat_div, allowed, here]
      change _ / 10 < _ ↔ _
      omega
    rw [List.foldlM_cons, addDigitChecked]
    by_cases big : 2 ^ 32 ≤ value * 10 + (byte.toNat - 0x30)
    · rw [if_pos (tooBig.mpr big)]
      exact (if_pos (le_trans big (numeralGrows _ rest))).symm
    · rw [if_neg (fun less => big (tooBig.mp less)), nextDigit (all byte List.mem_cons_self)]
      exact ih (fun digit member => all digit (List.mem_cons_of_mem _ member)) (Nat.not_le.mp big)

theorem takenDigits (text : Bytes) : ∀ byte ∈ digitsOf text, isDigit byte = true :=
  fun _ member => List.mem_takeWhile_imp member

theorem uintReads (stands : Stands buf limit pos rest) : parseUintValue buf limit pos = ofOption (uintOf rest) := by
  have added : (digitsOf rest).foldlM addDigit 0 = _ := addDigits (takenDigits rest) 0
  rw [digitsOf] at added
  rw [parseUintValue, stands.foldWhile, added]
  dsimp only
  rw [doneBind, uintOf, ← digitsOf]
  by_cases none_ : digitsOf rest = []
  · rw [if_pos none_, if_pos (by rw [none_]; rfl)]
    rfl
  · have some_ := List.length_pos_iff.mpr none_
    rw [if_neg none_, if_neg (by omega)]
    rfl

theorem checkDigit (left idx : Nat) (value : UInt32) {byte : UInt8} (here : buf[idx]? = some byte)
    (digit : isDigit byte = true) :
    checkDigits buf (left + 1) idx value =
      match addDigitChecked value byte with
      | .error status => .done (status, idx, value)
      | .ok value => checkDigits buf left (idx + 1) value := by
  rw [checkDigits, readAt, here, addDigitChecked]
  dsimp only
  rw [doneBind, if_pos digit]
  split <;> rfl

theorem addDigitRefuses {value : UInt32} {byte : UInt8} {status : RteStatus}
    (refused : addDigitChecked value byte = .error status) : status = .invalidState := by
  unfold addDigitChecked at refused
  dsimp only at refused
  split at refused
  · cases refused
    rfl
  · cases refused

theorem checkDigitsFold (left idx : Nat) (value : UInt32) :
    match foldWhile isDigit addDigitChecked buf left idx value with
    | .outside => checkDigits buf left idx value = .outside
    | .refused status => status = .invalidState ∧ ∃ stop last, checkDigits buf left idx value = .done (status, stop, last)
    | .done (last, stop) => checkDigits buf left idx value = .done (.ok, stop, last) := by
  induction left generalizing idx value with
  | zero => rfl
  | succ left ih =>
    rw [foldWhile, readAt]
    cases here : buf[idx]? with
    | none =>
      rw [checkDigits, readAt, here]
      rfl
    | some byte =>
      dsimp only
      rw [doneBind]
      cases digit : isDigit byte with
      | false =>
        rw [checkDigits, readAt, here]
        dsimp only
        rw [doneBind, digit]
        rfl
      | true =>
        rw [checkDigit left idx value here digit, if_pos rfl]
        cases stepped : addDigitChecked value byte with
        | error status => exact ⟨addDigitRefuses stepped, _, _, rfl⟩
        | ok next => exact ih (idx + 1) next

theorem checkDigitsReads (stands : Stands buf limit pos rest) :
    if 2 ^ 32 ≤ numeral (digitsOf rest) then
      ∃ stop last, checkDigits buf (limit - pos) pos 0 = .done (.invalidState, stop, last)
    else checkDigits buf (limit - pos) pos 0 = .done (.ok, pos + (digitsOf rest).length, .ofNat (numeral (digitsOf rest))) := by
  have digits := @checkDigitsFold buf (limit - pos) pos 0
  have added : (digitsOf rest).foldlM addDigitChecked 0 = _ := addDigitsChecked (takenDigits rest) (by decide)
  rw [digitsOf] at added
  rw [stands.foldWhile, added, ← digitsOf] at digits
  by_cases big : 2 ^ 32 ≤ numeral (digitsOf rest)
  · rw [if_pos big]
    rw [numeral] at big
    rw [if_pos big] at digits
    exact digits.2
  · rw [if_neg big]
    rw [numeral] at big
    rw [if_neg big] at digits
    exact digits

theorem checkBehindReads (stands : Stands buf limit pos rest) :
    checkBehind buf limit pos = .done (if closed rest then .ok else .invalidState) := by
  obtain ⟨stop, skipped, there⟩ := skipWsReads stands
  rw [checkBehind, skipped, doneBind, there.peek, closed]
  cases rest.dropWhile isWs with
  | nil => rfl
  | cons next behind =>
    dsimp only [List.head?_cons]
    by_cases isComma : next = comma
    · simp [isComma]
    · simp [isComma]

theorem intoReads (stands : Stands buf limit pos rest) (out : UInt32) :
    parseUint32CheckedInto buf limit pos out =
      match uint32CheckedOf rest with
      | none => .done (.invalidState, out)
      | some value => .done (.ok, value) := by
  have digits := checkDigitsReads stands
  rw [parseUint32CheckedInto, uint32CheckedOf]
  by_cases big : 2 ^ 32 ≤ numeral (digitsOf rest)
  · rw [if_pos big] at digits
    obtain ⟨stop, last, digits⟩ := digits
    rw [digits, if_pos (Or.inr (Or.inl big))]
    rfl
  rw [if_neg big] at digits
  rw [digits]
  dsimp only
  rw [doneBind]
  by_cases none_ : digitsOf rest = []
  · rw [if_pos (Or.inl none_)]
    simp [none_]
  have some_ : ¬(pos + (digitsOf rest).length = pos) := by
    have positive := List.length_pos_iff.mpr none_
    omega
  have behind := checkBehindReads (stands.afterWhile isDigit)
  rw [← digitsOf] at behind
  simp only [some_, and_false, if_false, if_true, behind, doneBind]
  cases closes : closed (rest.dropWhile isDigit) with
  | true =>
    have accepted : ¬(digitsOf rest = [] ∨ 2 ^ 32 ≤ numeral (digitsOf rest) ∨ true = false) := by
      rintro (empty | above | off)
      · exact none_ empty
      · exact big above
      · cases off
    rw [if_neg accepted]
    rfl
  | false => simp

theorem commaReads (stands : Stands buf limit pos rest) :
    ∃ stop, skipComma buf limit pos = .done stop ∧ Stands buf limit stop (afterComma rest) := by
  obtain ⟨stop, skipped, there⟩ := skipWsReads stands
  rw [skipComma, skipped, doneBind, there.peek, afterComma]
  cases next : rest.dropWhile isWs with
  | nil =>
    rw [next] at there
    exact ⟨stop, rfl, there⟩
  | cons mark behind =>
    rw [next] at there
    simp only [List.head?_cons]
    by_cases isComma : mark = comma
    · rw [if_pos isComma, if_pos isComma]
      exact skipWsReads there.tail
    · rw [if_neg isComma, if_neg isComma]
      exact ⟨stop, rfl, there⟩

theorem itemsRead {scanItem : Nat → Scan (α × Nat)} {readItem : Bytes → Option (α × Bytes)}
    (itemReads : ∀ pos next rest, Stands buf limit pos (next :: rest) →
      Follows buf limit (scanItem pos) (readItem (next :: rest)))
    (stands : Stands buf limit pos rest) (room : Nat) :
    parseItems scanItem buf limit room pos = ofOption (itemsOf readItem room rest) := by
  induction room generalizing pos rest with
  | zero =>
    rw [parseItems, stands.peek]
    cases rest with
    | nil => rfl
    | cons next rest =>
      simp only [List.head?_cons, itemsOf]
      split <;> rfl
  | succ room ih =>
    rw [parseItems, stands.peek]
    cases rest with
    | nil => rfl
    | cons next rest =>
      simp only [List.head?_cons, itemsOf]
      by_cases ends : next = arrayEnd
      · rw [if_pos ends, if_pos ends]
        rfl
      · rw [if_neg ends, if_neg ends]
        have item := itemReads pos next rest stands
        cases read : readItem (next :: rest) with
        | none =>
          rw [read] at item
          rw [show scanItem pos = _ from item]
          rfl
        | some result =>
          obtain ⟨value, behind⟩ := result
          rw [read] at item
          obtain ⟨stop, scanned, there⟩ := item
          obtain ⟨stop, skipped, there⟩ := commaReads there
          rw [scanned, doneBind]
          dsimp only
          rw [skipped, doneBind, ih there]
          exact ofOptionBind _ fun more => some (value :: more)

theorem arrayReads {scanItem : Nat → Scan (α × Nat)} {readItem : Bytes → Option (α × Bytes)}
    (itemReads : ∀ pos next rest, Stands buf limit pos (next :: rest) →
      Follows buf limit (scanItem pos) (readItem (next :: rest)))
    (stands : Stands buf limit pos rest) (maxItems : Nat) :
    parseArray scanItem buf limit pos maxItems = ofOption (arrayOf readItem maxItems rest) := by
  rw [parseArray, stands.peek]
  cases rest with
  | nil => rfl
  | cons first rest =>
    simp only [List.head?_cons, arrayOf]
    by_cases opened : first ≠ arrayStart
    · rw [if_pos opened, if_pos opened]
      rfl
    · obtain ⟨stop, skipped, there⟩ := skipWsReads stands.tail
      rw [if_neg opened, if_neg opened, skipped, doneBind]
      exact itemsRead itemReads there maxItems

theorem findCases (stands : Stands buf limit pos rest) (short : key.length < 38) :
    (lookIn rest key = none ∧ ∃ status, findKeyValuePosBounded buf pos limit key = .refused status) ∨
      ∃ value valPos, lookIn rest key = some value ∧ findKeyValuePosBounded buf pos limit key = .done valPos ∧
        Stands buf limit valPos value := by
  have found := findReads stands short
  rw [← lookIn] at found
  cases value : lookIn rest key with
  | none =>
    rw [value] at found
    exact Or.inl ⟨rfl, found⟩
  | some text =>
    rw [value] at found
    obtain ⟨valPos, done, there⟩ := found
    exact Or.inr ⟨text, valPos, rfl, done, there⟩

theorem optionalReadsInto (stands : Stands buf limit pos rest) (short : key.length < 38) :
    parseOptionalChannelU32Into buf pos limit key 0 =
      match givenOf (lookIn rest key) (some 0) uint32CheckedOf with
      | none => .done (.invalidState, 0)
      | some size => .done (.ok, size) := by
  rw [parseOptionalChannelU32Into]
  rcases findCases stands short with ⟨absent, status, refused⟩ | ⟨value, valPos, given, done, there⟩
  · rw [absent, refused]
    rfl
  · rw [given, done]
    exact intoReads there 0

theorem checkedReads (stands : Stands buf limit pos rest) (short : key.length < 38) :
    parseOptionalChannelU32 buf pos limit key = ofOption (givenOf (lookIn rest key) (some 0) uint32CheckedOf) := by
  rw [parseOptionalChannelU32, optionalReadsInto stands short]
  cases givenOf (lookIn rest key) (some 0) uint32CheckedOf <;> rfl

section Keys
variable {scanValue : Nat → Scan α} {readValue : Bytes → Option α}
  (valueReads : ∀ pos rest, Stands buf limit pos rest → scanValue pos = ofOption (readValue rest))
  (stands : Stands buf limit pos rest) (short : key.length < 38)
include valueReads stands short

theorem requiredReads : parseRequired buf pos limit key scanValue = ofOption ((lookIn rest key).bind readValue) := by
  rw [parseRequired]
  rcases findCases stands short with ⟨absent, status, refused⟩ | ⟨value, valPos, given, done, there⟩
  · rw [absent, refused]
    rfl
  · rw [given, done]
    exact valueReads valPos value there

theorem givenReads (absent : Option α) :
    parseGiven buf pos limit key (ofOption absent) scanValue = ofOption (givenOf (lookIn rest key) absent readValue) := by
  rw [parseGiven]
  rcases findCases stands short with ⟨missing, status, refused⟩ | ⟨value, valPos, given, done, there⟩
  · rw [missing, refused]
    rfl
  · rw [given, done]
    exact valueReads valPos value there

theorem optionalReads : parseOptional buf pos limit key scanValue = .done ((lookIn rest key).bind readValue) := by
  rw [parseOptional]
  rcases findCases stands short with ⟨absent, status, refused⟩ | ⟨value, valPos, given, done, there⟩
  · rw [absent, refused]
    rfl
  · rw [given, done, attemptDone, doneBind]
    dsimp only
    rw [valueReads valPos value there, Option.bind_some]
    cases readValue value <;> rfl

end Keys

theorem textReads (outSize pos : Nat) (rest : Bytes) (stands : Stands buf limit pos rest) :
    parseText buf limit outSize pos = ofOption (textOf outSize rest) := by
  have string := stringReads stands outSize
  rw [parseText, textOf]
  cases read : stringOf outSize rest with
  | none =>
    rw [read] at string
    rw [show parseStringValue buf limit pos outSize = _ from string]
    rfl
  | some result =>
    rw [read] at string
    obtain ⟨stop, scanned, _⟩ := string
    rw [scanned]
    rfl

theorem channelObjectReads (stands : Stands buf limit pos rest) :
    parseChannelObject buf pos limit = ofOption (channelOf rest) := by
  have uint : ∀ pos rest, Stands buf limit pos rest → parseUintValue buf limit pos = ofOption (uintOf rest) :=
    fun _ _ there => uintReads there
  have id : parseGiven buf pos limit (ascii "id") (.done 0) (parseUintValue buf limit) = _ :=
    givenReads uint stands (by decide) (some 0)
  rw [parseChannelObject, channelOf, channelFrom, id, requiredReads (textReads maxNameLen) stands (by decide),
    optionalReads (textReads strBufSize) stands (by decide), optionalReads (textReads strBufSize) stands (by decide),
    optionalReads (textReads maxHostLen) stands (by decide), optionalReads uint stands (by decide),
    optionalReads uint stands (by decide), optionalReads uint stands (by decide), checkedReads stands (by decide),
    checkedReads stands (by decide)]
  cases givenOf (lookIn rest (ascii "id")) (some 0) uintOf with
  | none => rfl
  | some id =>
    cases (lookIn rest (ascii "name")).bind (textOf maxNameLen) with
    | none => rfl
    | some name =>
      cases givenOf (lookIn rest (ascii "rcvbuf_bytes")) (some 0) uint32CheckedOf with
      | none => rfl
      | some rcvbufBytes => cases givenOf (lookIn rest (ascii "sndbuf_bytes")) (some 0) uint32CheckedOf <;> rfl

theorem channelItemReads (pos : Nat) (first : UInt8) (rest : Bytes) (stands : Stands buf limit pos (first :: rest)) :
    Follows buf limit (parseChannelItem buf limit pos) (channelItemOf (first :: rest)) := by
  rw [parseChannelItem, stands.read, doneBind, channelItemOf]
  by_cases opened : first ≠ objectStart
  · rw [if_pos opened, if_pos opened]
    rfl
  · rw [if_neg opened, if_neg opened, stands.tail.skipWhile, doneBind]
    have there := stands.tail.afterWhile fun byte => byte != objectEnd
    cases closing : rest.dropWhile fun byte => byte != objectEnd with
    | nil =>
      rw [closing] at there
      rw [if_pos there.atEnd.ge]
      rfl
    | cons last behind =>
      rw [closing] at there
      -- the object is what stands before its closing brace
      have object : Stands buf (pos + (first :: rest.takeWhile fun byte => byte != objectEnd).length) pos
          (first :: rest.takeWhile fun byte => byte != objectEnd) := by
        apply @Stands.upTo _ _ _ _ _ (last :: behind)
        rwa [List.cons_append, ← closing, List.takeWhile_append_dropWhile]
      rw [List.length_cons, Nat.add_comm _ 1, ← Nat.add_assoc] at object
      rw [if_neg (Nat.not_le.mpr there.next), channelObjectReads object]
      cases channelOf (first :: rest.takeWhile fun byte => byte != objectEnd) with
      | none => rfl
      | some channel => exact ⟨_, rfl, there.tail⟩

theorem quorumReads (topology : RedundancyTopology) (replicaCount : UInt32) :
    defaultQuorum topology replicaCount = ofOption (quorumOf topology replicaCount) := by
  cases topology <;> simp only [defaultQuorum, quorumOf] <;> first | rfl | split <;> rfl

section Text
variable (text : Bytes)

theorem votingReads : parseTopologyReplicasAndQuorum text text.length = ofOption (votingFrom (lookIn text)) := by
  have stands := standsAtStart text
  have uint : ∀ pos rest, Stands text text.length pos rest → parseUintValue text text.length pos = ofOption (uintOf rest) :=
    fun _ _ there => uintReads there
  have name : parseRequired text 0 text.length (ascii "topology") (parseText text text.length topologyNameSize) = _ :=
    requiredReads (textReads topologyNameSize) stands (by decide)
  have replicas : parseRequired text 0 text.length (ascii "replicas") (parseUintValue text text.length) = _ :=
    requiredReads uint stands (by decide)
  have quorum (topology : RedundancyTopology) (replicaCount : UInt32) :
      parseGiven text 0 text.length (ascii "quorum") (defaultQuorum topology replicaCount)
        (parseUintValue text text.length) =
        ofOption (givenOf (lookIn text (ascii "quorum")) (quorumOf topology replicaCount) uintOf) := by
    rw [quorumReads]
    exact givenReads uint stands (by decide) _
  simp only [parseTopologyReplicasAndQuorum, votingFrom, name, replicas, quorum, ofStatusOption]
  cases (lookIn text (ascii "topology")).bind (textOf topologyNameSize) with
  | none => rfl
  | some topologyName =>
    simp only [ofOptionSome, doneBind, Option.bind_eq_bind, Option.bind_some]
    cases (topologyFromString topologyName).toOption with
    | none => rfl
    | some topology =>
      simp only [ofOptionSome, doneBind, Option.bind_some]
      cases (lookIn text (ascii "replicas")).bind uintOf with
      | none => rfl
      | some replicaCount =>
        simp only [ofOptionSome, doneBind, Option.bind_some]
        by_cases range : replicaCount < 1 ∨ UInt32.ofNat maxReplicas < replicaCount
        · rw [if_pos range, if_pos range]
          rfl
        · rw [if_neg range, if_neg range]
          cases givenOf (lookIn text (ascii "quorum")) (quorumOf topology replicaCount) uintOf with
          | none => rfl
          | some quorumSize =>
            simp only [ofOptionSome, doneBind, Option.bind_some]
            split <;> rfl

theorem standbyModeReads : parseOptionalStandbyMode text text.length = ofOption (standbyModeFrom (lookIn text)) := by
  have mode (pos : Nat) (rest : Bytes) (there : Stands text text.length pos rest) :
      (parseText text text.length standbyModeNameSize pos >>= fun name => ofStatus (standbyModeFromString name)) =
        ofOption ((textOf standbyModeNameSize rest).bind fun name => (standbyModeFromString name).toOption) := by
    rw [textReads standbyModeNameSize pos rest there]
    simp only [ofStatusOption]
    exact ofOptionBind _ _
  exact givenReads mode (standsAtStart text) (by decide) (some StandbyMode.cold)

theorem rolesRead : parseOptionalRoles text text.length = ofOption (rolesFrom (lookIn text)) :=
  givenReads (fun _ _ there => arrayReads (fun _ _ _ item => stringReads item maxRoleNameLen) there maxReplicas)
    (standsAtStart text) (by decide) (some [])

theorem channelsRead : parseOptionalChannels text text.length = ofOption (channelsFrom (lookIn text)) :=
  givenReads (fun _ _ there => arrayReads channelItemReads there maxChannels) (standsAtStart text) (by decide) (some [])

theorem configReads : parseConfig text text.length = ofOption (configOf text) := by
  rw [parseConfig, votingReads, standbyModeReads, rolesRead, channelsRead, configOf, configFrom]
  cases votingFrom (lookIn text) with
  | none => rfl
  | some voting =>
    cases standbyModeFrom (lookIn text) with
    | none => rfl
    | some standbyMode =>
      cases rolesFrom (lookIn text) with
      | none => rfl
      | some roles => cases channelsFrom (lookIn text) <;> rfl

end Text
end PlatformRte.Config
