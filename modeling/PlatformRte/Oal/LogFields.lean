import PlatformRte.Lib.Machine
import PlatformRte.Oal.LogLine
import PlatformRte.Utils.Split

/-! The builder for the extra fields of an event. Its text is split at the spaces into the
pairs that were added, each of them as key=value. -/
namespace PlatformRte.Oal
open Bytes Machine Utils Decimal Split

/- A builder is the string over its storage; none for NULL. -/
def rteLogFieldsReset (fields : Option RteString) : Option RteString :=
  fields.bind fun _ => localString rteLogEventLineMaxLen

def rteLogFieldsBeginPair (fields : Option RteString) (key : Option Bytes) : Option RteString × Bool :=
  match fields, key with
  | some str, some key =>
    let fields := if rteStringLength (some str) > 0 then concatUnchecked (some str) (ascii " ") else some str
    (concatUnchecked (concatUnchecked fields key) (ascii "="), true)
  | _, _ => (fields, false)

def addPair (fields : Option RteString) (key : Option Bytes) (value : Option RteString → Option RteString) :
    Option RteString :=
  match rteLogFieldsBeginPair fields key with
  | (fields, true) => value fields
  | (fields, false) => fields

def rteLogFieldsAddStr (fields : Option RteString) (key value : Option Bytes) : Option RteString :=
  addPair fields key fun str => concatUnchecked str (value.getD [])

def rteLogFieldsAddU32 (fields : Option RteString) (key : Option Bytes) (value : UInt32) : Option RteString :=
  addPair fields key fun str => (rteStringAppendU32 str value).2

def rteLogFieldsAddI32 (fields : Option RteString) (key : Option Bytes) (value : Int32) : Option RteString :=
  addPair fields key fun str => (rteStringAppendI32 str value).2

def rteLogFieldsAddU64 (fields : Option RteString) (key : Option Bytes) (value : UInt64) : Option RteString :=
  addPair fields key fun str => (rteStringAppendU64 str value).2

def rteLogFieldsAddI64 (fields : Option RteString) (key : Option Bytes) (value : Int64) : Option RteString :=
  addPair fields key fun str => (rteStringAppendI64 str value).2

def rteLogFieldsAddHexU32 (fields : Option RteString) (key : Option Bytes) (value : UInt32) (minDigits : UInt8) :
    Option RteString :=
  addPair fields key fun str => (rteStringAppendHexU32 (concatUnchecked str (ascii "0x")) value minDigits).2

def rteLogFieldsAddBool (fields : Option RteString) (key : Option Bytes) (value : Bool) : Option RteString :=
  addPair fields key fun str => concatUnchecked str (if value then ascii "true" else ascii "false")

def rteLogFieldsCStr (fields : Option RteString) : Bytes := (cStrOf fields).getD []

def rteLogWriteEventFields (service : LogService) (nowMs : UInt64) (event : LogEvent) (fields : Option RteString) :
    Option LogWrite :=
  rteLogWriteEvent service nowMs { event with extraFields := some (rteLogFieldsCStr fields) }

inductive FieldValue where
  | str (value : Option Bytes)
  | u32 (value : UInt32)
  | i32 (value : Int32)
  | u64 (value : UInt64)
  | i64 (value : Int64)
  | hexU32 (value : UInt32) (minDigits : UInt8)
  | bool (value : Bool)
  deriving DecidableEq, Repr

def addField (fields : Option RteString) : Option Bytes × FieldValue → Option RteString
  | (key, .str value) => rteLogFieldsAddStr fields key value
  | (key, .u32 value) => rteLogFieldsAddU32 fields key value
  | (key, .i32 value) => rteLogFieldsAddI32 fields key value
  | (key, .u64 value) => rteLogFieldsAddU64 fields key value
  | (key, .i64 value) => rteLogFieldsAddI64 fields key value
  | (key, .hexU32 value minDigits) => rteLogFieldsAddHexU32 fields key value minDigits
  | (key, .bool value) => rteLogFieldsAddBool fields key value

def addFields (fields : Option RteString) (adds : List (Option Bytes × FieldValue)) : Option RteString :=
  run addField fields adds

def FieldValue.text : FieldValue → Bytes
  | .str value => textOf value
  | .u32 value => decimal value.toNat
  | .i32 value => signedDecimal value.toInt
  | .u64 value => decimal value.toNat
  | .i64 value => signedDecimal value.toInt
  | .hexU32 value minDigits => ascii "0x" ++ rteStringFormatHexU32 value minDigits
  | .bool value => if value then ascii "true" else ascii "false"

def pairsOf (adds : List (Option Bytes × FieldValue)) : List (Bytes × Bytes) :=
  adds.filterMap fun add => add.1.map fun key => (cString key, add.2.text)

def pairText (pair : Bytes × Bytes) : Bytes := pair.1 ++ ascii "=" ++ pair.2

def pairsText (pairs : List (Bytes × Bytes)) : Bytes := [0x20].intercalate (pairs.map pairText)

section Text
variable {capacity : UInt64} {text : Bytes} {line : Option RteString}

def Given (capacity : UInt64) (text : Bytes) (line : Option RteString) : Prop :=
  ∃ pieces, Made capacity pieces line ∧ pieces.flatten = text

theorem concatGiven (given : Given capacity text line) (added : Bytes) :
    Given capacity (text ++ cString added) (concatUnchecked line added) := by
  obtain ⟨pieces, made, rfl⟩ := given
  exact ⟨_, concatMakes made added, by simp⟩

theorem cStringWhole {text : Bytes} (noNul : ∀ byte ∈ text, byte ≠ 0) : cString text = text :=
  List.takeWhile_eq_self_iff.mpr fun byte inside => bne_iff_ne.mpr (noNul byte inside)

theorem appendGiven (given : Given capacity text line) {added : Bytes} (small : added.length < 2 ^ 64)
    (noNul : ∀ byte ∈ added, byte ≠ 0) : Given capacity (text ++ added) (rteStringAppendBytes line added).2 := by
  have concat := concatGiven given added
  rw [cStringWhole noNul] at concat
  obtain ⟨pieces, made, rfl⟩ := given
  obtain ⟨str, kept, rfl, -⟩ := made.pushed
  have same : rteStringAppendBytes (some str) added = rteStringConcat (some str) (some added) := by
    rw [stringAppendPushes kept small, concatPushes kept, cStringWhole noNul]
  rwa [same]

theorem givenContent (given : Given capacity text line) (fits : text.length ≤ capacity.toNat) :
    ∃ str, line = some str ∧ Kept str ∧ str.capacity = capacity ∧ contentOf str = text ∧ ∀ byte ∈ text, byte ≠ 0 := by
  obtain ⟨pieces, made, rfl⟩ := given
  obtain ⟨str, kept, rfl, size, view_, noNul⟩ := made.pushed
  have content : contentOf str = pieces.flatten := by
    have items := congrArg Capped.items view_
    rw [(Capped.pushAllItems _ _).1] at items
    exact items.trans (Capped.takenAll fits)
  exact ⟨str, rfl, kept, size, content, content ▸ noNul⟩

theorem hexLetters (value : UInt32) (minDigits : UInt8) :
    ∀ byte ∈ rteStringFormatHexU32 value minDigits, byte ∈ hexLc := by
  intro byte inside
  obtain ⟨i, -, rfl⟩ := List.mem_map.mp inside
  dsimp only
  split
  · decide
  · have small : ((value >>> (4 * UInt32.ofNat (max (realDigits 8 value) (hexWidth minDigits) - 1 - i))) &&& 0x0F).toNat < 16 := by
      rw [UInt32.toNat_and]
      exact Nat.lt_of_le_of_lt Nat.and_le_right (by decide)
    have each : ∀ n < 16, byteAt hexLc n ∈ hexLc := by decide
    exact each _ small

theorem hexShort (value : UInt32) (minDigits : UInt8) : (rteStringFormatHexU32 value minDigits).length < 2 ^ 64 :=
  (hexDigitsLength value minDigits).trans_lt (by decide)

theorem signedNoNul (n : Int) : ∀ byte ∈ signedDecimal n, byte ≠ 0 := by
  intro byte inside
  rw [signedDecimal] at inside
  split at inside
  · rcases List.mem_cons.mp inside with rfl | digit
    · decide
    · exact decimalNoNul _ byte digit
  · exact decimalNoNul _ byte inside

theorem hexNoNul (value : UInt32) (minDigits : UInt8) : ∀ byte ∈ rteStringFormatHexU32 value minDigits, byte ≠ 0 := by
  intro byte inside zero
  have letter : byte ∈ hexLc := hexLetters value minDigits byte inside
  rw [zero] at letter
  exact absurd letter (by decide)

def between (text : Bytes) : Bytes := if text = [] then [] else [0x20]

theorem pairGiven (given : Given capacity text line) (fits : text.length ≤ capacity.toNat) (key : Bytes)
    {value : Option RteString → Option RteString} {added : Bytes}
    (puts : ∀ {before line}, Given capacity before line → Given capacity (before ++ added) (value line)) :
    Given capacity (text ++ between text ++ pairText (cString key, added)) (addPair line (some key) value) := by
  obtain ⟨str, rfl, kept, size, content, -⟩ := givenContent given fits
  have empty : rteStringLength (some str) > 0 ↔ text ≠ [] := by
    rw [rteStringLength, gt_iff_lt, UInt64.lt_iff_toNat_lt, ← kept.contentLength, content]
    exact List.length_pos_iff
  have begun : Given capacity (text ++ between text)
      (if rteStringLength (some str) > 0 then concatUnchecked (some str) (ascii " ") else some str) := by
    by_cases some_ : text = []
    · rw [between, if_pos some_, if_neg (fun more => empty.mp more some_), List.append_nil]
      exact given
    · rw [between, if_neg some_, if_pos (empty.mpr some_)]
      exact concatGiven given (ascii " ")
  have keyed := concatGiven (concatGiven begun key) (ascii "=")
  have equals : cString (ascii "=") = ascii "=" := by decide
  rw [equals] at keyed
  have whole := puts keyed
  simp only [pairText, List.append_assoc] at whole ⊢
  exact whole

theorem fieldGiven (given : Given capacity text line) (fits : text.length ≤ capacity.toNat) (key : Bytes)
    (value : FieldValue) :
    Given capacity (text ++ between text ++ pairText (cString key, value.text)) (addField line (some key, value)) := by
  have decimalSmall (n : UInt64) : (rteStringFormatU64Digits n).length < 2 ^ 64 :=
    lt_of_le_of_lt (u64DigitsLength n) (by decide)
  have signedSmall (n : Int64) : (rteStringFormatI64 n).length < 2 ^ 64 :=
    lt_of_le_of_lt (i64DigitsLength n) (by decide)
  have u64Puts (n : UInt64) : ∀ {before line}, Given capacity before line →
      Given capacity (before ++ decimal n.toNat) (rteStringAppendU64 line n).2 := fun given => by
    rw [← u64DigitsAre]
    exact appendGiven given (decimalSmall n) (by rw [u64DigitsAre]; exact decimalNoNul _)
  have i64Puts (n : Int64) : ∀ {before line}, Given capacity before line →
      Given capacity (before ++ signedDecimal n.toInt) (rteStringAppendI64 line n).2 := fun given => by
    rw [← i64DigitsAre]
    exact appendGiven given (signedSmall n) (by rw [i64DigitsAre]; exact signedNoNul _)
  cases value with
  | str value => exact pairGiven given fits key fun given => concatGiven given (value.getD [])
  | u32 value =>
    refine pairGiven given fits key fun given => ?_
    have puts := u64Puts value.toUInt64 given
    rw [UInt32.toNat_toUInt64] at puts
    exact puts
  | i32 value =>
    refine pairGiven given fits key fun given => ?_
    have puts := i64Puts value.toInt64 given
    rw [Int32.toInt_toInt64] at puts
    exact puts
  | u64 value => exact pairGiven given fits key (u64Puts value)
  | i64 value => exact pairGiven given fits key (i64Puts value)
  | hexU32 value minDigits =>
    refine pairGiven given fits key fun given => ?_
    have prefixed := concatGiven given (ascii "0x")
    have zeroX : cString (ascii "0x") = ascii "0x" := by decide
    rw [zeroX] at prefixed
    have puts := appendGiven prefixed (hexShort value minDigits) (hexNoNul value minDigits)
    rw [List.append_assoc] at puts
    exact puts
  | bool value =>
    refine pairGiven given fits key fun given => ?_
    have puts := concatGiven given (if value then ascii "true" else ascii "false")
    have whole : cString (if value then ascii "true" else ascii "false") = if value then ascii "true" else ascii "false" := by
      cases value <;> decide
    rw [whole] at puts
    exact puts

theorem pairsTextSnoc (pairs : List (Bytes × Bytes)) (pair : Bytes × Bytes) :
    pairsText (pairs ++ [pair]) = pairsText pairs ++ between (pairsText pairs) ++ pairText pair := by
  have empty : pairsText pairs = [] ↔ pairs.map pairText = [] := by
    refine ⟨fun none_ => ?_, fun none_ => by rw [pairsText, none_]; rfl⟩
    rcases List.eq_nil_or_concat pairs with rfl | ⟨init, last, rfl⟩
    · rfl
    · rw [pairsText, List.concat_eq_append, List.map_append, List.map_singleton, joinSnoc] at none_
      simp [pairText, ascii] at none_
  rw [pairsText, List.map_append, List.map_singleton, joinSnoc, ← pairsText, between]
  simp only [empty]

theorem fieldsGiven (some_ : capacity ≠ 0) (adds : List (Option Bytes × FieldValue))
    (fits : (pairsText (pairsOf adds)).length ≤ capacity.toNat) :
    Given capacity (pairsText (pairsOf adds)) (addFields (localString capacity) adds) := by
  induction adds using List.reverseRecOn with
  | nil => exact ⟨[], localMakes some_, rfl⟩
  | append_singleton init add ih =>
    obtain ⟨key, value⟩ := add
    rw [addFields, runSnoc]
    cases key with
    | none =>
      have same : pairsOf (init ++ [(none, value)]) = pairsOf init := by simp [pairsOf]
      rw [same] at fits ⊢
      have given := ih fits
      have nothing : addField (addFields (localString capacity) init) (none, value) = addFields (localString capacity) init := by
        cases addFields (localString capacity) init <;> cases value <;> rfl
      rw [addFields] at nothing given
      rwa [nothing]
    | some key =>
      have more : pairsOf (init ++ [(some key, value)]) = pairsOf init ++ [(cString key, value.text)] := by simp [pairsOf]
      rw [more, pairsTextSnoc] at fits ⊢
      have before : (pairsText (pairsOf init)).length ≤ capacity.toNat := by
        rw [List.length_append, List.length_append] at fits
        omega
      exact fieldGiven (ih before) before key value

end Text

def Plain (add : Option Bytes × FieldValue) : Prop :=
  0x20 ∉ textOf add.1 ∧
    match add.2 with
    | .str value => 0x20 ∉ textOf value
    | _ => True

def Keyed (add : Option Bytes × FieldValue) : Prop := 0x3D ∉ textOf add.1

instance : DecidablePred Plain := fun add => by
  obtain ⟨key, value⟩ := add
  cases value <;> unfold Plain <;> infer_instance

instance : DecidablePred Keyed := fun _ => inferInstanceAs (Decidable (_ ∉ _))

section ReadBack

theorem decimalNoSpace (n : Nat) : 0x20 ∉ decimal n := fun inside =>
  absurd ((decimalIsNumeral n).2 _ inside) (by decide)

theorem signedNoSpace (n : Int) : 0x20 ∉ signedDecimal n := by
  intro inside
  rw [signedDecimal] at inside
  split at inside
  · rcases List.mem_cons.mp inside with sign | digit
    · exact absurd sign (by decide)
    · exact decimalNoSpace _ digit
  · exact decimalNoSpace _ inside

theorem valueNoSpace {add : Option Bytes × FieldValue} (plain : Plain add) : 0x20 ∉ add.2.text := by
  obtain ⟨key, value⟩ := add
  cases value with
  | str value => exact plain.2
  | u32 value => exact decimalNoSpace _
  | i32 value => exact signedNoSpace _
  | u64 value => exact decimalNoSpace _
  | i64 value => exact signedNoSpace _
  | hexU32 value minDigits =>
    intro inside
    rcases List.mem_append.mp inside with front | digits
    · exact absurd front (by decide)
    · exact absurd (hexLetters value minDigits _ digits) (by decide)
  | bool value =>
    have words : ∀ value : Bool, 0x20 ∉ (FieldValue.bool value).text := by decide
    exact words value

variable {adds adds' : List (Option Bytes × FieldValue)}

theorem pairFrom {pair : Bytes × Bytes} (inside : pair ∈ pairsOf adds) :
    ∃ key value, (some key, value) ∈ adds ∧ pair = (cString key, value.text) := by
  obtain ⟨⟨key, value⟩, member, is⟩ := List.mem_filterMap.mp inside
  obtain ⟨key, rfl, rfl⟩ := Option.map_eq_some_iff.mp is
  exact ⟨key, value, member, rfl⟩

theorem pairsNoSpace (plain : ∀ add ∈ adds, Plain add) : ∀ part ∈ (pairsOf adds).map pairText, 0x20 ∉ part := by
  intro part inside
  obtain ⟨pair, member, rfl⟩ := List.mem_map.mp inside
  obtain ⟨key, value, added, rfl⟩ := pairFrom member
  have plain := plain _ added
  intro space
  rcases List.mem_append.mp space with front | text
  · rcases List.mem_append.mp front with name | equals
    · exact plain.1 name
    · exact absurd equals (by decide)
  · exact valueNoSpace plain text

theorem pairsSplit (plain : ∀ add ∈ adds, Plain add) :
    pieces 0x20 (pairsText (pairsOf adds)) = (pairsOf adds).map pairText := by
  refine piecesJoin (pairsNoSpace plain) fun last => ?_
  obtain ⟨pair, -, empty⟩ := List.mem_map.mp (List.mem_of_getLast? last)
  simp [pairText, ascii] at empty

theorem pairTextInjective {pair pair' : Bytes × Bytes} (key : 0x3D ∉ pair.1) (key' : 0x3D ∉ pair'.1)
    (same : pairText pair = pairText pair') : pair = pair' := by
  have reads {pair : Bytes × Bytes} (key : 0x3D ∉ pair.1) :
      (pairText pair).takeWhile (fun byte => byte != 0x3D) = pair.1 := by
    have clean : ∀ byte ∈ pair.1, (byte != 0x3D) = true := fun byte inside => by
      refine bne_iff_ne.mpr ?_
      rintro rfl
      exact key inside
    rw [pairText, List.append_assoc, List.takeWhile_append_of_pos clean]
    simp [ascii]
  have keys : pair.1 = pair'.1 := by rw [← reads key, same, reads key']
  have values := same
  rw [pairText, pairText, keys] at values
  exact Prod.ext keys (List.append_cancel_left values)

theorem pairsApart (plain : ∀ add ∈ adds, Plain add) (plain' : ∀ add ∈ adds', Plain add)
    (keyed : ∀ add ∈ adds, Keyed add) (keyed' : ∀ add ∈ adds', Keyed add)
    (same : pairsText (pairsOf adds) = pairsText (pairsOf adds')) : pairsOf adds = pairsOf adds' := by
  have cut : (pairsOf adds).map pairText = (pairsOf adds').map pairText := by
    rw [← pairsSplit plain, ← pairsSplit plain', same]
  have keys {adds : List (Option Bytes × FieldValue)} (keyed : ∀ add ∈ adds, Keyed add) :
      ∀ pair ∈ pairsOf adds, 0x3D ∉ pair.1 := fun pair inside => by
    obtain ⟨key, value, member, rfl⟩ := pairFrom inside
    exact keyed _ member
  have lengths : (pairsOf adds).length = (pairsOf adds').length := by simpa using congrArg List.length cut
  refine List.ext_getElem lengths fun i inside inside' => ?_
  have here : pairText (pairsOf adds)[i] = pairText (pairsOf adds')[i] := by
    have part := congrArg (fun parts => parts[i]?) cut
    simpa [List.getElem?_eq_getElem inside, List.getElem?_eq_getElem inside'] using part
  exact pairTextInjective (keys keyed _ (List.getElem_mem inside)) (keys keyed' _ (List.getElem_mem inside')) here

theorem sameExtra (service : LogService) (nowMs : UInt64) (event : LogEvent) {extra extra' : Option Bytes}
    (same : textOf extra = textOf extra') :
    rteLogWriteEvent service nowMs { event with extraFields := extra } =
      rteLogWriteEvent service nowMs { event with extraFields := extra' } := by
  have pieces : eventPieces nowMs { event with extraFields := extra } =
      eventPieces nowMs { event with extraFields := extra' } := by simp only [eventPieces, same]
  by_cases passes : service.osadapter = some true ∧ ¬event.level.toInt32 < service.minLevel.toInt32
  · have hands (extra : Option Bytes) : rteLogWriteEvent service nowMs { event with extraFields := extra } =
        some ⟨event.level, event.source,
          handed rteLogEventLineMaxLen.toNat (eventPieces nowMs { event with extraFields := extra })⟩ :=
      writeHands (by decide) passes.1 passes.2
    rw [hands, hands, pieces]
  · have filtered : service.osadapter ≠ some true ∨ event.level.toInt32 < service.minLevel.toInt32 := by
      by_cases adapter : service.osadapter = some true
      · exact Or.inr (not_not.mp fun level => passes ⟨adapter, level⟩)
      · exact Or.inl adapter
    simp only [rteLogWriteEvent, rteLogWriteEventIn, if_pos filtered]

/- As long as the pairs fit, splitting the builder's text at the spaces gives the pairs back,
other pairs have another text, and an event with the builder is one with this text; it is one
without extra fields when the text fills the builder. -/
theorem fieldsReadBack (fields : RteString) (plain : ∀ add ∈ adds, Plain add) (keyed : ∀ add ∈ adds, Keyed add)
    (fits : (pairsText (pairsOf adds)).length ≤ 256) :
    ∃ str, addFields (rteLogFieldsReset (some fields)) adds = some str ∧
      (∀ calls, str.length.toNat < calls → splitRun str 0x20 calls 0 = some ((pairsOf adds).map pairText)) ∧
      (∀ adds' other, (∀ add ∈ adds', Plain add) → (∀ add ∈ adds', Keyed add) →
        (pairsText (pairsOf adds')).length ≤ 256 → addFields (rteLogFieldsReset (some fields)) adds' = some other →
        contentOf other = contentOf str → pairsOf adds' = pairsOf adds) ∧
      ∀ service nowMs event, rteLogWriteEventFields service nowMs event (some str) =
        rteLogWriteEvent service nowMs { event with
          extraFields := if (pairsText (pairsOf adds)).length = 256 then none else some (pairsText (pairsOf adds)) } := by
  have added {adds : List (Option Bytes × FieldValue)} (fits : (pairsText (pairsOf adds)).length ≤ 256) :
      ∃ str, addFields (rteLogFieldsReset (some fields)) adds = some str ∧ Kept str ∧
        str.capacity = rteLogEventLineMaxLen ∧ contentOf str = pairsText (pairsOf adds) ∧
        ∀ byte ∈ pairsText (pairsOf adds), byte ≠ 0 :=
    givenContent (fieldsGiven (by decide) adds fits) fits
  obtain ⟨str, is, kept, size, content, noNul⟩ := added fits
  refine ⟨str, is, fun calls enough => ?_, fun adds' other plain' keyed' fits' is' same => ?_,
    fun service nowMs event => sameExtra service nowMs event ?_⟩
  · rw [splitRunWhole kept enough, content, pairsSplit plain]
  · obtain ⟨str', is'', -, -, content', -⟩ := added fits'
    rw [is'] at is''
    obtain rfl := Option.some.inj is''
    rw [content, content'] at same
    exact pairsApart plain' plain keyed' keyed same
  · have length : str.length.toNat = (pairsText (pairsOf adds)).length := by rw [← content, kept.contentLength]
    rw [textOf, Option.getD_some, rteLogFieldsCStr, ← length]
    by_cases full : str.length.toNat = 256
    · rw [if_pos full, cStrFull kept (UInt64.le_iff_toNat_le.mpr (by rw [size, full]; decide))]
      rfl
    · have spare : str.length < str.capacity := by
        have within := kept.lengthLe
        have cap : rteLogEventLineMaxLen.toNat = 256 := rfl
        rw [UInt64.lt_iff_toNat_lt]
        rw [size] at within ⊢
        omega
      obtain ⟨raw, given, reads⟩ := cStrText kept spare (content ▸ noNul)
      rw [if_neg full, given, Option.getD_some, reads, content, textOf, Option.getD_some, cStringWhole noNul]

def threeFields : List (Option Bytes × FieldValue) :=
  [(some (ascii "from"), .str (some (ascii "west"))), (none, .u32 1), (some (ascii "delta"), .i32 (-5)),
    (some (ascii "mask"), .hexU32 0xAB 4)]

theorem threeFieldsReadBack :
    ∃ str, addFields (rteLogFieldsReset (some ⟨none, 0, 0⟩)) threeFields = some str ∧ str.length = 30 ∧
      splitRun str 0x20 31 0 = some [ascii "from=west", ascii "delta=-5", ascii "mask=0x00ab"] := by
  obtain ⟨str, is, splits, -⟩ := fieldsReadBack ⟨none, 0, 0⟩ (by decide : ∀ add ∈ threeFields, Plain add) (by decide)
    (by decide +kernel)
  have length : (addFields (rteLogFieldsReset (some ⟨none, 0, 0⟩)) threeFields).map RteBuffer.length = some 30 := by
    decide +kernel
  rw [is] at length
  have size : str.length = 30 := Option.some.inj length
  refine ⟨str, is, size, ?_⟩
  rw [splits 31 (by rw [size]; decide)]
  decide +kernel

end ReadBack

end PlatformRte.Oal
