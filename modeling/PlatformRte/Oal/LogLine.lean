import PlatformRte.Oal.LogEvent
import PlatformRte.Utils.Decimal
import Mathlib.Data.List.TakeWhile

/-! The line of an event as pieces that are appended whole or not at all, and when what is
handed to the adapter is a beginning of the line that has room for all of them. -/
namespace PlatformRte.Oal
open Bytes Utils Decimal

def view (str : RteString) (kept : Kept str) : Capped UInt8 :=
  ⟨str.capacity.toNat, contentOf str, by rw [kept.contentLength]; exact kept.lengthLe⟩

structure Made (capacity : UInt64) (pieces : List Bytes) (line : Option RteString) : Prop where
  pushed : ∃ str, ∃ kept : Kept str, line = some str ∧ str.capacity = capacity ∧
    view str kept = (Capped.empty UInt8 capacity.toNat).pushAll pieces ∧ ∀ byte ∈ contentOf str, byte ≠ 0

section Lines
variable {capacity : UInt64} {pieces : List Bytes} {line : Option RteString}

theorem cStringNoNul (text : Bytes) : ∀ byte ∈ cString text, byte ≠ 0 := by
  intro byte inside
  exact bne_iff_ne.mp (List.mem_takeWhile_imp (p := fun byte => byte != 0) inside)

theorem concatMakes (made : Made capacity pieces line) (text : Bytes) :
    Made capacity (pieces ++ [cString text]) (concatUnchecked line text) := by
  obtain ⟨str, kept, rfl, size, same, noNul⟩ := made.pushed
  have items : (view str kept).items.length = str.length.toNat := kept.contentLength
  rw [concatUnchecked, concatPushes kept, Utils.pushed]
  refine ⟨?_⟩
  rw [Capped.pushAllSnoc, ← same, Capped.push]
  by_cases fits : str.length.toNat + (cString text).length ≤ str.capacity.toNat
  · have content := appendedContent kept fits
    rw [if_pos fits, dif_pos (by rw [items]; exact fits)]
    refine ⟨_, Outcome.kept (.appended _ fits) kept, rfl, size, ?_, ?_⟩
    · simp only [view, content]
      rfl
    · rw [content]
      intro byte inside
      rcases List.mem_append.mp inside with before | added
      · exact noNul byte before
      · exact cStringNoNul text byte added
  · rw [if_neg fits, dif_neg (by rw [items]; exact fits)]
    exact ⟨str, kept, rfl, size, rfl, noNul⟩

theorem localKept {capacity : UInt64} (some_ : capacity ≠ 0) :
    ∃ str, ∃ _ : Kept str, localString capacity = some str ∧ str.capacity = capacity ∧ str.length = 0 := by
  have bound : ¬((some (List.replicate capacity.toNat (0 : UInt8))).isNone = true ∨ capacity = 0) := by
    rintro (null | zero)
    · cases null
    · exact some_ zero
  refine ⟨⟨some (List.replicate capacity.toNat 0), capacity, 0⟩, ?_, ?_, rfl, rfl⟩
  · exact ⟨⟨_, rfl, by rw [List.length_replicate]⟩, UInt64.le_iff_toNat_le.mpr (Nat.zero_le _)⟩
  · simp only [localString, rteStringInit, rteBufferInit, atPointer, if_neg bound]

theorem localMakes (some_ : capacity ≠ 0) : Made capacity [] (localString capacity) := by
  obtain ⟨str, kept, same, size, empty⟩ := localKept some_
  have content : contentOf str = [] := (emptyContent kept).mp empty
  refine ⟨str, kept, same, size, ?_, by rw [content]; exact fun byte inside => absurd inside List.not_mem_nil⟩
  simp only [view, content, size]
  rfl

theorem cStrText {str : RteString} (kept : Kept str) (spare : str.length < str.capacity)
    (noNul : ∀ byte ∈ contentOf str, byte ≠ 0) : ∃ raw, cStrOf (some str) = some raw ∧ cString raw = contentOf str := by
  obtain ⟨bytes, data, room⟩ := kept.backed
  have content : contentOf str = bytes.take str.length.toNat := by rw [contentOf, data, Option.getD_some]
  refine ⟨patch bytes str.length.toNat [0], ?_, ?_⟩
  · rw [cStrOf, cStrTerminates kept, if_neg (UInt64.not_le.mpr spare), terminated, data]
    rfl
  · rw [patch, ← content, cString, List.singleton_append,
      List.takeWhile_append_of_pos fun byte inside => bne_iff_ne.mpr (noNul byte inside)]
    simp

theorem cStrFull {str : RteString} (kept : Kept str) (full : str.length ≥ str.capacity) : cStrOf (some str) = none := by
  rw [cStrOf, cStrTerminates kept, if_pos full]

theorem decimalNoNul (n : Nat) : ∀ byte ∈ decimal n, byte ≠ 0 := by
  rintro byte inside rfl
  exact absurd ((decimalIsNumeral n).2 0 inside) (by decide)

theorem printedCStr {capacity : UInt64} {text : Bytes} (room : text.length < capacity.toNat)
    (noNul : ∀ byte ∈ text, byte ≠ 0) (printed : Option RteString)
    (puts : ∀ str, Kept str → localString capacity = some str → printed = (put str text).2) :
    ∃ raw, cStrOf printed = some raw ∧ cString raw = text := by
  have some_ : capacity ≠ 0 := by
    rintro rfl
    exact absurd room (Nat.not_lt_zero _)
  obtain ⟨str, kept, same, size, _⟩ := localKept some_
  have fits : text.length ≤ str.capacity.toNat := size ▸ Nat.le_of_lt room
  have content := replacedContent kept fits
  have spare : (replaced str text).length < (replaced str text).capacity := by
    rw [UInt64.lt_iff_toNat_lt]
    change (UInt64.ofNat text.length).toNat < str.capacity.toNat
    rwa [sizeOfFits fits, size]
  obtain ⟨raw, given, reads⟩ := cStrText (Outcome.kept (.replaced text fits) kept) spare (by rwa [content])
  exact ⟨raw, by rw [puts str kept same, put, if_pos fits, given], reads.trans content⟩

end Lines

def textOf (value : Option Bytes) : Bytes := cString (value.getD [])

def fieldPieces (key : String) (value : Bytes) : List Bytes := [ascii " ", ascii key, ascii "=", value]

def eventPieces (nowMs : UInt64) (event : LogEvent) : List Bytes :=
  [ascii "Site=", textOf event.site] ++ fieldPieces "Timestamp" (decimal nowMs.toNat)
    ++ fieldPieces "Level" (rteLogLevelToString event.level) ++ fieldPieces "Cycle" (decimal event.cycle.toNat)
    ++ fieldPieces "Source" (textOf event.source) ++ fieldPieces "Destination" (textOf event.destination)
    ++ fieldPieces "Type" (textOf event.type) ++ fieldPieces "Info" (textOf event.info)
    ++ if textOf event.extraFields = [] then [] else [ascii " ", textOf event.extraFields]

section Fields
variable {capacity : UInt64} {pieces : List Bytes} {line : Option RteString}

theorem fieldMakes (made : Made capacity pieces line) (key : String) (value : Option Bytes)
    (noNul : cString (ascii key) = ascii key) :
    Made capacity (pieces ++ fieldPieces key (textOf value)) (rteLogAppendEventField line (ascii key) value) := by
  have whole := concatMakes (concatMakes (concatMakes (concatMakes made (ascii " ")) (ascii key)) (ascii "="))
    (value.getD [])
  have space : cString (ascii " ") = ascii " " := by decide
  have equals : cString (ascii "=") = ascii "=" := by decide
  rw [space, noNul, equals] at whole
  simpa [fieldPieces, textOf, rteLogAppendEventField, List.append_assoc] using whole

theorem levelNoNul (level : UInt32) : cString (rteLogLevelToString level) = rteLogLevelToString level := by
  simp only [rteLogLevelToString]
  split_ifs <;> decide

theorem cycleMakes (made : Made capacity pieces line) (value : UInt32) :
    Made capacity (pieces ++ fieldPieces "Cycle" (decimal value.toNat))
      (rteLogAppendEventFieldU32 line (ascii "Cycle") value) := by
  have short : (decimal value.toNat).length < (16 : UInt64).toNat := by
    have bound : value.toNat < 10 ^ 10 := lt_trans value.toNat_lt (by decide)
    exact lt_of_le_of_lt (decimalLength (by decide) bound) (by decide)
  obtain ⟨raw, given, reads⟩ := printedCStr short (decimalNoNul _) (rteStringFromU32 (localString 16) value).2 (by
      intro str kept same
      rw [same, ← UInt32.toNat_toUInt64, ← u64DigitsAre]
      exact congrArg Prod.snd (copyNPuts kept (lt_of_le_of_lt (u64DigitsLength _) (by decide))))
  have whole := fieldMakes made "Cycle" (some raw) (by decide)
  rw [textOf, Option.getD_some, reads] at whole
  rw [rteLogAppendEventFieldU32, given]
  exact whole

theorem emptyText (extraFields : Bytes) : cString extraFields = [] ↔ byteAt extraFields 0 = 0 := by
  cases extraFields with
  | nil => exact ⟨fun _ => rfl, fun _ => rfl⟩
  | cons first rest =>
    rw [cString, List.takeWhile_cons]
    by_cases nul : first = 0
    · simp [nul, byteAt]
    · simp [nul, byteAt]

theorem extraMakes (made : Made capacity pieces line) (extraFields : Option Bytes) :
    Made capacity
      (pieces ++ if textOf extraFields = [] then [] else [ascii " ", textOf extraFields])
      (match extraFields with
        | none => line
        | some extraFields =>
          if byteAt extraFields 0 = 0 then line
          else concatUnchecked (concatUnchecked line (ascii " ")) extraFields) := by
  cases extraFields with
  | none =>
    have nothing : textOf none = [] := rfl
    rwa [if_pos nothing, List.append_nil]
  | some extraFields =>
    dsimp only
    by_cases empty : byteAt extraFields 0 = 0
    · rw [if_pos empty, if_pos (show textOf (some extraFields) = [] from (emptyText _).mpr empty), List.append_nil]
      exact made
    · rw [if_neg empty, if_neg (show textOf (some extraFields) ≠ [] from fun none => empty ((emptyText _).mp none))]
      have space : cString (ascii " ") = ascii " " := by decide
      have whole := concatMakes (concatMakes made (ascii " ")) extraFields
      rw [space, List.append_assoc] at whole
      exact whole

theorem eventLineMakes (some_ : capacity ≠ 0) (nowMs : UInt64) (event : LogEvent) :
    Made capacity (eventPieces nowMs event) (eventLine capacity nowMs event) := by
  have short : (decimal nowMs.toNat).length < (24 : UInt64).toNat := by
    have bound : nowMs.toNat < 10 ^ 20 := lt_trans nowMs.toNat_lt (by decide)
    exact lt_of_le_of_lt (decimalLength (by decide) bound) (by decide)
  obtain ⟨raw, given, reads⟩ := printedCStr short (decimalNoNul _) (rteStringFromU64 (localString 24) nowMs).2 (by
      intro str kept same
      rw [same, ← u64DigitsAre]
      exact congrArg Prod.snd (copyNPuts kept (lt_of_le_of_lt (u64DigitsLength _) (by decide))))
  have site : cString (ascii "Site=") = ascii "Site=" := by decide
  have head := concatMakes (concatMakes (localMakes some_) (ascii "Site=")) (event.site.getD [])
  rw [site] at head
  have time := fieldMakes head "Timestamp" (some raw) (by decide)
  rw [textOf, Option.getD_some, reads] at time
  have level := fieldMakes time "Level" (some (rteLogLevelToString event.level)) (by decide)
  rw [textOf, Option.getD_some, levelNoNul] at level
  have cycle := cycleMakes level event.cycle
  have source := fieldMakes cycle "Source" event.source (by decide)
  have destination := fieldMakes source "Destination" event.destination (by decide)
  have type := fieldMakes destination "Type" event.type (by decide)
  have info := fieldMakes type "Info" event.info (by decide)
  have whole := extraMakes info event.extraFields
  rw [eventLine, given]
  exact whole

end Fields

/- What the adapter reads: all that was appended, or nothing when that fills the buffer and
leaves no place for the NUL. -/
def handed (capacity : Nat) (pieces : List Bytes) : Bytes :=
  if Capped.filled capacity (pieces.map List.length) = capacity then [] else Capped.taken capacity pieces

theorem messageIs {capacity : UInt64} (some_ : capacity ≠ 0) (nowMs : UInt64) (event : LogEvent) :
    cString ((cStrOf (eventLine capacity nowMs event)).getD []) = handed capacity.toNat (eventPieces nowMs event) := by
  obtain ⟨str, kept, same, size, view_, noNul⟩ := (eventLineMakes some_ nowMs event).pushed
  have content : contentOf str = Capped.taken capacity.toNat (eventPieces nowMs event) := by
    have items := congrArg Capped.items view_
    rw [(Capped.pushAllItems _ _).1] at items
    exact items
  have length : str.length.toNat = Capped.filled capacity.toNat ((eventPieces nowMs event).map List.length) := by
    rw [← Capped.takenLength, ← content, kept.contentLength]
  rw [same, handed, ← length]
  by_cases full : str.length.toNat = capacity.toNat
  · rw [if_pos full, cStrFull kept (UInt64.le_iff_toNat_le.mpr (by rw [size, full]))]
    rfl
  · have spare : str.length < str.capacity := by
      have within := kept.lengthLe
      rw [UInt64.lt_iff_toNat_lt]
      rw [size] at within ⊢
      omega
    obtain ⟨raw, given, reads⟩ := cStrText kept spare noNul
    rw [if_neg full, given, Option.getD_some, reads, content]

section Write
variable {service : LogService} {nowMs : UInt64} {event : LogEvent}

theorem writeHands {lineMax : UInt64} (some_ : lineMax ≠ 0) (adapter : service.osadapter = some true)
    (level : ¬event.level.toInt32 < service.minLevel.toInt32) :
    rteLogWriteEventIn lineMax service nowMs event
      = some ⟨event.level, event.source, handed lineMax.toNat (eventPieces nowMs event)⟩ := by
  have passes : ¬(service.osadapter ≠ some true ∨ event.level.toInt32 < service.minLevel.toInt32) := by
    rintro (none | below)
    · exact none adapter
    · exact level below
  rw [rteLogWriteEventIn, if_neg passes, messageIs some_]

theorem handedWhole {capacity : Nat} {pieces : List Bytes} (long : pieces.flatten.length < capacity) :
    handed capacity pieces = pieces.flatten := by
  have all := Capped.takenAll long.le
  have notFull : Capped.filled capacity (pieces.map List.length) ≠ capacity := by
    rw [← Capped.takenLength, all]
    exact Nat.ne_of_lt long
  rw [handed, if_neg notFull, all]

/- The line of an event that passes: it begins with the site's key and is a beginning of the
line that a longer buffer gives, exactly when no append fits after one that did not and
what was appended does not fill the buffer. -/
theorem eventLineTruncated (service : LogService) (nowMs : UInt64) (event : LogEvent)
    (adapter : service.osadapter = some true) (level : ¬event.level.toInt32 < service.minLevel.toInt32) :
    ∃ message, rteLogWriteEvent service nowMs event = some ⟨event.level, event.source, message⟩ ∧
      (∀ lineMax : UInt64, (eventPieces nowMs event).flatten.length < lineMax.toNat →
        rteLogWriteEventIn lineMax service nowMs event
          = some ⟨event.level, event.source, (eventPieces nowMs event).flatten⟩) ∧
      (message ≠ [] ∧ ascii "Site=" <+: message ∧ message <+: (eventPieces nowMs event).flatten ↔
        Capped.NeverResumes 256 (eventPieces nowMs event) ∧
          Capped.filled 256 ((eventPieces nowMs event).map List.length) ≠ 256) := by
  refine ⟨handed 256 (eventPieces nowMs event), writeHands (by decide) adapter level, ?_, ?_⟩
  · intro lineMax long
    have some_ : lineMax ≠ 0 := by
      rintro rfl
      exact absurd long (Nat.not_lt_zero _)
    rw [writeHands some_ adapter level, handedWhole long]
  · rw [handed]
    by_cases full : Capped.filled 256 ((eventPieces nowMs event).map List.length) = 256
    · rw [if_pos full]
      exact ⟨fun line => absurd rfl line.1, fun good => absurd full good.2⟩
    · rw [if_neg full, Capped.takenPrefix]
      have begins : ascii "Site=" <+: Capped.taken 256 (eventPieces nowMs event) := by
        simp only [eventPieces, List.cons_append, Capped.taken]
        rw [if_pos (by decide)]
        exact List.prefix_append _ _
      have some_ : Capped.taken 256 (eventPieces nowMs event) ≠ [] := by
        intro none
        rw [none] at begins
        exact absurd (List.prefix_nil.mp begins) (by decide)
      exact ⟨fun line => ⟨line.2.2, full⟩, fun good => ⟨some_, begins, good.1⟩⟩

end Write

def eventOf (site info : Bytes) : LogEvent := ⟨1, some site, 7, none, none, none, some info, none⟩

theorem eventLineTruncatedInfo :
    ∃ message, rteLogWriteEvent ⟨some true, 0⟩ 0 (eventOf (ascii "WEST") (List.replicate 300 0x41))
        = some ⟨1, none, message⟩ ∧
      message ≠ [] ∧ ascii "Site=" <+: message ∧
      message <+: (eventPieces 0 (eventOf (ascii "WEST") (List.replicate 300 0x41))).flatten := by
  obtain ⟨message, given, _, exactly_⟩ :=
    eventLineTruncated ⟨some true, 0⟩ 0 (eventOf (ascii "WEST") (List.replicate 300 0x41)) rfl (by decide)
  exact ⟨message, given, exactly_.mpr (by decide +kernel)⟩

/- A site too long for the line is left out and the fields behind it are not; and a line that
fills the buffer exactly is handed on as an empty one. -/
theorem eventLineGap :
    rteLogWriteEvent ⟨some true, 0⟩ 0 (eventOf (List.replicate 300 0x41) [])
        = some ⟨1, none, ascii "Site= Timestamp=0 Level=INFO Cycle=7 Source= Destination= Type= Info="⟩ ∧
      ¬ascii "Site= Timestamp=0 Level=INFO Cycle=7 Source= Destination= Type= Info="
        <+: (eventPieces 0 (eventOf (List.replicate 300 0x41) [])).flatten ∧
      rteLogWriteEvent ⟨some true, 0⟩ 0 (eventOf (List.replicate 187 0x41) []) = some ⟨1, none, []⟩ := by
  refine ⟨?_, by decide +kernel, ?_⟩
  · rw [rteLogWriteEvent, writeHands (by decide) rfl (by decide)]
    decide +kernel
  · rw [rteLogWriteEvent, writeHands (by decide) rfl (by decide)]
    decide +kernel

end PlatformRte.Oal
