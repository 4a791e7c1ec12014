import PlatformRte.Utils.Numeric
import PlatformRte.Lib.Capped

/-! What one operation can do to a buffer that is kept well: its length stays within its
capacity and its storage is there, and the operation does all of what it is for or nothing. -/
namespace PlatformRte.Utils
open Bytes

structure Kept (buf : RteBuffer) : Prop where
  backed : ∃ bytes, buf.data = some bytes ∧ buf.capacity.toNat ≤ bytes.length
  within : buf.length ≤ buf.capacity

def appended (buf : RteBuffer) (text : Bytes) : RteBuffer :=
  { buf with
    data := buf.data.map fun data => patch data buf.length.toNat text
    length := buf.length + UInt64.ofNat text.length }

def replaced (buf : RteBuffer) (text : Bytes) : RteBuffer :=
  { buf with data := buf.data.map fun data => patch data 0 text, length := UInt64.ofNat text.length }

def terminated (buf : RteBuffer) : RteBuffer :=
  { buf with data := buf.data.map fun data => patch data buf.length.toNat [0] }

inductive Outcome (buf : RteBuffer) : RteStatus → RteBuffer → Prop
  | same (st : RteStatus) : Outcome buf st buf
  | bound (storage : Bytes) (capacity : UInt64) (room : capacity.toNat ≤ storage.length) :
      Outcome buf .ok ⟨some storage, capacity, 0⟩
  | marked (length : UInt64) (fits : length ≤ buf.capacity) : Outcome buf .ok { buf with length }
  | replaced (text : Bytes) (fits : text.length ≤ buf.capacity.toNat) : Outcome buf .ok (replaced buf text)
  | appended (text : Bytes) (fits : buf.length.toNat + text.length ≤ buf.capacity.toNat) :
      Outcome buf .ok (appended buf text)
  | terminated (spare : buf.length < buf.capacity) : Outcome buf .ok (terminated buf)

section Buffer
variable {buf : RteBuffer}

theorem Kept.valid (kept : Kept buf) : rteBufferIsValid (some buf) = true := by
  obtain ⟨bytes, data, _⟩ := kept.backed
  simp [rteBufferIsValid, data, kept.within]

theorem Kept.lengthLe (kept : Kept buf) : buf.length.toNat ≤ buf.capacity.toNat :=
  UInt64.le_iff_toNat_le.mp kept.within

theorem Kept.roomLeft (kept : Kept buf) :
    (buf.capacity - buf.length).toNat = buf.capacity.toNat - buf.length.toNat :=
  UInt64.toNat_sub_of_le _ _ kept.within

theorem sizeOfFits {text : Bytes} (fits : text.length ≤ buf.capacity.toNat) :
    (UInt64.ofNat text.length).toNat = text.length := by
  rw [UInt64.toNat_ofNat', Nat.mod_eq_of_lt (lt_of_le_of_lt fits buf.capacity.toNat_lt)]

theorem appendedLength {text : Bytes} (fits : buf.length.toNat + text.length ≤ buf.capacity.toNat) :
    (appended buf text).length.toNat = buf.length.toNat + text.length := by
  have size := sizeOfFits (le_trans (Nat.le_add_left _ _) fits)
  rw [appended, UInt64.toNat_add, size]
  exact Nat.mod_eq_of_lt (lt_of_le_of_lt fits buf.capacity.toNat_lt)

theorem patchedBacked (kept : Kept buf) {offset : Nat} {text : Bytes} (fits : offset + text.length ≤ buf.capacity.toNat) :
    ∃ bytes, (buf.data.map fun data => patch data offset text) = some bytes ∧ buf.capacity.toNat ≤ bytes.length := by
  obtain ⟨bytes, data, room⟩ := kept.backed
  refine ⟨patch bytes offset text, by rw [data]; rfl, ?_⟩
  rwa [patchLength (le_trans fits room)]

theorem Outcome.kept {st : RteStatus} {buf' : RteBuffer} (outcome : Outcome buf st buf') (kept : Kept buf) : Kept buf' := by
  cases outcome with
  | same => exact kept
  | bound storage capacity room => exact ⟨⟨storage, rfl, room⟩, UInt64.le_iff_toNat_le.mpr (Nat.zero_le _)⟩
  | marked length fits => exact ⟨kept.backed, fits⟩
  | replaced text fits =>
    refine ⟨patchedBacked kept (by rwa [Nat.zero_add]), UInt64.le_iff_toNat_le.mpr ?_⟩
    exact (sizeOfFits fits).trans_le fits
  | appended text fits =>
    exact ⟨patchedBacked kept fits, UInt64.le_iff_toNat_le.mpr ((appendedLength fits).trans_le fits)⟩
  | terminated spare =>
    exact ⟨patchedBacked kept (Nat.succ_le_of_lt (UInt64.lt_iff_toNat_lt.mp spare)), kept.within⟩

theorem Outcome.refused {st : RteStatus} {buf' : RteBuffer} (outcome : Outcome buf st buf') (bad : st ≠ .ok) :
    buf' = buf := by
  cases outcome with
  | same => rfl
  | bound | marked | replaced | appended | terminated => exact absurd rfl bad

theorem Kept.contentLength (kept : Kept buf) : (contentOf buf).length = buf.length.toNat := by
  obtain ⟨bytes, data, room⟩ := kept.backed
  rw [contentOf, data, Option.getD_some, List.length_take]
  exact Nat.min_eq_left (le_trans kept.lengthLe room)

theorem appendedContent (kept : Kept buf) {text : Bytes} (fits : buf.length.toNat + text.length ≤ buf.capacity.toNat) :
    contentOf (appended buf text) = contentOf buf ++ text := by
  obtain ⟨bytes, data, room⟩ := kept.backed
  rw [contentOf, appendedLength fits, appended, data, contentOf, data]
  exact patchTake (le_trans fits room)

theorem replacedContent (kept : Kept buf) {text : Bytes} (fits : text.length ≤ buf.capacity.toNat) :
    contentOf (replaced buf text) = text := by
  obtain ⟨bytes, data, room⟩ := kept.backed
  have front := @patchTake bytes text 0 (by rw [Nat.zero_add]; exact le_trans fits room)
  rw [Nat.zero_add] at front
  rw [contentOf, replaced, sizeOfFits fits, data]
  exact front

theorem terminatedContent (kept : Kept buf) : contentOf (terminated buf) = contentOf buf := by
  obtain ⟨bytes, data, room⟩ := kept.backed
  have before : buf.length.toNat ≤ bytes.length := le_trans kept.lengthLe room
  rw [contentOf, terminated, data, contentOf, data]
  exact List.take_left' (by rw [List.length_take, Nat.min_eq_left before])

def pushed (buf : RteBuffer) (text : Bytes) : RteStatus × Option RteBuffer :=
  if buf.length.toNat + text.length ≤ buf.capacity.toNat then (.ok, some (appended buf text))
  else (.resourceExhausted, some buf)

def put (buf : RteBuffer) (text : Bytes) : RteStatus × Option RteBuffer :=
  if text.length ≤ buf.capacity.toNat then (.ok, some (replaced buf text)) else (.resourceExhausted, some buf)

theorem Kept.tooLong (kept : Kept buf) {text : Bytes} (small : text.length < 2 ^ 64) :
    buf.capacity - buf.length < UInt64.ofNat text.length ↔ ¬buf.length.toNat + text.length ≤ buf.capacity.toNat := by
  have within := kept.lengthLe
  rw [UInt64.lt_iff_toNat_lt, kept.roomLeft, UInt64.toNat_ofNat', Nat.mod_eq_of_lt small]
  omega

theorem appendBytesPushes (kept : Kept buf) {bytes : Bytes} (small : bytes.length < 2 ^ 64) :
    rteBufferAppendBytes (some buf) bytes = pushed buf bytes := by
  rw [rteBufferAppendBytes, atPointer, pushed, kept.valid, if_neg (by decide)]
  by_cases fits : buf.length.toNat + bytes.length ≤ buf.capacity.toNat
  · rw [if_neg fun short => (kept.tooLong small).mp short fits, if_pos fits]
    rfl
  · rw [if_pos ((kept.tooLong small).mpr fits), if_neg fits]

theorem patchNothing (raw : Bytes) (offset : Nat) : patch raw offset [] = raw :=
  List.take_append_drop offset raw

theorem appendedNothing (buf : RteBuffer) : appended buf [] = buf := by
  have same : (buf.data.map fun data => patch data buf.length.toNat []) = buf.data := by
    simp only [patchNothing, Option.map_id']
  rw [appended, same]
  change { buf with length := buf.length + 0 } = buf
  rw [UInt64.add_zero]

theorem stringAppendPushes (kept : Kept buf) {bytes : Bytes} (small : bytes.length < 2 ^ 64) :
    rteStringAppendBytes (some buf) bytes = pushed buf bytes := by
  rw [rteStringAppendBytes, atPointer, pushed, kept.valid, if_neg (by decide)]
  by_cases fits : buf.length.toNat + bytes.length ≤ buf.capacity.toNat
  · rw [if_neg fun short => (kept.tooLong small).mp short fits, if_pos fits]
    cases bytes with
    | nil => rw [appendedNothing]; rfl
    | cons first rest =>
      have some_ : UInt64.ofNat (first :: rest).length > 0 := by
        rw [gt_iff_lt, UInt64.lt_iff_toNat_lt, UInt64.toNat_ofNat', Nat.mod_eq_of_lt small]
        exact Nat.succ_pos _
      rw [if_pos some_]
      rfl
  · rw [if_pos ((kept.tooLong small).mpr fits), if_neg fits]

theorem scanNulEnd (src : Bytes) (count : Nat) :
    scanNul src count = if (cString src).length < count then some (cString src).length else none := by
  induction src generalizing count with
  | nil => cases count <;> rfl
  | cons byte rest ih =>
    cases count with
    | zero => rfl
    | succ count =>
      rw [scanNul, cString]
      by_cases nul : byte = 0
      · simp [nul]
      · have goesOn : (byte != 0) = true := bne_iff_ne.mpr nul
        have tail : rest.takeWhile (fun byte => byte != 0) = cString rest := rfl
        rw [if_neg nul, ih, List.takeWhile_cons, if_pos goesOn, List.length_cons, tail]
        by_cases inside : (cString rest).length < count
        · rw [if_pos inside, if_pos (by omega)]
          rfl
        · rw [if_neg inside, if_neg (by omega)]
          rfl

theorem takeCString (src : Bytes) : src.take (cString src).length = cString src :=
  (List.prefix_iff_eq_take.mp (List.takeWhile_prefix _)).symm

theorem concatPushes (kept : Kept buf) (src : Bytes) :
    rteStringConcat (some buf) (some src) = pushed buf (cString src) := by
  have within := kept.lengthLe
  rw [rteStringConcat, pushed, kept.valid, if_neg (by decide), scanNulEnd, kept.roomLeft]
  by_cases fits : buf.length.toNat + (cString src).length ≤ buf.capacity.toNat
  · rw [if_pos (by omega), if_pos fits]
    dsimp only
    rw [takeCString]
    rfl
  · rw [if_neg (by omega), if_neg fits]

theorem cStrTerminates (kept : Kept buf) (old : Bytes) :
    rteStringCStr (some buf) (some old) =
      if buf.length ≥ buf.capacity then (.resourceExhausted, some buf, some old)
      else (.ok, some (terminated buf), (terminated buf).data) := by
  rw [rteStringCStr, kept.valid, if_neg (by decide)]
  rfl

theorem copyInPuts (kept : Kept buf) {src : Bytes} {srcLen : UInt64} (given : srcLen.toNat ≤ src.length) :
    rteBufferCopyIn (some buf) (some src) srcLen = put buf (src.take srcLen.toNat) := by
  obtain ⟨bytes, data, _⟩ := kept.backed
  have size : (src.take srcLen.toNat).length = srcLen.toNat := by rw [List.length_take, Nat.min_eq_left given]
  rw [rteBufferCopyIn, atPointer, put, size, data]
  by_cases fits : srcLen.toNat ≤ buf.capacity.toNat
  · have within : ¬srcLen > buf.capacity := fun over_ => absurd (UInt64.lt_iff_toNat_lt.mp over_) (Nat.not_lt.mpr fits)
    rw [if_pos fits]
    dsimp only
    rw [if_neg within, replaced, size, UInt64.ofNat_toNat, data]
    rfl
  · rw [if_neg fits]
    dsimp only
    rw [if_pos (UInt64.lt_iff_toNat_lt.mpr (Nat.lt_of_not_le fits))]

theorem copyNPuts (kept : Kept buf) {text : Bytes} (small : text.length < 2 ^ 64) :
    rteStringCopyN (some buf) (some text) (UInt64.ofNat text.length) = put buf text := by
  have size : (UInt64.ofNat text.length).toNat = text.length := by rw [UInt64.toNat_ofNat', Nat.mod_eq_of_lt small]
  have copied := @copyInPuts _ kept text (UInt64.ofNat text.length) size.le
  rw [size, List.take_length] at copied
  exact copied

theorem copyPuts (kept : Kept buf) (src : Bytes) : rteStringCopy (some buf) (some src) = put buf (cString src) := by
  have bound := buf.capacity.toNat_lt
  rw [rteStringCopy, kept.valid, if_neg (by decide), scanNulEnd]
  by_cases fits : (cString src).length ≤ buf.capacity.toNat
  · have size := sizeOfFits fits
    rw [if_pos (Nat.lt_succ_of_le fits)]
    dsimp only [rteStringCopyN]
    rw [copyInPuts kept (by rw [size]; exact (List.takeWhile_prefix _).length_le), size, takeCString]
  · rw [if_neg fun less => fits (Nat.le_of_lt_succ less), put, if_neg fits]

end Buffer

end PlatformRte.Utils
