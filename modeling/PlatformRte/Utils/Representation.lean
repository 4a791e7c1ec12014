import PlatformRte.Utils.BufferCalls

/-! From its initialisation on a buffer keeps its representation, and each number that was
written is read where it was written. -/
namespace PlatformRte.Utils
open Bytes

section ReadBack
variable {buf : RteBuffer} {α : Type}

theorem peekGives (kept : Kept buf) {offset n : UInt64} (inside : offset.toNat + n.toNat ≤ buf.length.toNat) :
    rteBufferPeekBytes (some buf) offset n = .ok (((contentOf buf).drop offset.toNat).take n.toNat) := by
  obtain ⟨bytes, data, room⟩ := kept.backed
  have before : offset ≤ buf.length := UInt64.le_iff_toNat_le.mpr (by omega)
  have left : (buf.length - offset).toNat = buf.length.toNat - offset.toNat := UInt64.toNat_sub_of_le _ _ before
  have allowed : ¬(offset > buf.length ∨ buf.length - offset < n) := by
    rintro (past | short)
    · exact absurd before (UInt64.not_le.mpr past)
    · have less := UInt64.lt_iff_toNat_lt.mp short
      omega
  have within : n.toNat ≤ buf.length.toNat - offset.toNat := by omega
  simp only [rteBufferPeekBytes, Option.bind_some, data, if_neg allowed, contentOf, Option.getD_some]
  rw [List.drop_take, List.take_take, Nat.min_eq_left within]

theorem readWithGives {later : RteBuffer} {n : UInt64} {decode : Bytes → α} {bytes : Bytes} {value : α}
    (kept : Kept buf) (keptLater : Kept later) (front : contentOf buf ++ bytes <+: contentOf later)
    (size : bytes.length = n.toNat) (trip : decode bytes = value) (out : α) :
    readWith n decode (some later) buf.length (some out) = (.ok, some value) := by
  obtain ⟨rest, whole⟩ := front
  have start : buf.length.toNat = (contentOf buf).length := kept.contentLength.symm
  have long := congrArg List.length whole
  rw [List.length_append, List.length_append, keptLater.contentLength, kept.contentLength, size] at long
  have there : ((contentOf later).drop buf.length.toNat).take n.toNat = bytes := by
    rw [← whole, List.append_assoc, start, List.drop_left, ← size, List.take_left]
  rw [readWith, peekGives keptLater (by omega), there]
  dsimp only
  rw [trip]

def ReadsBack (write : Option RteBuffer → α → RteStatus × Option RteBuffer)
    (read : Option RteBuffer → UInt64 → Option α → RteStatus × Option α) (buf : RteBuffer) : Prop :=
  ∀ value written, write (some buf) value = (.ok, some written) →
    ∀ calls, (∀ call ∈ calls, call.op.Promised) → Keeps written calls →
      (∀ out, read (some (bufferRun written calls)) buf.length (some out) = (.ok, some value)) ∧
        (contentOf (bufferRun written calls)).take buf.length.toNat = contentOf buf

theorem readsBack (kept : Kept buf) {n : UInt64} {encode : α → Bytes} {decode : Bytes → α}
    (sizes : ∀ value, (encode value).length = n.toNat) (trip : ∀ value, decode (encode value) = value) :
    ReadsBack (fun buf value => rteBufferAppendBytes buf (encode value)) (readWith n decode) buf := by
  intro value written wrote calls promised keeps
  dsimp only at wrote
  have small : (encode value).length < 2 ^ 64 := sizes value ▸ n.toNat_lt
  rw [appendBytesPushes kept small, pushed] at wrote
  by_cases fits : buf.length.toNat + (encode value).length ≤ buf.capacity.toNat
  · rw [if_pos fits] at wrote
    cases wrote
    have keptNow := Outcome.kept (.appended (encode value) fits) kept
    have front := runExtends keptNow promised keeps
    rw [appendedContent kept fits] at front
    refine ⟨readWithGives kept (runKept keptNow promised) front (sizes value) (trip value), ?_⟩
    obtain ⟨rest, whole⟩ := front
    rw [← whole, List.append_assoc]
    exact List.take_left' kept.contentLength
  · rw [if_neg fits] at wrote
    cases wrote

end ReadBack

theorem initKept {fresh buf : RteBuffer} {storage : Bytes} {capacity : UInt64}
    (room : capacity.toNat ≤ storage.length)
    (initialised : rteBufferInit (some fresh) (some storage) capacity = (.ok, some buf)) : Kept buf := by
  rw [rteBufferInit, atPointer] at initialised
  by_cases nothing : capacity = 0
  · rw [if_pos (Or.inr nothing)] at initialised
    cases initialised
  · rw [if_neg fun bad => bad.elim (fun null => by cases null) nothing] at initialised
    cases initialised
    exact ⟨⟨storage, rfl, room⟩, UInt64.le_iff_toNat_le.mpr (Nat.zero_le _)⟩

/- Whatever is called after a successful initialisation: the length stays within the capacity,
a call that is not answered with ok changes nothing, and every number reads back. -/
theorem representationKept {fresh first : RteBuffer} {storage : Bytes} {capacity : UInt64}
    (room : capacity.toNat ≤ storage.length)
    (initialised : rteBufferInit (some fresh) (some storage) capacity = (.ok, some first))
    {calls : List BufferCall} (promised : ∀ call ∈ calls, call.op.Promised) :
    let now := bufferRun first calls
    now.length ≤ now.capacity ∧
      (∀ call : BufferCall, call.op.Promised → answer now call ≠ .ok → bufferStep now call = now) ∧
      ReadsBack rteBufferWriteU16Le rteBufferReadU16Le now ∧ ReadsBack rteBufferWriteU16Be rteBufferReadU16Be now ∧
      ReadsBack rteBufferWriteU32Le rteBufferReadU32Le now ∧ ReadsBack rteBufferWriteU32Be rteBufferReadU32Be now ∧
      ReadsBack rteBufferWriteU64Le rteBufferReadU64Le now ∧ ReadsBack rteBufferWriteU64Be rteBufferReadU64Be now := by
  have kept := runKept (initKept room initialised) promised
  refine ⟨kept.within, fun call owed bad => refusedStep kept owed bad, ?_, ?_, ?_, ?_, ?_, ?_⟩
  · exact readsBack kept (fun _ => rfl) u16LeTrip
  · exact readsBack kept (fun _ => rfl) u16BeTrip
  · exact readsBack kept (fun _ => rfl) u32LeTrip
  · exact readsBack kept (fun _ => rfl) u32BeTrip
  · exact readsBack kept (fun value => by rw [u64LeBytesAre, leLength]; rfl) u64LeTrip
  · exact readsBack kept (fun value => by rw [u64BeBytesAre, List.length_reverse, leLength]; rfl) u64BeTrip

theorem representationKeptEight :
    let now := bufferRun ⟨some (List.replicate 8 0), 8, 0⟩
      [⟨false, .bufferWriteU32Be 0x01020304⟩, ⟨false, .bufferWriteU64Le 7⟩, ⟨true, .stringConcat (some [0x41])⟩]
    now.length ≤ now.capacity ∧
      (∀ call : BufferCall, call.op.Promised → answer now call ≠ .ok → bufferStep now call = now) ∧
      ReadsBack rteBufferWriteU16Le rteBufferReadU16Le now ∧ ReadsBack rteBufferWriteU16Be rteBufferReadU16Be now ∧
      ReadsBack rteBufferWriteU32Le rteBufferReadU32Le now ∧ ReadsBack rteBufferWriteU32Be rteBufferReadU32Be now ∧
      ReadsBack rteBufferWriteU64Le rteBufferReadU64Le now ∧ ReadsBack rteBufferWriteU64Be rteBufferReadU64Be now :=
  @representationKept ⟨none, 0, 0⟩ _ (List.replicate 8 0) 8 (by decide) (by decide) _ (by simp [BufferOp.Promised])

end PlatformRte.Utils
