import PlatformRte.Utils.Kept
import PlatformRte.Utils.Words
import PlatformRte.Lib.Machine

/-! Calls on one buffer in any order and with any arguments, null pointers among them: the
buffer stays well kept, a refused call changes nothing, and a number that was written stays
readable until its place is given up. -/
namespace PlatformRte.Utils
open Bytes

inductive BufferOp where
  | bufferInit (storage : Option Bytes) (capacity : UInt64)
  | bufferClear
  | bufferSetLength (length : UInt64)
  | bufferCopyIn (src : Option Bytes) (srcLen : UInt64)
  | bufferCopyOut (dest : Option Bytes) (destCapacity : UInt64) (outCopied : Option UInt64)
  | bufferAsConst (outView : Option RteConstBuffer)
  | bufferWriteU16Le (value : UInt16)
  | bufferWriteU16Be (value : UInt16)
  | bufferWriteU32Le (value : UInt32)
  | bufferWriteU32Be (value : UInt32)
  | bufferWriteU64Le (value : UInt64)
  | bufferWriteU64Be (value : UInt64)
  | bufferReadU16Le (offset : UInt64) (outValue : Option UInt16)
  | bufferReadU16Be (offset : UInt64) (outValue : Option UInt16)
  | bufferReadU32Le (offset : UInt64) (outValue : Option UInt32)
  | bufferReadU32Be (offset : UInt64) (outValue : Option UInt32)
  | bufferReadU64Le (offset : UInt64) (outValue : Option UInt64)
  | bufferReadU64Be (offset : UInt64) (outValue : Option UInt64)
  | stringInit (storage : Option Bytes) (capacity : UInt64)
  | stringClear
  | stringCStr (outCstr : Option Bytes)
  | stringCopyN (src : Option Bytes) (srcLen : UInt64)
  | stringCopy (src : Option Bytes)
  | stringConcat (src : Option Bytes)
  | stringCompare (other : Option RteString) (outCmp : Option Int32)
  | stringCompareTo (other : Option RteString) (outCmp : Option Int32)
  | stringFindChar (c : UInt8) (outFound : Option Bool) (outIndex : Option UInt64)
  | stringFindSubstr (needle : Option RteString) (outFound : Option Bool) (outIndex : Option UInt64)
  | stringFindIn (haystack : Option RteString) (outFound : Option Bool) (outIndex : Option UInt64)
  | stringSplitNext (delimiter : UInt8) (ioCursor : Option UInt64) (outToken : Option Token)
      (outHasToken : Option Bool)
  | stringFromU32 (value : UInt32)
  | stringFromI32 (value : Int32)
  | stringFromU64 (value : UInt64)
  | stringFromI64 (value : Int64)
  | stringAppendU32 (value : UInt32)
  | stringAppendI32 (value : Int32)
  | stringAppendU64 (value : UInt64)
  | stringAppendI64 (value : Int64)
  | stringAppendHexU32 (value : UInt32) (minDigits : UInt8)
  | stringToU32 (outValue : Option UInt32)
  | stringToI32 (outValue : Option Int32)
  | stringToU64 (outValue : Option UInt64)
  | stringToI64 (outValue : Option Int64)

namespace BufferOp

/- What the caller owes: the storage and the source have the sizes that come with them. -/
def Promised : BufferOp → Prop
  | bufferInit (some storage) capacity | stringInit (some storage) capacity => capacity.toNat ≤ storage.length
  | bufferCopyIn (some src) srcLen | stringCopyN (some src) srcLen => srcLen.toNat ≤ src.length
  | _ => True

def replaces : BufferOp → Bool
  | bufferInit .. | bufferClear | bufferSetLength .. | bufferCopyIn .. | stringInit .. | stringClear
  | stringCopyN .. | stringCopy .. | stringFromU32 .. | stringFromI32 .. | stringFromU64 .. | stringFromI64 .. => true
  | _ => false

-- What only reads the buffer takes it as a pointer to const.
def call (buf : Option RteBuffer) : BufferOp → RteStatus × Option RteBuffer
  | bufferInit storage capacity => rteBufferInit buf storage capacity
  | bufferClear => rteBufferClear buf
  | bufferSetLength length => rteBufferSetLength buf length
  | bufferCopyIn src srcLen => rteBufferCopyIn buf src srcLen
  | bufferCopyOut dest destCapacity outCopied => ((rteBufferCopyOut buf dest destCapacity outCopied).1, buf)
  | bufferAsConst outView => ((rteBufferAsConst buf outView).1, buf)
  | bufferWriteU16Le value => rteBufferWriteU16Le buf value
  | bufferWriteU16Be value => rteBufferWriteU16Be buf value
  | bufferWriteU32Le value => rteBufferWriteU32Le buf value
  | bufferWriteU32Be value => rteBufferWriteU32Be buf value
  | bufferWriteU64Le value => rteBufferWriteU64Le buf value
  | bufferWriteU64Be value => rteBufferWriteU64Be buf value
  | bufferReadU16Le offset outValue => ((rteBufferReadU16Le buf offset outValue).1, buf)
  | bufferReadU16Be offset outValue => ((rteBufferReadU16Be buf offset outValue).1, buf)
  | bufferReadU32Le offset outValue => ((rteBufferReadU32Le buf offset outValue).1, buf)
  | bufferReadU32Be offset outValue => ((rteBufferReadU32Be buf offset outValue).1, buf)
  | bufferReadU64Le offset outValue => ((rteBufferReadU64Le buf offset outValue).1, buf)
  | bufferReadU64Be offset outValue => ((rteBufferReadU64Be buf offset outValue).1, buf)
  | stringInit storage capacity => rteStringInit buf storage capacity
  | stringClear => rteStringClear buf
  | stringCStr outCstr => let (st, str, _) := rteStringCStr buf outCstr; (st, str)
  | stringCopyN src srcLen => rteStringCopyN buf src srcLen
  | stringCopy src => rteStringCopy buf src
  | stringConcat src => rteStringConcat buf src
  | stringCompare other outCmp => ((rteStringCompare buf other outCmp).1, buf)
  | stringCompareTo other outCmp => ((rteStringCompare other buf outCmp).1, buf)
  | stringFindChar c outFound outIndex => ((rteStringFindChar buf c outFound outIndex).1, buf)
  | stringFindSubstr needle outFound outIndex => ((rteStringFindSubstr buf needle outFound outIndex).1, buf)
  | stringFindIn haystack outFound outIndex => ((rteStringFindSubstr haystack buf outFound outIndex).1, buf)
  | stringSplitNext delimiter ioCursor outToken outHasToken =>
    ((rteStringSplitNext buf delimiter ioCursor outToken outHasToken).1, buf)
  | stringFromU32 value => rteStringFromU32 buf value
  | stringFromI32 value => rteStringFromI32 buf value
  | stringFromU64 value => rteStringFromU64 buf value
  | stringFromI64 value => rteStringFromI64 buf value
  | stringAppendU32 value => rteStringAppendU32 buf value
  | stringAppendI32 value => rteStringAppendI32 buf value
  | stringAppendU64 value => rteStringAppendU64 buf value
  | stringAppendI64 value => rteStringAppendI64 buf value
  | stringAppendHexU32 value minDigits => rteStringAppendHexU32 buf value minDigits
  | stringToU32 outValue => ((rteStringToU32 buf outValue).1, buf)
  | stringToI32 outValue => ((rteStringToI32 buf outValue).1, buf)
  | stringToU64 outValue => ((rteStringToU64 buf outValue).1, buf)
  | stringToI64 outValue => ((rteStringToI64 buf outValue).1, buf)

end BufferOp

structure BufferCall where
  null : Bool
  op : BufferOp

/- A call is on the buffer, or on the null pointer and then the buffer is not touched. -/
def answer (buf : RteBuffer) (call : BufferCall) : RteStatus :=
  (call.op.call (if call.null then none else some buf)).1

def bufferStep (buf : RteBuffer) (call : BufferCall) : RteBuffer :=
  if call.null then buf else (call.op.call (some buf)).2.getD buf

inductive Extends (buf : RteBuffer) : RteStatus × Option RteBuffer → Prop
  | same (st : RteStatus) : Extends buf (st, some buf)
  | pushed (text : Bytes) : Extends buf (pushed buf text)
  | terminated (spare : buf.length < buf.capacity) : Extends buf (.ok, some (terminated buf))

section Outcomes
variable {buf : RteBuffer}

theorem extendsCall (kept : Kept buf) {op : BufferOp} (keeps : op.replaces = false) :
    Extends buf (op.call (some buf)) := by
  have appends {text : Bytes} {r : RteStatus × Option RteBuffer} (same : r = pushed buf text) : Extends buf r :=
    same ▸ .pushed text
  cases op with
  | bufferWriteU16Le | bufferWriteU16Be => exact appends (appendBytesPushes kept (show 2 < 2 ^ 64 by decide))
  | bufferWriteU32Le | bufferWriteU32Be => exact appends (appendBytesPushes kept (show 4 < 2 ^ 64 by decide))
  | bufferWriteU64Le value => exact appends (appendBytesPushes kept (by rw [u64LeBytesAre, leLength]; decide))
  | bufferWriteU64Be value =>
    exact appends (appendBytesPushes kept (by rw [u64BeBytesAre, List.length_reverse, leLength]; decide))
  | stringCStr outCstr =>
    cases outCstr with
    | none => exact .same _
    | some old =>
      rw [BufferOp.call, cStrTerminates kept]
      by_cases full : buf.length ≥ buf.capacity
      · rw [if_pos full]
        exact .same _
      · rw [if_neg full]
        exact .terminated (UInt64.not_le.mp full)
  | stringConcat src =>
    cases src with
    | none => exact .same _
    | some src => exact appends (concatPushes kept src)
  | stringAppendU32 | stringAppendU64 =>
    exact appends (stringAppendPushes kept (lt_of_le_of_lt (u64DigitsLength _) (by decide)))
  | stringAppendI32 | stringAppendI64 =>
    exact appends (stringAppendPushes kept (lt_of_le_of_lt (i64DigitsLength _) (by decide)))
  | stringAppendHexU32 => exact appends (stringAppendPushes kept (lt_of_le_of_lt (hexDigitsLength _ _) (by decide)))
  | bufferInit | bufferClear | bufferSetLength | bufferCopyIn | stringInit | stringClear | stringCopyN | stringCopy
  | stringFromU32 | stringFromI32 | stringFromU64 | stringFromI64 => cases keeps
  | bufferCopyOut | bufferAsConst | bufferReadU16Le | bufferReadU16Be | bufferReadU32Le | bufferReadU32Be
  | bufferReadU64Le | bufferReadU64Be | stringCompare | stringCompareTo | stringFindChar | stringFindSubstr
  | stringFindIn | stringSplitNext | stringToU32 | stringToI32 | stringToU64 | stringToI64 => exact .same _

theorem Extends.outcome {r : RteStatus × Option RteBuffer} (extends_ : Extends buf r) (kept : Kept buf) :
    ∃ st buf', r = (st, some buf') ∧ Outcome buf st buf' ∧ contentOf buf <+: contentOf buf' := by
  cases extends_ with
  | same st => exact ⟨st, buf, rfl, .same st, List.prefix_refl _⟩
  | terminated spare =>
    exact ⟨.ok, _, rfl, .terminated spare, by rw [terminatedContent kept]⟩
  | pushed text =>
    rw [Utils.pushed]
    by_cases fits : buf.length.toNat + text.length ≤ buf.capacity.toNat
    · rw [if_pos fits]
      exact ⟨.ok, _, rfl, .appended text fits, appendedContent kept fits ▸ List.prefix_append _ _⟩
    · rw [if_neg fits]
      exact ⟨_, buf, rfl, .same _, List.prefix_refl _⟩

def Comes (buf : RteBuffer) (r : RteStatus × Option RteBuffer) : Prop :=
  ∃ st buf', r = (st, some buf') ∧ Outcome buf st buf'

theorem initComes (storage : Option Bytes) (capacity : UInt64)
    (promised : ∀ bytes, storage = some bytes → capacity.toNat ≤ bytes.length) :
    Comes buf (rteBufferInit (some buf) storage capacity) := by
  rw [rteBufferInit, atPointer]
  cases storage with
  | none => exact ⟨_, _, rfl, .same _⟩
  | some bytes =>
    by_cases nothing : capacity = 0
    · rw [if_pos (Or.inr nothing)]
      exact ⟨_, _, rfl, .same _⟩
    · rw [if_neg fun bad => bad.elim (fun null => by cases null) nothing]
      exact ⟨_, _, rfl, .bound bytes capacity (promised bytes rfl)⟩

theorem clearComes (kept : Kept buf) : Comes buf (rteBufferClear (some buf)) := by
  rw [rteBufferClear, atPointer, kept.valid, if_neg (by decide)]
  exact ⟨_, _, rfl, .marked 0 (UInt64.le_iff_toNat_le.mpr (Nat.zero_le _))⟩

theorem setLengthComes (kept : Kept buf) (length : UInt64) : Comes buf (rteBufferSetLength (some buf) length) := by
  obtain ⟨bytes, data, _⟩ := kept.backed
  have there : ¬buf.data.isNone = true := by simp [data]
  rw [rteBufferSetLength, atPointer, if_neg there]
  by_cases long : length > buf.capacity
  · rw [if_pos long]
    exact ⟨_, _, rfl, .same _⟩
  · rw [if_neg long]
    exact ⟨_, _, rfl, .marked length (UInt64.not_lt.mp long)⟩

theorem putComes (text : Bytes) : Comes buf (put buf text) := by
  rw [put]
  by_cases fits : text.length ≤ buf.capacity.toNat
  · rw [if_pos fits]
    exact ⟨_, _, rfl, .replaced text fits⟩
  · rw [if_neg fits]
    exact ⟨_, _, rfl, .same _⟩

theorem copyInComes (kept : Kept buf) (src : Option Bytes) (srcLen : UInt64)
    (promised : ∀ bytes, src = some bytes → srcLen.toNat ≤ bytes.length) :
    Comes buf (rteBufferCopyIn (some buf) src srcLen) := by
  cases src with
  | none =>
    obtain ⟨bytes, data, _⟩ := kept.backed
    refine ⟨.invalidParam, buf, ?_, .same _⟩
    rw [rteBufferCopyIn, atPointer, data]
  | some src => exact copyInPuts kept (promised src rfl) ▸ putComes _

theorem callComes (kept : Kept buf) {op : BufferOp} (promised : op.Promised) : Comes buf (op.call (some buf)) := by
  have puts {text : Bytes} {r : RteStatus × Option RteBuffer} (same : r = put buf text) : Comes buf r :=
    same ▸ putComes text
  cases gives : op.replaces with
  | false =>
    obtain ⟨st, buf', same, outcome, _⟩ := (extendsCall kept gives).outcome kept
    exact ⟨st, buf', same, outcome⟩
  | true =>
    cases op with
    | bufferInit storage capacity | stringInit storage capacity =>
      exact initComes storage capacity (by rintro bytes rfl; exact promised)
    | bufferClear | stringClear => exact clearComes kept
    | bufferSetLength length => exact setLengthComes kept length
    | bufferCopyIn src srcLen => exact copyInComes kept src srcLen (by rintro bytes rfl; exact promised)
    | stringCopyN src srcLen =>
      cases src with
      | none => exact ⟨_, _, rfl, .same _⟩
      | some src => exact puts (copyInPuts kept promised)
    | stringCopy src =>
      cases src with
      | none => exact ⟨_, _, rfl, .same _⟩
      | some src => exact puts (copyPuts kept src)
    | stringFromU32 | stringFromU64 => exact puts (copyNPuts kept (lt_of_le_of_lt (u64DigitsLength _) (by decide)))
    | stringFromI32 | stringFromI64 => exact puts (copyNPuts kept (lt_of_le_of_lt (i64DigitsLength _) (by decide)))
    | _ => cases gives

theorem nullAnswers {call : BufferCall} (null : call.null = true) : bufferStep buf call = buf := by
  rw [bufferStep, null, if_pos rfl]

theorem callAnswers {call : BufferCall} (object : call.null = false) {st : RteStatus} {buf' : RteBuffer}
    (same : call.op.call (some buf) = (st, some buf')) : answer buf call = st ∧ bufferStep buf call = buf' := by
  rw [answer, bufferStep, object, if_neg (by decide), if_neg (by decide), same]
  exact ⟨rfl, rfl⟩

theorem stepKept (kept : Kept buf) {call : BufferCall} (promised : call.op.Promised) : Kept (bufferStep buf call) := by
  cases object : call.null with
  | true => rwa [nullAnswers object]
  | false =>
    obtain ⟨st, buf', same, outcome⟩ := callComes kept promised
    rw [(callAnswers object same).2]
    exact outcome.kept kept

theorem refusedStep (kept : Kept buf) {call : BufferCall} (promised : call.op.Promised) (bad : answer buf call ≠ .ok) :
    bufferStep buf call = buf := by
  cases object : call.null with
  | true => exact nullAnswers object
  | false =>
    obtain ⟨st, buf', same, outcome⟩ := callComes kept promised
    rw [(callAnswers object same).1] at bad
    rw [(callAnswers object same).2]
    exact outcome.refused bad

theorem stepExtends (kept : Kept buf) {call : BufferCall} (promised : call.op.Promised)
    (keeps : call.op.replaces = true → answer buf call ≠ .ok) : contentOf buf <+: contentOf (bufferStep buf call) := by
  cases object : call.null with
  | true => rw [nullAnswers object]
  | false =>
    cases gives : call.op.replaces with
    | true => rw [refusedStep kept promised (keeps gives)]
    | false =>
      obtain ⟨st, buf', same, _, front⟩ := (extendsCall kept gives).outcome kept
      rwa [(callAnswers object same).2]

end Outcomes

def bufferRun (buf : RteBuffer) (calls : List BufferCall) : RteBuffer := Machine.run bufferStep buf calls

def Keeps (buf : RteBuffer) (calls : List BufferCall) : Prop :=
  Machine.Always bufferStep (fun now call => call.op.replaces = true → answer now call ≠ .ok) buf calls

section Runs
variable {buf : RteBuffer} {calls : List BufferCall}

theorem runKept (kept : Kept buf) (promised : ∀ call ∈ calls, call.op.Promised) : Kept (bufferRun buf calls) := by
  induction calls using List.reverseRecOn with
  | nil => exact kept
  | append_singleton calls call ih =>
    rw [bufferRun, Machine.runSnoc]
    exact stepKept (ih fun earlier inside => promised earlier (List.mem_append_left _ inside))
      (promised call (List.mem_append_right _ (List.mem_singleton.mpr rfl)))

theorem runExtends (kept : Kept buf) (promised : ∀ call ∈ calls, call.op.Promised) (keeps : Keeps buf calls) :
    contentOf buf <+: contentOf (bufferRun buf calls) := by
  induction calls using List.reverseRecOn with
  | nil => exact List.prefix_refl _
  | append_singleton calls call ih =>
    obtain ⟨before, last⟩ := Machine.alwaysSnoc.mp keeps
    have owed : ∀ earlier ∈ calls, earlier.op.Promised := fun earlier inside =>
      promised earlier (List.mem_append_left _ inside)
    have front := ih owed before
    rw [bufferRun, Machine.runSnoc]
    exact front.trans (stepExtends (runKept kept owed)
      (promised call (List.mem_append_right _ (List.mem_singleton.mpr rfl))) last)

end Runs
end PlatformRte.Utils
