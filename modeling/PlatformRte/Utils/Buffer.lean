import PlatformRte.Status
import PlatformRte.Lib.Bytes

/-! The bounded buffer: a view of storage its caller owns, how much of it there is and how
much is in use. A pointer is an option, and an output pointer holds what is behind it. -/
namespace PlatformRte.Utils
open Bytes

structure RteBuffer where
  data : Option Bytes
  capacity : UInt64
  length : UInt64
  deriving DecidableEq, Repr

structure RteConstBuffer where
  data : Bytes
  length : UInt64
  deriving DecidableEq, Repr

/- What is done to the object behind a pointer; every function refuses the null pointer. -/
def atPointer {α : Type} (object : Option α) (act : α → RteStatus × α) : RteStatus × Option α :=
  match object with
  | none => (.invalidParam, none)
  | some object => ((act object).1, some (act object).2)

def rteBufferIsValid : Option RteBuffer → Bool
  | none => false
  | some buf => buf.data.isSome && decide (buf.length ≤ buf.capacity)

def rteBufferInit (buf : Option RteBuffer) (storage : Option Bytes) (capacity : UInt64) :
    RteStatus × Option RteBuffer :=
  atPointer buf fun buf =>
    if storage.isNone ∨ capacity = 0 then (.invalidParam, buf)
    else (.ok, ⟨storage, capacity, 0⟩)

def rteBufferClear (buf : Option RteBuffer) : RteStatus × Option RteBuffer :=
  atPointer buf fun buf =>
    if rteBufferIsValid (some buf) = false then (.invalidParam, buf)
    else (.ok, { buf with length := 0 })

def rteBufferSetLength (buf : Option RteBuffer) (length : UInt64) : RteStatus × Option RteBuffer :=
  atPointer buf fun buf =>
    if buf.data.isNone then (.invalidParam, buf)
    else if length > buf.capacity then (.resourceExhausted, buf)
    else (.ok, { buf with length })

-- A copy of no bytes leaves the storage as it is.
def rteBufferCopyIn (buf : Option RteBuffer) (src : Option Bytes) (srcLen : UInt64) :
    RteStatus × Option RteBuffer :=
  atPointer buf fun buf =>
    match buf.data, src with
    | some data, some src =>
      if srcLen > buf.capacity then (.resourceExhausted, buf)
      else (.ok, { buf with data := some (patch data 0 (src.take srcLen.toNat)), length := srcLen })
    | _, _ => (.invalidParam, buf)

def rteBufferCopyOut (buf : Option RteBuffer) (dest : Option Bytes) (destCapacity : UInt64)
    (outCopied : Option UInt64) : RteStatus × Option Bytes × Option UInt64 :=
  match buf.bind RteBuffer.data, buf, dest, outCopied with
  | some data, some buf, some into, some _ =>
    if buf.length > destCapacity then (.resourceExhausted, dest, some 0)
    else (.ok, some (patch into 0 (data.take buf.length.toNat)), some buf.length)
  | _, _, _, _ => (.invalidParam, dest, outCopied)

def rteBufferAsConst (buf : Option RteBuffer) (outView : Option RteConstBuffer) :
    RteStatus × Option RteConstBuffer :=
  match buf.bind RteBuffer.data, buf, outView with
  | some data, some buf, some _ =>
    if buf.length > buf.capacity then (.internalError, outView)
    else (.ok, some ⟨data, buf.length⟩)
  | _, _, _ => (.invalidParam, outView)

def rteBufferAppendBytes (buf : Option RteBuffer) (bytes : Bytes) : RteStatus × Option RteBuffer :=
  atPointer buf fun buf =>
    if rteBufferIsValid (some buf) = false then (.invalidParam, buf)
    else if buf.capacity - buf.length < UInt64.ofNat bytes.length then (.resourceExhausted, buf)
    else (.ok, { buf with
      data := buf.data.map fun dest => patch dest buf.length.toNat bytes
      length := buf.length + UInt64.ofNat bytes.length })

def rteBufferPeekBytes (buf : Option RteBuffer) (offset n : UInt64) : Except RteStatus Bytes :=
  match buf.bind RteBuffer.data, buf with
  | some src, some buf =>
    if offset > buf.length ∨ buf.length - offset < n then .error .resourceExhausted
    else .ok ((src.drop offset.toNat).take n.toNat)
  | _, _ => .error .invalidParam

def u16LeBytes (value : UInt16) : Bytes := [(value &&& 0xFF).toUInt8, ((value >>> 8) &&& 0xFF).toUInt8]

def u16BeBytes (value : UInt16) : Bytes := [((value >>> 8) &&& 0xFF).toUInt8, (value &&& 0xFF).toUInt8]

def u32LeBytes (value : UInt32) : Bytes :=
  [(value &&& 0xFF).toUInt8, ((value >>> 8) &&& 0xFF).toUInt8,
    ((value >>> 16) &&& 0xFF).toUInt8, ((value >>> 24) &&& 0xFF).toUInt8]

def u32BeBytes (value : UInt32) : Bytes :=
  [((value >>> 24) &&& 0xFF).toUInt8, ((value >>> 16) &&& 0xFF).toUInt8,
    ((value >>> 8) &&& 0xFF).toUInt8, (value &&& 0xFF).toUInt8]

def u64LeBytes (value : UInt64) : Bytes :=
  (List.range 8).map fun i => ((value >>> (8 * UInt64.ofNat i)) &&& 0xFF).toUInt8

def u64BeBytes (value : UInt64) : Bytes :=
  (List.range 8).map fun i => ((value >>> ((8 - 1 - UInt64.ofNat i) * 8)) &&& 0xFF).toUInt8

def rteBufferWriteU16Le (buf : Option RteBuffer) (value : UInt16) := rteBufferAppendBytes buf (u16LeBytes value)
def rteBufferWriteU16Be (buf : Option RteBuffer) (value : UInt16) := rteBufferAppendBytes buf (u16BeBytes value)
def rteBufferWriteU32Le (buf : Option RteBuffer) (value : UInt32) := rteBufferAppendBytes buf (u32LeBytes value)
def rteBufferWriteU32Be (buf : Option RteBuffer) (value : UInt32) := rteBufferAppendBytes buf (u32BeBytes value)
def rteBufferWriteU64Le (buf : Option RteBuffer) (value : UInt64) := rteBufferAppendBytes buf (u64LeBytes value)
def rteBufferWriteU64Be (buf : Option RteBuffer) (value : UInt64) := rteBufferAppendBytes buf (u64BeBytes value)

def byteAt (bytes : Bytes) (i : Nat) : UInt8 := bytes.getD i 0

def u16OfLe (bytes : Bytes) : UInt16 := ((byteAt bytes 0).toUInt32 ||| ((byteAt bytes 1).toUInt32 <<< 8)).toUInt16

def u16OfBe (bytes : Bytes) : UInt16 := (((byteAt bytes 0).toUInt32 <<< 8) ||| (byteAt bytes 1).toUInt32).toUInt16

def u32OfLe (bytes : Bytes) : UInt32 :=
  (byteAt bytes 0).toUInt32 ||| ((byteAt bytes 1).toUInt32 <<< 8)
    ||| ((byteAt bytes 2).toUInt32 <<< 16) ||| ((byteAt bytes 3).toUInt32 <<< 24)

def u32OfBe (bytes : Bytes) : UInt32 :=
  ((byteAt bytes 0).toUInt32 <<< 24) ||| ((byteAt bytes 1).toUInt32 <<< 16)
    ||| ((byteAt bytes 2).toUInt32 <<< 8) ||| (byteAt bytes 3).toUInt32

def u64OfLe (bytes : Bytes) : UInt64 :=
  (List.range 8).foldl (fun v i => v ||| ((byteAt bytes i).toUInt64 <<< (8 * UInt64.ofNat i))) 0

def u64OfBe (bytes : Bytes) : UInt64 :=
  (List.range 8).foldl (fun v i => v ||| ((byteAt bytes i).toUInt64 <<< ((8 - 1 - UInt64.ofNat i) * 8))) 0

def readWith {α : Type} (n : UInt64) (decode : Bytes → α) (buf : Option RteBuffer) (offset : UInt64)
    (outValue : Option α) : RteStatus × Option α :=
  match outValue with
  | none => (.invalidParam, none)
  | some _ =>
    match rteBufferPeekBytes buf offset n with
    | .error st => (st, outValue)
    | .ok bytes => (.ok, some (decode bytes))

def rteBufferReadU16Le := readWith 2 u16OfLe
def rteBufferReadU16Be := readWith 2 u16OfBe
def rteBufferReadU32Le := readWith 4 u32OfLe
def rteBufferReadU32Be := readWith 4 u32OfBe
def rteBufferReadU64Le := readWith 8 u64OfLe
def rteBufferReadU64Be := readWith 8 u64OfBe

end PlatformRte.Utils
