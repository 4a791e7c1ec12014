import PlatformRte.Utils.Buffer

/-! The bounded string: a buffer whose length leaves the NUL out. A C string that is passed in
is its bytes, and the NUL stands behind the last of them. -/
namespace PlatformRte.Utils
open Bytes

-- The structure of the source has the buffer as its one member.
abbrev RteString := RteBuffer

def rteStringInit (str : Option RteString) (storage : Option Bytes) (capacity : UInt64) :
    RteStatus × Option RteString :=
  match str with
  | none => (.invalidParam, none)
  | some str => rteBufferInit (some str) storage capacity

def rteStringClear (str : Option RteString) : RteStatus × Option RteString :=
  match str with
  | none => (.invalidParam, none)
  | some str => rteBufferClear (some str)

def rteStringLength : Option RteString → UInt64
  | none => 0
  | some str => str.length

-- The pointer given back is to the storage, which now has a NUL behind the content.
def rteStringCStr (str : Option RteString) (outCstr : Option Bytes) : RteStatus × Option RteString × Option Bytes :=
  match str, outCstr with
  | some str, some _ =>
    if rteBufferIsValid (some str) = false then (.invalidParam, some str, outCstr)
    else if str.length ≥ str.capacity then (.resourceExhausted, some str, outCstr)
    else
      let data := str.data.map fun data => patch data str.length.toNat [0]
      (.ok, some { str with data }, data)
  | _, _ => (.invalidParam, str, outCstr)

def rteStringCopyN (dest : Option RteString) (src : Option Bytes) (srcLen : UInt64) :
    RteStatus × Option RteString :=
  match dest, src with
  | some dest, some src => rteBufferCopyIn (some dest) (some src) srcLen
  | _, _ => (.invalidParam, dest)

def scanNul : Bytes → Nat → Option Nat
  | _, 0 => none
  | [], _ + 1 => some 0
  | byte :: rest, count + 1 => if byte = 0 then some 0 else (scanNul rest count).map (· + 1)

-- The places 0 to the capacity are looked at, both included.
def rteStringCopy (dest : Option RteString) (src : Option Bytes) : RteStatus × Option RteString :=
  match dest, src with
  | some dest, some src =>
    if rteBufferIsValid (some dest) = false then (.invalidParam, some dest)
    else
      match scanNul src (dest.capacity.toNat + 1) with
      | none => (.resourceExhausted, some dest)
      | some i => rteStringCopyN (some dest) (some src) (UInt64.ofNat i)
  | _, _ => (.invalidParam, dest)

def rteStringConcat (dest : Option RteString) (src : Option Bytes) : RteStatus × Option RteString :=
  match dest, src with
  | some dest, some src =>
    if rteBufferIsValid (some dest) = false then (.invalidParam, some dest)
    else
      match scanNul src ((dest.capacity - dest.length).toNat + 1) with
      | none => (.resourceExhausted, some dest)
      | some i => (.ok, some { dest with
          data := dest.data.map fun data => patch data dest.length.toNat (src.take i)
          length := dest.length + UInt64.ofNat i })
  | _, _ => (.invalidParam, dest)

def contentOf (str : RteString) : Bytes := (str.data.getD []).take str.length.toNat

def firstDifference : Bytes → Bytes → Int32
  | a :: as, b :: bs => if a ≠ b then (if a < b then -1 else 1) else firstDifference as bs
  | _, _ => 0

def rteStringCompare (a b : Option RteString) (outCmp : Option Int32) : RteStatus × Option Int32 :=
  match a, b, outCmp with
  | some a, some b, some _ =>
    if rteBufferIsValid (some a) = false ∨ rteBufferIsValid (some b) = false then (.invalidParam, outCmp)
    else
      let result := firstDifference (contentOf a) (contentOf b)
      if result ≠ 0 then (.ok, some result)
      else if a.length < b.length then (.ok, some (-1))
      else if a.length > b.length then (.ok, some 1)
      else (.ok, some 0)
  | _, _, _ => (.invalidParam, outCmp)

def rteStringFindChar (str : Option RteString) (c : UInt8) (outFound : Option Bool) (outIndex : Option UInt64) :
    RteStatus × Option Bool × Option UInt64 :=
  match str, outFound, outIndex with
  | some str, some _, some _ =>
    if rteBufferIsValid (some str) = false then (.invalidParam, outFound, outIndex)
    else
      match (contentOf str).findIdx? (· == c) with
      | some i => (.ok, some true, some (UInt64.ofNat i))
      | none => (.ok, some false, outIndex)
  | _, _, _ => (.invalidParam, outFound, outIndex)

def rteStringFindSubstr (haystack needle : Option RteString) (outFound : Option Bool) (outIndex : Option UInt64) :
    RteStatus × Option Bool × Option UInt64 :=
  match haystack, needle, outFound, outIndex with
  | some haystack, some needle, some _, some _ =>
    if rteBufferIsValid (some haystack) = false ∨ rteBufferIsValid (some needle) = false then
      (.invalidParam, outFound, outIndex)
    else if needle.length = 0 then (.ok, some true, some 0)
    else if needle.length > haystack.length then (.ok, some false, outIndex)
    else
      let starts := List.range ((haystack.length - needle.length).toNat + 1)
      match starts.find? fun i => field (contentOf haystack) i needle.length.toNat == contentOf needle with
      | some i => (.ok, some true, some (UInt64.ofNat i))
      | none => (.ok, some false, outIndex)
  | _, _, _, _ => (.invalidParam, outFound, outIndex)

def toDelimiter (data : Bytes) (delimiter : UInt8) : Nat → Nat → Nat
  | 0, i => i
  | left + 1, i => if byteAt data i ≠ delimiter then toDelimiter data delimiter left (i + 1) else i

structure Token where
  start : UInt64
  length : UInt64
  deriving DecidableEq, Repr

def rteStringSplitNext (str : Option RteString) (delimiter : UInt8) (ioCursor : Option UInt64)
    (outToken : Option Token) (outHasToken : Option Bool) :
    RteStatus × Option UInt64 × Option Token × Option Bool :=
  match str, ioCursor, outToken, outHasToken with
  | some str, some cursor, some _, some _ =>
    if rteBufferIsValid (some str) = false then (.invalidParam, ioCursor, outToken, outHasToken)
    else if cursor > str.length then (.invalidParam, ioCursor, outToken, outHasToken)
    else if cursor = str.length then (.ok, ioCursor, outToken, some false)
    else
      let i := UInt64.ofNat
        (toDelimiter (str.data.getD []) delimiter (str.length - cursor).toNat cursor.toNat)
      (.ok, some (if i < str.length then i + 1 else i), some ⟨cursor, i - cursor⟩, some true)
  | _, _, _, _ => (.invalidParam, ioCursor, outToken, outHasToken)

end PlatformRte.Utils
