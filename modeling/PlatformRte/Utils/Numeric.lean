import PlatformRte.Utils.String
import PlatformRte.Lib.Decimal

/-! Numbers as text: the digits a value is printed as, and what a text is parsed to. -/
namespace PlatformRte.Utils
open Bytes Decimal

def revDigits : Nat → UInt64 → Bytes
  | 0, _ => []
  | room + 1, v => if v > 0 then (0x30 + (v % 10).toUInt8) :: revDigits room (v / 10) else []

def rteStringFormatU64Digits (value : UInt64) : Bytes :=
  if value = 0 then [0x30] else (revDigits 20 value).reverse

-- The negation does not overflow: the value plus one is above the lowest.
def rteStringFormatI64 (value : Int64) : Bytes :=
  if value < 0 then minus :: rteStringFormatU64Digits ((-(value + 1)).toUInt64 + 1)
  else rteStringFormatU64Digits value.toUInt64

def rteStringFromU64 (dest : Option RteString) (value : UInt64) : RteStatus × Option RteString :=
  match dest with
  | none => (.invalidParam, none)
  | some dest =>
    let digits := rteStringFormatU64Digits value
    rteStringCopyN (some dest) (some digits) (UInt64.ofNat digits.length)

def rteStringFromI64 (dest : Option RteString) (value : Int64) : RteStatus × Option RteString :=
  match dest with
  | none => (.invalidParam, none)
  | some dest =>
    let buf := rteStringFormatI64 value
    rteStringCopyN (some dest) (some buf) (UInt64.ofNat buf.length)

def rteStringFromU32 (dest : Option RteString) (value : UInt32) : RteStatus × Option RteString :=
  match dest with
  | none => (.invalidParam, none)
  | some dest => rteStringFromU64 (some dest) value.toUInt64

def rteStringFromI32 (dest : Option RteString) (value : Int32) : RteStatus × Option RteString :=
  match dest with
  | none => (.invalidParam, none)
  | some dest => rteStringFromI64 (some dest) value.toInt64

-- As for the buffer, but no bytes to append leave the string as it is.
def rteStringAppendBytes (dest : Option RteString) (src : Bytes) : RteStatus × Option RteString :=
  atPointer dest fun dest =>
    if rteBufferIsValid (some dest) = false then (.invalidParam, dest)
    else if UInt64.ofNat src.length > dest.capacity - dest.length then (.resourceExhausted, dest)
    else if UInt64.ofNat src.length > 0 then
      (.ok, { dest with
        data := dest.data.map fun data => patch data dest.length.toNat src
        length := dest.length + UInt64.ofNat src.length })
    else (.ok, dest)

def rteStringAppendU64 (dest : Option RteString) (value : UInt64) : RteStatus × Option RteString :=
  rteStringAppendBytes dest (rteStringFormatU64Digits value)

def rteStringAppendI64 (dest : Option RteString) (value : Int64) : RteStatus × Option RteString :=
  rteStringAppendBytes dest (rteStringFormatI64 value)

def rteStringAppendU32 (dest : Option RteString) (value : UInt32) : RteStatus × Option RteString :=
  rteStringAppendU64 dest value.toUInt64

def rteStringAppendI32 (dest : Option RteString) (value : Int32) : RteStatus × Option RteString :=
  rteStringAppendI64 dest value.toInt64

def hexLc : Bytes := ascii "0123456789abcdef"

def realDigits : Nat → UInt32 → Nat
  | 0, _ => 1
  | room + 1, w => if w > 0x0F then realDigits room (w >>> 4) + 1 else 1

def hexWidth (minDigits : UInt8) : Nat := min (max minDigits.toNat 1) 8

def rteStringFormatHexU32 (value : UInt32) (minDigits : UInt8) : Bytes :=
  let real := realDigits 8 value
  let n := max real (hexWidth minDigits)
  (List.range n).map fun i =>
    let shift := n - 1 - i
    if shift ≥ real then 0x30 else byteAt hexLc ((value >>> (4 * UInt32.ofNat shift)) &&& 0x0F).toNat

def rteStringAppendHexU32 (dest : Option RteString) (value : UInt32) (minDigits : UInt8) :
    RteStatus × Option RteString :=
  rteStringAppendBytes dest (rteStringFormatHexU32 value minDigits)

def addDecimal (acc : UInt64) (c : UInt8) : Except RteStatus UInt64 :=
  if c < 0x30 ∨ c > 0x39 then .error .invalidParam
  else
    let digit := (c - 0x30).toUInt64
    if acc > (0xFFFFFFFFFFFFFFFF - digit) / 10 then .error .valueOutOfRange
    else .ok (acc * 10 + digit)

def storeResult {α : Type} (outValue : Option α) : Except RteStatus α → RteStatus × Option α
  | .error st => (st, outValue)
  | .ok value => (.ok, some value)

def rteStringToU64 (str : Option RteString) (outValue : Option UInt64) : RteStatus × Option UInt64 :=
  match str, outValue with
  | some str, some _ =>
    if rteBufferIsValid (some str) = false then (.invalidParam, outValue)
    else if str.length = 0 then (.invalidParam, outValue)
    else storeResult outValue ((contentOf str).foldlM addDecimal 0)
  | _, _ => (.invalidParam, outValue)

def int64Max : UInt64 := 0x7FFFFFFFFFFFFFFF

def signedOf (negative : Bool) (acc : UInt64) : Except RteStatus Int64 :=
  if negative = true then
    let minMagnitude := int64Max + 1
    if acc > minMagnitude then .error .valueOutOfRange
    else if acc = minMagnitude then .ok Int64.minValue
    else .ok (-acc.toInt64)
  else if acc > int64Max then .error .valueOutOfRange
  else .ok acc.toInt64

def rteStringToI64 (str : Option RteString) (outValue : Option Int64) : RteStatus × Option Int64 :=
  match str, outValue with
  | some str, some _ =>
    if rteBufferIsValid (some str) = false then (.invalidParam, outValue)
    else if str.length = 0 then (.invalidParam, outValue)
    else
      let negative := byteAt (contentOf str) 0 == minus
      let start : UInt64 := if negative then 1 else 0
      if start ≥ str.length then (.invalidParam, outValue)
      else storeResult outValue (((contentOf str).drop start.toNat).foldlM addDecimal 0 >>= signedOf negative)
  | _, _ => (.invalidParam, outValue)

def rteCastU64ToU32 (value : UInt64) (out : Option UInt32) : RteStatus × Option UInt32 :=
  match out with
  | none => (.invalidParam, none)
  | some _ =>
    if value > 0xFFFFFFFF then (.valueOutOfRange, out)
    else (.ok, some value.toUInt32)

def rteCastI64ToI32 (value : Int64) (out : Option Int32) : RteStatus × Option Int32 :=
  match out with
  | none => (.invalidParam, none)
  | some _ =>
    if value < Int32.minValue.toInt64 then (.valueOutOfRange, out)
    else if value > Int32.maxValue.toInt64 then (.valueOutOfRange, out)
    else (.ok, some value.toInt32)

-- The value is first parsed into a local of the wider type.
def rteStringToU32 (str : Option RteString) (outValue : Option UInt32) : RteStatus × Option UInt32 :=
  match outValue with
  | none => (.invalidParam, none)
  | some _ =>
    match rteStringToU64 str (some 0) with
    | (.ok, some v) => rteCastU64ToU32 v outValue
    | (st, _) => (st, outValue)

def rteStringToI32 (str : Option RteString) (outValue : Option Int32) : RteStatus × Option Int32 :=
  match outValue with
  | none => (.invalidParam, none)
  | some _ =>
    match rteStringToI64 str (some 0) with
    | (.ok, some v) => rteCastI64ToI32 v outValue
    | (st, _) => (st, outValue)

theorem revDigitsLength (room : Nat) (v : UInt64) : (revDigits room v).length ≤ room := by
  induction room generalizing v with
  | zero => exact le_rfl
  | succ room ih =>
    rw [revDigits]
    split
    · exact Nat.succ_le_succ (ih _)
    · exact Nat.zero_le _

theorem u64DigitsLength (value : UInt64) : (rteStringFormatU64Digits value).length ≤ 20 := by
  rw [rteStringFormatU64Digits]
  split
  · decide
  · rw [List.length_reverse]
    exact revDigitsLength 20 value

theorem i64DigitsLength (value : Int64) : (rteStringFormatI64 value).length ≤ 21 := by
  rw [rteStringFormatI64]
  split
  · exact Nat.succ_le_succ (u64DigitsLength _)
  · exact le_trans (u64DigitsLength _) (by decide)

theorem realDigitsBound (room : Nat) (w : UInt32) : realDigits room w ≤ room + 1 := by
  induction room generalizing w with
  | zero => exact le_rfl
  | succ room ih =>
    rw [realDigits]
    split
    · exact Nat.succ_le_succ (ih _)
    · omega

theorem hexDigitsLength (value : UInt32) (minDigits : UInt8) : (rteStringFormatHexU32 value minDigits).length ≤ 9 := by
  have real := realDigitsBound 8 value
  simp only [rteStringFormatHexU32, List.length_map, List.length_range, hexWidth]
  omega

end PlatformRte.Utils
