import PlatformRte.Lib.Memory
import PlatformRte.Status

/-! The registry of the application state that is handed over: the live fields in the
order of their registration, packed into a buffer one behind the other and unpacked from
it. Sizes and offsets are counted modulo the width of size_t. -/
namespace PlatformRte.StateTransfer
open Bytes Memory

def stateTransferMaxFields : Nat := 8

/- Handed the live memory, the field's address and the output from the field's place on:
that output afterwards, and a status. -/
abbrev StateFieldEncodeFn := Memory → (data : Nat) → (out : Bytes) → (size : UInt64) → Bytes × RteStatus

/- Handed the live memory, the field's address and the input from the field's place on. -/
abbrev StateFieldDecodeFn := Memory → (data : Nat) → (input : Bytes) → (size : UInt64) → Memory × RteStatus

structure StateField where
  name : Option String
  data : Nat
  size : UInt64
  encodeFn : Option StateFieldEncodeFn
  decodeFn : Option StateFieldDecodeFn

structure StateTransferRegistry where
  fields : List StateField
  few : fields.length ≤ stateTransferMaxFields
  sized : ∀ field ∈ fields, field.size ≠ 0
  paired : ∀ field ∈ fields, field.encodeFn.isSome = field.decodeFn.isSome

def stateTransferRegistryInit : StateTransferRegistry where
  fields := []
  few := Nat.zero_le _
  sized := by simp
  paired := by simp

/- data: none for NULL. -/
def registerFieldEx (registry : StateTransferRegistry) (name : Option String) (data : Option Nat) (size : UInt64)
    (encodeFn : Option StateFieldEncodeFn) (decodeFn : Option StateFieldDecodeFn) :
    Except RteStatus StateTransferRegistry :=
  match data with
  | none => .error .invalidParam
  | some data =>
      if sized : size = 0 then .error .invalidParam
      -- both or neither: a raw copy or a codec of its own, never a mix
      else if paired : encodeFn.isSome ≠ decodeFn.isSome then .error .invalidParam
      else if room : stateTransferMaxFields ≤ registry.fields.length then .error .resourceExhausted
      else
        .ok {
          fields := registry.fields ++ [⟨name, data, size, encodeFn, decodeFn⟩]
          few := by
            rw [List.length_append]
            exact Nat.lt_of_not_le room
          sized := by
            simpa [or_imp, forall_and, sized] using registry.sized
          paired := by
            simpa [or_imp, forall_and, not_not.mp paired] using registry.paired }

def registerField (registry : StateTransferRegistry) (name : Option String) (data : Option Nat) (size : UInt64) :
    Except RteStatus StateTransferRegistry := registerFieldEx registry name data size none none

def encodedSizeOf (fields : List StateField) : UInt64 := fields.foldl (fun total field => total + field.size) 0

def stateTransferEncodedSize : Option StateTransferRegistry → UInt64
  | none => 0
  | some registry => encodedSizeOf registry.fields

def encodeField (live : Memory) (field : StateField) (out : Bytes) : Bytes × RteStatus :=
  match field.encodeFn with
  | some encodeFn => encodeFn live field.data out field.size
  | none => (overwrite out (read live field.data field.size.toNat), .ok)

def encodeFields (live : Memory) : List StateField → UInt64 → Bytes → Bytes × Except RteStatus UInt64
  | [], offset, out => (out, .ok offset)
  | field :: rest, offset, out =>
      let done := encodeField live field (out.drop offset.toNat)
      let out := out.take offset.toNat ++ done.1
      if done.2 ≠ .ok then (out, .error done.2) else encodeFields live rest (offset + field.size) out

/- outLen: what it points to, none for NULL. -/
structure EncodeResult where
  out : Option Bytes
  outLen : Option UInt64
  status : RteStatus
  deriving DecidableEq

def stateTransferEncode (registry : Option StateTransferRegistry) (live : Memory) (out : Option Bytes)
    (outSize : UInt64) (outLen : Option UInt64) : EncodeResult :=
  match registry, out with
  | some registry, some buffer =>
      if outSize < stateTransferEncodedSize (some registry) then ⟨some buffer, outLen, .resourceExhausted⟩
      else
        match encodeFields live registry.fields 0 buffer with
        | (buffer, .error status) => ⟨some buffer, outLen, status⟩
        | (buffer, .ok offset) => ⟨some buffer, outLen.map fun _ => offset, .ok⟩
  | _, _ => ⟨out, outLen, .invalidParam⟩

-- One turn of the loop of decode; input bytes past the end count as absent.
def decodeField (live : Memory) (field : StateField) (input : Bytes) : Memory × RteStatus :=
  match field.decodeFn with
  | some decodeFn => decodeFn live field.data input field.size
  | none => (write live field.data (input.take field.size.toNat), .ok)

def decodeFields : List StateField → UInt64 → Bytes → Memory → Memory × RteStatus
  | [], _, _, live => (live, .ok)
  | field :: rest, offset, input, live =>
      let done := decodeField live field (input.drop offset.toNat)
      if done.2 ≠ .ok then done else decodeFields rest (offset + field.size) input done.1

def stateTransferDecode (registry : Option StateTransferRegistry) (input : Option Bytes) (inLen : UInt64)
    (live : Memory) : Memory × RteStatus :=
  match registry, input with
  | some registry, some raw =>
      if inLen < stateTransferEncodedSize (some registry) then (live, .resourceExhausted)
      else decodeFields registry.fields 0 raw live
  | _, _ => (live, .invalidParam)

end PlatformRte.StateTransfer
