import Mathlib.Data.UInt
import Mathlib.Tactic.Ring

/-! Byte strings with numbers in them, least significant byte first, and buffers
that a shorter message overwrites only in front. -/
namespace PlatformRte

abbrev Bytes := List UInt8

namespace Bytes

def leBytes : Nat → Nat → Bytes
  | 0, _ => []
  | width + 1, value => UInt8.ofNat value :: leBytes width (value / 256)

def leValue : Bytes → Nat
  | [] => 0
  | b :: rest => b.toNat + 256 * leValue rest

-- The field of the given width at an offset; bytes past the end count as absent.
def field (raw : Bytes) (offset width : Nat) : Bytes := (raw.drop offset).take width

def readLe (raw : Bytes) (offset width : Nat) : Nat := leValue (field raw offset width)

def overwrite (buffer message : Bytes) : Bytes := message ++ buffer.drop message.length

def patch (raw : Bytes) (offset : Nat) (bytes : Bytes) : Bytes :=
  raw.take offset ++ (bytes ++ raw.drop (offset + bytes.length))

def fit (size : Nat) (written : Bytes) : Bytes := written.take size ++ List.replicate (size - written.length) 0

def cString (raw : Bytes) : Bytes := raw.takeWhile fun byte => byte != 0

def ascii (text : String) : Bytes := text.toList.map fun letter => UInt8.ofNat letter.toNat

theorem eachByte {p : UInt8 → Prop} [DecidablePred p] {text : Bytes} (all : (text.all fun byte => p byte) = true) :
    ∀ byte ∈ text, p byte := by
  simpa using all

@[simp] theorem leLength (width value : Nat) : (leBytes width value).length = width := by
  induction width generalizing value with
  | zero => rfl
  | succ width ih => simp [leBytes, ih]

theorem leValueBytes (width value : Nat) : leValue (leBytes width value) = value % 256 ^ width := by
  induction width generalizing value with
  | zero => simp [leBytes, leValue, Nat.mod_one]
  | succ width ih =>
    have low : (UInt8.ofNat value).toNat = value % 256 := by simp
    rw [leBytes, leValue, ih, low, pow_succ', Nat.mod_mul]

theorem leValueJoin (front back : Bytes) :
    leValue (front ++ back) = leValue front + 256 ^ front.length * leValue back := by
  induction front with
  | nil => simp [leValue]
  | cons byte rest ih =>
    rw [List.cons_append, leValue, leValue, ih, List.length_cons, pow_succ']
    ring

theorem leBytesValue (raw : Bytes) : leBytes raw.length (leValue raw) = raw := by
  induction raw with
  | nil => rfl
  | cons b rest ih =>
    have low : UInt8.ofNat (b.toNat + 256 * leValue rest) = b := by
      rw [← UInt8.toNat_inj, UInt8.toNat_ofNat', Nat.add_mul_mod_self_left]
      exact Nat.mod_eq_of_lt b.toNat_lt
    have high : (b.toNat + 256 * leValue rest) / 256 = leValue rest := by
      have bound := b.toNat_lt
      omega
    rw [leValue, List.length_cons, leBytes, low, high, ih]

theorem leValueBound (raw : Bytes) : leValue raw < 256 ^ raw.length := by
  induction raw with
  | nil => simp [leValue]
  | cons b rest ih =>
    have bound := b.toNat_lt
    rw [leValue, List.length_cons, pow_succ']
    omega

/- Bits are counted from the lowest bit of the first byte. -/
def bitAt (raw : Bytes) (n : Nat) : Bool := (raw.getD (n / 8) 0).toNat.testBit (n % 8)

theorem leValueTestBit (raw : Bytes) (n : Nat) : (leValue raw).testBit n = bitAt raw n := by
  induction raw generalizing n with
  | nil => simp [leValue, bitAt]
  | cons b rest ih =>
    have parts : leValue (b :: rest) = 2 ^ 8 * leValue rest + b.toNat := Nat.add_comm _ _
    rw [parts, Nat.testBit_two_pow_mul_add _ b.toNat_lt]
    by_cases first : n < 8
    · rw [if_pos first, bitAt, Nat.div_eq_of_lt first, Nat.mod_eq_of_lt first]
      rfl
    · have next : n / 8 = (n - 8) / 8 + 1 := by omega
      have place : (n - 8) % 8 = n % 8 := by omega
      rw [if_neg first, ih, bitAt, bitAt, place, next, List.getD_cons_succ]

theorem fieldJoin (raw : Bytes) (offset m n : Nat) :
    field raw offset m ++ field raw (offset + m) n = field raw offset (m + n) := by
  rw [field, field, field, List.take_add, List.drop_drop]

theorem fieldLength {raw : Bytes} {offset width : Nat} (fits : offset + width ≤ raw.length) :
    (field raw offset width).length = width := by
  rw [field, List.length_take, List.length_drop]
  omega

theorem leBytesRead {raw : Bytes} {offset width : Nat} (fits : offset + width ≤ raw.length) :
    leBytes width (readLe raw offset width) = field raw offset width := by
  have back := leBytesValue (field raw offset width)
  rwa [fieldLength fits] at back

@[simp] theorem fitLength (size : Nat) (written : Bytes) : (fit size written).length = size := by
  simp only [fit, List.length_append, List.length_take, List.length_replicate]
  omega

theorem patchLength {raw bytes : Bytes} {offset : Nat} (room : offset + bytes.length ≤ raw.length) :
    (patch raw offset bytes).length = raw.length := by
  simp only [patch, List.length_append, List.length_take, List.length_drop]
  omega

theorem patchTake {raw bytes : Bytes} {offset : Nat} (room : offset + bytes.length ≤ raw.length) :
    (patch raw offset bytes).take (offset + bytes.length) = raw.take offset ++ bytes := by
  have front : (raw.take offset ++ bytes).length = offset + bytes.length := by
    rw [List.length_append, List.length_take]
    omega
  rw [patch, ← List.append_assoc]
  exact List.take_left' front

theorem fieldAppend (front middle rest : Bytes) :
    field (front ++ (middle ++ rest)) front.length middle.length = middle := by
  simp [field]

theorem readLeAppend (front rest : Bytes) (width value : Nat) (bound : value < 256 ^ width) :
    readLe (front ++ (leBytes width value ++ rest)) front.length width = value := by
  have cut := fieldAppend front (leBytes width value) rest
  rw [leLength] at cut
  rw [readLe, cut, leValueBytes, Nat.mod_eq_of_lt bound]

end Bytes
end PlatformRte
