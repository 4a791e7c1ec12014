import PlatformRte.Utils.Buffer

/-! The numbers in a buffer: what a write lays down is the value's bytes from one end or the
other, and what a read builds is the value of the bytes it peeked. -/
namespace PlatformRte.Utils
open Bytes

theorem byteOfWord (value : UInt64) {i : Nat} (inWord : i < 8) :
    ((value >>> (8 * UInt64.ofNat i)) &&& 0xFF).toUInt8 = UInt8.ofNat (value.toNat / 256 ^ i) := by
  have amount : (8 * UInt64.ofNat i).toNat % 64 = 8 * i := by
    rw [UInt64.toNat_mul, UInt64.toNat_ofNat']
    have small : i % 2 ^ 64 = i := Nat.mod_eq_of_lt (by omega)
    rw [small]
    change 8 * i % 2 ^ 64 % 64 = 8 * i
    omega
  apply UInt8.toNat_inj.mp
  rw [UInt64.toNat_toUInt8, UInt64.toNat_and, UInt64.toNat_shiftRight, amount, Nat.shiftRight_eq_div_pow,
    Nat.pow_mul, UInt8.toNat_ofNat']
  change (value.toNat / (2 ^ 8) ^ i &&& (2 ^ 8 - 1)) % 2 ^ 8 = _
  rw [Nat.and_two_pow_sub_one_eq_mod, Nat.mod_mod]
  rfl

theorem leBytesAt (width value : Nat) :
    leBytes width value = (List.range width).map fun i => UInt8.ofNat (value / 256 ^ i) := by
  induction width generalizing value with
  | zero => rfl
  | succ width ih =>
    rw [leBytes, ih, List.range_succ_eq_map, List.map_cons, List.map_map, pow_zero, Nat.div_one]
    congr 1
    refine List.map_congr_left fun i _ => ?_
    rw [Function.comp_apply, Nat.pow_succ', Nat.div_div_eq_div_mul]

theorem u64LeBytesAre (value : UInt64) : u64LeBytes value = leBytes 8 value.toNat := by
  rw [leBytesAt, u64LeBytes]
  exact List.map_congr_left fun i inWord => byteOfWord value (List.mem_range.mp inWord)

theorem u64BeBytesAre (value : UInt64) : u64BeBytes value = (leBytes 8 value.toNat).reverse := by
  rw [← u64LeBytesAre]
  rfl

theorem u32LeBytesAre (value : UInt32) : u32LeBytes value = leBytes 4 value.toNat := by
  simp only [u32LeBytes, leBytes, List.cons.injEq, and_true]
  refine ⟨?_, ?_, ?_, ?_⟩ <;> apply UInt8.toNat_inj.mp <;>
    simp [Nat.shiftRight_eq_div_pow, Nat.div_div_eq_div_mul, Nat.and_two_pow_sub_one_eq_mod _ 8]

theorem u32BeBytesAre (value : UInt32) : u32BeBytes value = (leBytes 4 value.toNat).reverse := by
  rw [← u32LeBytesAre]
  rfl

theorem u16LeBytesAre (value : UInt16) : u16LeBytes value = leBytes 2 value.toNat := by
  simp only [u16LeBytes, leBytes, List.cons.injEq, and_true]
  refine ⟨?_, ?_⟩ <;> apply UInt8.toNat_inj.mp <;>
    simp [Nat.shiftRight_eq_div_pow, Nat.and_two_pow_sub_one_eq_mod _ 8]

theorem u16BeBytesAre (value : UInt16) : u16BeBytes value = (leBytes 2 value.toNat).reverse := by
  rw [← u16LeBytesAre]
  rfl

theorem orShift {v : Nat} (byte i : Nat) (low : v < 256 ^ i) : v ||| byte <<< (8 * i) = v + 256 ^ i * byte := by
  have below : v < 2 ^ (8 * i) := by rwa [Nat.pow_mul]
  rw [Nat.or_comm, ← Nat.shiftLeft_add_eq_or_of_lt below, Nat.shiftLeft_eq, Nat.pow_mul, Nat.add_comm, Nat.mul_comm]

theorem shiftedByte (byte : UInt8) {i : Nat} (inWord : i < 8) {by_ : UInt64} (amount : by_.toNat = 8 * i) :
    (byte.toUInt64 <<< by_).toNat = byte.toNat <<< (8 * i) := by
  have small : byte.toNat * 2 ^ (8 * i) < 2 ^ 8 * 2 ^ (8 * 7) :=
    Nat.mul_lt_mul_of_lt_of_le byte.toNat_lt (Nat.pow_le_pow_right (by decide) (by omega)) (Nat.two_pow_pos _)
  rw [UInt64.toNat_shiftLeft, amount, Nat.mod_eq_of_lt (show 8 * i < 64 by omega), Nat.shiftLeft_eq, Nat.shiftLeft_eq,
    UInt8.toNat_toUInt64]
  exact Nat.mod_eq_of_lt small

theorem leValueAppend (front : Bytes) (byte : UInt8) :
    leValue (front ++ [byte]) = leValue front + 256 ^ front.length * byte.toNat := by
  induction front with
  | nil => simp [leValue]
  | cons first rest ih =>
    rw [List.cons_append, leValue, leValue, ih, List.length_cons, pow_succ']
    ring

theorem takeNext {bytes : Bytes} {i : Nat} (inside : i < bytes.length) :
    bytes.take (i + 1) = bytes.take i ++ [byteAt bytes i] := by
  rw [List.take_add_one, byteAt, List.getD_eq_getElem?_getD, List.getElem?_eq_getElem inside]
  rfl

theorem u64OfLeValue {bytes : Bytes} (size : bytes.length = 8) : (u64OfLe bytes).toNat = leValue bytes := by
  have read (i : Nat) (inWord : i ≤ 8) : ((List.range i).foldl
      (fun v i => v ||| ((byteAt bytes i).toUInt64 <<< (8 * UInt64.ofNat i))) 0).toNat = leValue (bytes.take i) := by
    induction i with
    | zero => rfl
    | succ i ih =>
      have amount : (8 * UInt64.ofNat i).toNat = 8 * i := by
        rw [UInt64.toNat_mul, UInt64.toNat_ofNat', Nat.mod_eq_of_lt (show i < 2 ^ 64 by omega)]
        exact Nat.mod_eq_of_lt (show 8 * i < 2 ^ 64 by omega)
      have taken : (bytes.take i).length = i := by rw [List.length_take]; omega
      have low := leValueBound (bytes.take i)
      rw [taken] at low
      rw [List.range_succ, List.foldl_append, List.foldl_cons, List.foldl_nil, UInt64.toNat_or, ih (by omega),
        shiftedByte _ (by omega) amount, orShift _ _ low, takeNext (by omega), leValueAppend, taken]
  have whole := read 8 le_rfl
  rwa [List.take_of_length_le size.le] at whole

theorem u64OfBeValue {bytes : Bytes} (size : bytes.length = 8) : (u64OfBe bytes).toNat = leValue bytes.reverse := by
  have read (i : Nat) (inWord : i ≤ 8) : ((List.range i).foldl
      (fun v i => v ||| ((byteAt bytes i).toUInt64 <<< ((8 - 1 - UInt64.ofNat i) * 8))) 0).toNat
        = leValue (bytes.take i).reverse * 256 ^ (8 - i) := by
    induction i with
    | zero => simp [leValue]
    | succ i ih =>
      have amount : ((8 - 1 - UInt64.ofNat i) * 8).toNat = 8 * (7 - i) := by
        have index : (UInt64.ofNat i).toNat = i := by
          rw [UInt64.toNat_ofNat', Nat.mod_eq_of_lt (show i < 2 ^ 64 by omega)]
        have seven : (8 - 1 - UInt64.ofNat i).toNat = 7 - i := by
          rw [UInt64.toNat_sub_of_le _ _ (by rw [UInt64.le_iff_toNat_le, index]; change i ≤ 7; omega), index]
          rfl
        rw [UInt64.toNat_mul, seven, Nat.mul_comm]
        exact Nat.mod_eq_of_lt (show 8 * (7 - i) < 2 ^ 64 by omega)
      have low : (byteAt bytes i).toNat < 256 := (byteAt bytes i).toNat_lt
      have above : 8 - i = (7 - i) + 1 := by omega
      have next : 8 - (i + 1) = 7 - i := by omega
      rw [List.range_succ, List.foldl_append, List.foldl_cons, List.foldl_nil, UInt64.toNat_or, ih (by omega),
        shiftedByte _ (by omega) amount, takeNext (by omega), List.reverse_append, List.reverse_singleton,
        List.singleton_append, leValue, next, above]
      have placed : (byteAt bytes i).toNat <<< (8 * (7 - i)) < 2 ^ (8 * (7 - i + 1)) := by
        rw [Nat.shiftLeft_eq, Nat.mul_add, Nat.pow_add, Nat.mul_comm]
        exact Nat.mul_lt_mul_of_pos_left low (Nat.two_pow_pos _)
      have high : leValue (bytes.take i).reverse * 256 ^ (7 - i + 1)
          = leValue (bytes.take i).reverse <<< (8 * (7 - i + 1)) := by
        rw [Nat.shiftLeft_eq, Nat.pow_mul]
      rw [high, ← Nat.shiftLeft_add_eq_or_of_lt placed, Nat.shiftLeft_eq, Nat.shiftLeft_eq, Nat.pow_mul, Nat.pow_mul,
        pow_succ]
      ring
  have whole := read 8 le_rfl
  rwa [List.take_of_length_le size.le, Nat.sub_self, pow_zero, Nat.mul_one] at whole

theorem shiftedHalf (byte : UInt8) (i : Nat) (inWord : i < 4) {by_ : UInt32} (amount : by_.toNat = 8 * i) :
    (byte.toUInt32 <<< by_).toNat = byte.toNat <<< (8 * i) := by
  have small : byte.toNat * 2 ^ (8 * i) < 2 ^ 8 * 2 ^ (8 * 3) :=
    Nat.mul_lt_mul_of_lt_of_le byte.toNat_lt (Nat.pow_le_pow_right (by decide) (by omega)) (Nat.two_pow_pos _)
  rw [UInt32.toNat_shiftLeft, amount, Nat.mod_eq_of_lt (show 8 * i < 32 by omega), Nat.shiftLeft_eq, Nat.shiftLeft_eq,
    UInt8.toNat_toUInt32]
  exact Nat.mod_eq_of_lt small

theorem u32OfLeValue {bytes : Bytes} (size : bytes.length = 4) : (u32OfLe bytes).toNat = leValue bytes := by
  match bytes, size with
  | [b0, b1, b2, b3], _ =>
    have low0 := b0.toNat_lt
    have low1 := b1.toNat_lt
    have low2 := b2.toNat_lt
    simp only [u32OfLe, byteAt, List.getD_cons_zero, List.getD_cons_succ, UInt32.toNat_or, UInt8.toNat_toUInt32, leValue]
    rw [shiftedHalf b1 1 (by decide) rfl, shiftedHalf b2 2 (by decide) rfl,
      shiftedHalf b3 3 (by decide) rfl, orShift _ 1 (by omega), orShift _ 2 (by omega), orShift _ 3 (by omega)]
    ring

theorem u32OfBeValue {bytes : Bytes} (size : bytes.length = 4) : (u32OfBe bytes).toNat = leValue bytes.reverse := by
  match bytes, size with
  | [b3, b2, b1, b0], _ =>
    have turned : u32OfBe [b3, b2, b1, b0] = u32OfLe [b0, b1, b2, b3] := by
      change b3.toUInt32 <<< 24 ||| b2.toUInt32 <<< 16 ||| b1.toUInt32 <<< 8 ||| b0.toUInt32
        = b0.toUInt32 ||| b1.toUInt32 <<< 8 ||| b2.toUInt32 <<< 16 ||| b3.toUInt32 <<< 24
      generalize b1.toUInt32 <<< 8 = second, b2.toUInt32 <<< 16 = third, b3.toUInt32 <<< 24 = fourth
      ac_rfl
    exact turned ▸ u32OfLeValue rfl

theorem u16OfLeValue {bytes : Bytes} (size : bytes.length = 2) : (u16OfLe bytes).toNat = leValue bytes := by
  match bytes, size with
  | [b0, b1], _ =>
    have low0 := b0.toNat_lt
    have low1 := b1.toNat_lt
    simp only [u16OfLe, byteAt, List.getD_cons_zero, List.getD_cons_succ, UInt32.toNat_toUInt16, UInt32.toNat_or,
      UInt8.toNat_toUInt32, leValue]
    rw [shiftedHalf b1 1 (by decide) rfl, orShift _ 1 (by omega)]
    omega

theorem u16OfBeValue {bytes : Bytes} (size : bytes.length = 2) : (u16OfBe bytes).toNat = leValue bytes.reverse := by
  match bytes, size with
  | [b1, b0], _ =>
    have turned : u16OfBe [b1, b0] = u16OfLe [b0, b1] := by
      simp only [u16OfBe, u16OfLe, byteAt, List.getD_cons_zero, List.getD_cons_succ]
      rw [UInt32.or_comm]
    exact turned ▸ u16OfLeValue rfl

section Trips
variable {β : Type} {number : β → Nat} {width : Nat} {write : β → Bytes} {read : Bytes → β}

theorem leTrip (injective : ∀ a b, number a = number b → a = b) (small : ∀ value, number value < 256 ^ width)
    (writes : ∀ value, write value = leBytes width (number value))
    (reads : ∀ {bytes}, bytes.length = width → number (read bytes) = leValue bytes) (value : β) :
    read (write value) = value := by
  apply injective
  rw [writes, reads (leLength width _), leValueBytes]
  exact Nat.mod_eq_of_lt (small value)

theorem beTrip (injective : ∀ a b, number a = number b → a = b) (small : ∀ value, number value < 256 ^ width)
    (writes : ∀ value, write value = (leBytes width (number value)).reverse)
    (reads : ∀ {bytes}, bytes.length = width → number (read bytes) = leValue bytes.reverse) (value : β) :
    read (write value) = value := by
  apply injective
  rw [writes, reads (by rw [List.length_reverse, leLength]), List.reverse_reverse, leValueBytes]
  exact Nat.mod_eq_of_lt (small value)

end Trips

theorem u16LeTrip (value : UInt16) : u16OfLe (u16LeBytes value) = value :=
  leTrip (fun _ _ => UInt16.toNat_inj.mp) UInt16.toNat_lt u16LeBytesAre u16OfLeValue value

theorem u16BeTrip (value : UInt16) : u16OfBe (u16BeBytes value) = value :=
  beTrip (fun _ _ => UInt16.toNat_inj.mp) UInt16.toNat_lt u16BeBytesAre u16OfBeValue value

theorem u32LeTrip (value : UInt32) : u32OfLe (u32LeBytes value) = value :=
  leTrip (fun _ _ => UInt32.toNat_inj.mp) UInt32.toNat_lt u32LeBytesAre u32OfLeValue value

theorem u32BeTrip (value : UInt32) : u32OfBe (u32BeBytes value) = value :=
  beTrip (fun _ _ => UInt32.toNat_inj.mp) UInt32.toNat_lt u32BeBytesAre u32OfBeValue value

theorem u64LeTrip (value : UInt64) : u64OfLe (u64LeBytes value) = value :=
  leTrip (fun _ _ => UInt64.toNat_inj.mp) UInt64.toNat_lt u64LeBytesAre u64OfLeValue value

theorem u64BeTrip (value : UInt64) : u64OfBe (u64BeBytes value) = value :=
  beTrip (fun _ _ => UInt64.toNat_inj.mp) UInt64.toNat_lt u64BeBytesAre u64OfBeValue value

end PlatformRte.Utils
