import Mathlib.Data.Nat.Bitwise
import Mathlib.Logic.Function.Iterate

/-! Shift registers with feedback that move to the right, as in a reflected cyclic
redundancy check. Bits enter at the low end, least significant first. The register is
linear, and what it does to a difference decides which differences it keeps apart. -/
namespace PlatformRte.ShiftRegister

variable {w : Nat} (feedback : BitVec w)

def shift (s : BitVec w) : BitVec w := if s.getLsbD 0 then (s >>> 1) ^^^ feedback else s >>> 1

def lowBit (w : Nat) (bit : Bool) : BitVec w := BitVec.ofNat w bit.toNat

def feed (s : BitVec w) (bit : Bool) : BitVec w := shift feedback (s ^^^ lowBit w bit)

def feedAll (s : BitVec w) (bits : List Bool) : BitVec w := bits.foldl (feed feedback) s

def bitsOf : Nat → Nat → List Bool
  | 0, _ => []
  | n + 1, value => value.testBit 0 :: bitsOf n (value / 2)

@[simp] theorem bitsLength (n value : Nat) : (bitsOf n value).length = n := by
  induction n generalizing value with
  | zero => rfl
  | succ n ih => simp [bitsOf, ih]

theorem bitsAppend (m n low high : Nat) (small : low < 2 ^ m) :
    bitsOf (m + n) (low + 2 ^ m * high) = bitsOf m low ++ bitsOf n high := by
  induction m generalizing low with
  | zero =>
    have none : low = 0 := by simpa using small
    simp [none, bitsOf]
  | succ m ih =>
    have first : (low + 2 ^ (m + 1) * high).testBit 0 = low.testBit 0 := by
      simp [Nat.testBit_zero, pow_succ', Nat.mul_assoc, Nat.add_mul_mod_self_left]
    have rest : (low + 2 ^ (m + 1) * high) / 2 = low / 2 + 2 ^ m * high := by
      rw [pow_succ', Nat.mul_assoc, Nat.add_mul_div_left _ _ (by decide)]
    have half : low / 2 < 2 ^ m := by
      rw [pow_succ'] at small
      omega
    rw [Nat.succ_add, bitsOf, bitsOf, first, rest, ih _ half, List.cons_append]

theorem bitsXor (n a b : Nat) : bitsOf n (a ^^^ b) = List.zipWith xor (bitsOf n a) (bitsOf n b) := by
  induction n generalizing a b with
  | zero => rfl
  | succ n ih =>
    have half : (a ^^^ b) / 2 = a / 2 ^^^ b / 2 := by
      simpa using Nat.xor_div_two_pow (a := a) (b := b) (n := 1)
    simp only [bitsOf, Nat.testBit_xor, half, ih, List.zipWith_cons_cons]

theorem lowBitXor (a b : Bool) : lowBit w (a ^^ b) = lowBit w a ^^^ lowBit w b := by
  cases a <;> cases b <;> simp [lowBit]

theorem shiftXor (a b : BitVec w) : shift feedback (a ^^^ b) = shift feedback a ^^^ shift feedback b := by
  have swap (x y z : BitVec w) : x ^^^ y ^^^ z = x ^^^ z ^^^ y := by
    rw [BitVec.xor_assoc, BitVec.xor_comm y z, ← BitVec.xor_assoc]
  simp only [shift, BitVec.getLsbD_xor, BitVec.ushiftRight_xor_distrib]
  cases a.getLsbD 0 <;> cases b.getLsbD 0
  · rfl
  · simp [BitVec.xor_assoc]
  · simpa using swap _ _ _
  · simp only [bne_self_eq_false, Bool.false_eq_true, if_false, if_true]
    rw [← BitVec.xor_assoc, swap _ feedback _, BitVec.xor_assoc _ feedback feedback, BitVec.xor_self, BitVec.xor_zero]

theorem shiftZero : shift feedback 0#w = 0#w := by
  simp [shift]

theorem shiftsZero (n : Nat) : (shift feedback)^[n] 0#w = 0#w := Function.iterate_fixed (shiftZero feedback) n

theorem shiftsXor (n : Nat) (a b : BitVec w) :
    (shift feedback)^[n] (a ^^^ b) = (shift feedback)^[n] a ^^^ (shift feedback)^[n] b := by
  induction n generalizing a b with
  | zero => rfl
  | succ n ih => rw [Function.iterate_succ_apply, shiftXor, ih, Function.iterate_succ_apply, Function.iterate_succ_apply]

theorem shiftEven {s : BitVec w} (even : s.getLsbD 0 = false) : shift feedback s = s >>> 1 := by
  simp [shift, even]

theorem shiftsLow (n : Nat) {s : BitVec w} (low : ∀ i < n, s.getLsbD i = false) :
    (shift feedback)^[n] s = s >>> n := by
  induction n with
  | zero => simp
  | succ n ih =>
    have bit : (s >>> n).getLsbD 0 = false := by simpa using low n (Nat.lt_succ_self n)
    rw [Function.iterate_succ_apply', ih fun i less => low i (Nat.lt_succ_of_lt less), shiftEven feedback bit,
      BitVec.shiftRight_add]

theorem shiftsSplit (n : Nat) (s low : BitVec w) (same : ∀ i < n, s.getLsbD i = low.getLsbD i)
    (short : low >>> n = 0#w) : (shift feedback)^[n] s = (s >>> n) ^^^ (shift feedback)^[n] low := by
  have parts : s = (s ^^^ low) ^^^ low := by rw [BitVec.xor_assoc, BitVec.xor_self, BitVec.xor_zero]
  have high : (shift feedback)^[n] (s ^^^ low) = s >>> n := by
    rw [shiftsLow feedback n fun i less => by simp [same i less], BitVec.ushiftRight_xor_distrib, short, BitVec.xor_zero]
  calc (shift feedback)^[n] s
      = (shift feedback)^[n] ((s ^^^ low) ^^^ low) := by rw [← parts]
    _ = (s >>> n) ^^^ (shift feedback)^[n] low := by rw [shiftsXor, high]

theorem feedXor (a b : BitVec w) (x y : Bool) :
    feed feedback (a ^^^ b) (x ^^ y) = feed feedback a x ^^^ feed feedback b y := by
  have swap : a ^^^ b ^^^ (lowBit w x ^^^ lowBit w y) = (a ^^^ lowBit w x) ^^^ (b ^^^ lowBit w y) := by
    rw [BitVec.xor_assoc, ← BitVec.xor_assoc b, BitVec.xor_comm b (lowBit w x), BitVec.xor_assoc (lowBit w x),
      ← BitVec.xor_assoc]
  rw [feed, lowBitXor, swap, shiftXor]
  rfl

theorem feedAllXor (a b : BitVec w) (xs ys : List Bool) (same : xs.length = ys.length) :
    feedAll feedback (a ^^^ b) (List.zipWith xor xs ys) = feedAll feedback a xs ^^^ feedAll feedback b ys := by
  induction xs generalizing a b ys with
  | nil =>
    cases ys with
    | nil => rfl
    | cons y rest => cases same
  | cons x xs ih =>
    cases ys with
    | nil => cases same
    | cons y ys =>
      have rest := ih (feed feedback a x) (feed feedback b y) ys (Nat.succ.inj same)
      rw [← feedXor] at rest
      exact rest

theorem feedAppend (s : BitVec w) (first second : List Bool) :
    feedAll feedback s (first ++ second) = feedAll feedback (feedAll feedback s first) second := by
  simp [feedAll]

theorem lowXor (value : Nat) : (value.testBit 0).toNat ^^^ 2 * (value / 2) = value := by
  apply Nat.eq_of_testBit_eq
  intro i
  cases i with
  | zero => cases bit : value.testBit 0 <;> simp
  | succ i =>
    have none : (value.testBit 0).toNat / 2 = 0 := by cases value.testBit 0 <;> rfl
    rw [Nat.testBit_xor, Nat.testBit_succ, Nat.testBit_succ, Nat.testBit_succ, none,
      Nat.mul_div_cancel_left _ (by decide)]
    simp

theorem feedBits (n : Nat) (s : BitVec w) (value : Nat) (short : value < 2 ^ n) (fits : value < 2 ^ w) :
    feedAll feedback s (bitsOf n value) = (shift feedback)^[n] (s ^^^ BitVec.ofNat w value) := by
  induction n generalizing s value with
  | zero =>
    have none : value = 0 := by simpa using short
    simp [none, bitsOf, feedAll]
  | succ n ih =>
    have halves : BitVec.ofNat w value = lowBit w (value.testBit 0) ^^^ BitVec.ofNat w (2 * (value / 2)) := by
      rw [lowBit, ← BitVec.ofNat_xor, lowXor]
    have even : (BitVec.ofNat w (2 * (value / 2))).getLsbD 0 = false := by
      simp [BitVec.getLsbD_ofNat]
    have half : BitVec.ofNat w (2 * (value / 2)) >>> 1 = BitVec.ofNat w (value / 2) := by
      apply BitVec.eq_of_toNat_eq
      rw [BitVec.toNat_ushiftRight, BitVec.toNat_ofNat, BitVec.toNat_ofNat, Nat.mod_eq_of_lt (by omega),
        Nat.mod_eq_of_lt (by omega), Nat.shiftRight_eq_div_pow]
      omega
    rw [bitsOf, feedAll, List.foldl_cons, ← feedAll, ih _ _ (by rw [pow_succ'] at short; omega) (by omega),
      Function.iterate_succ_apply, halves, ← BitVec.xor_assoc, shiftXor, shiftEven feedback even, half]
    rfl

theorem feedZeros (n : Nat) (s : BitVec w) : feedAll feedback s (bitsOf n 0) = (shift feedback)^[n] s := by
  have fed := feedBits feedback n s 0 (Nat.two_pow_pos n) (Nat.two_pow_pos w)
  rwa [BitVec.xor_zero] at fed

theorem feedPattern (before n value : Nat) (short : value < 2 ^ n) (fits : value < 2 ^ w) :
    feedAll feedback 0#w (bitsOf (before + n) (2 ^ before * value)) =
      (shift feedback)^[n] (BitVec.ofNat w value) := by
  have parts := bitsAppend before n 0 value (Nat.two_pow_pos before)
  rw [Nat.zero_add] at parts
  rw [parts, feedAppend, feedZeros, shiftsZero, feedBits feedback n _ value short fits, BitVec.zero_xor]

theorem shiftToNat (s : BitVec w) : (shift feedback s).toNat =
    if s.getLsbD 0 then s.toNat / 2 ^^^ feedback.toNat else s.toNat / 2 := by
  rw [shift]
  split_ifs <;> simp [Nat.shiftRight_eq_div_pow]

/- The one difference besides none that a shift loses: its low bit feeds back what the
others have become. -/
theorem shiftLostIff (room : 2 * feedback.toNat + 1 < 2 ^ w) (s : BitVec w) :
    shift feedback s = 0#w ↔ s = 0#w ∨ s = BitVec.ofNat w (2 * feedback.toNat + 1) := by
  have odd (bit : s.getLsbD 0 = true) : s.toNat % 2 = 1 := by
    have test : s.toNat.testBit 0 = true := bit
    simpa [Nat.testBit_zero] using test
  have even (bit : s.getLsbD 0 = false) : s.toNat % 2 = 0 := by
    have test : s.toNat.testBit 0 = false := bit
    simpa [Nat.testBit_zero] using test
  simp only [BitVec.toNat_eq, shiftToNat, BitVec.toNat_ofNat, Nat.zero_mod, Nat.mod_eq_of_lt room]
  cases bit : s.getLsbD 0 with
  | true =>
    have low := odd bit
    rw [if_pos rfl, Nat.xor_eq_zero_iff]
    omega
  | false =>
    have low := even bit
    rw [if_neg Bool.false_ne_true]
    omega

theorem shiftToIff (room : 2 * feedback.toNat + 1 < 2 ^ w) {s t u : BitVec w} (goes : shift feedback u = t) :
    shift feedback s = t ↔ s = u ∨ s = u ^^^ BitVec.ofNat w (2 * feedback.toNat + 1) := by
  have apart : shift feedback s = t ↔ shift feedback (u ^^^ s) = 0#w := by
    rw [shiftXor, goes, BitVec.xor_eq_zero_iff]
    exact eq_comm
  have moved (g : BitVec w) : u ^^^ s = g ↔ s = u ^^^ g := by
    constructor
    · rintro rfl
      rw [← BitVec.xor_assoc, BitVec.xor_self, BitVec.zero_xor]
    · rintro rfl
      rw [← BitVec.xor_assoc, BitVec.xor_self, BitVec.zero_xor]
  rw [apart, shiftLostIff feedback room, moved, moved, BitVec.xor_zero]

section Degree
variable {feedback} {k : Nat}

structure Degree (feedback : BitVec w) (k : Nat) : Prop where
  below : feedback.toNat < 2 ^ k
  top : 2 ^ k ≤ 2 * feedback.toNat + 1

theorem shiftBelow (degree : Degree feedback k) {r : Nat} {s : BitVec w} (below : s.toNat < 2 ^ (k + (r + 1))) :
    (shift feedback s).toNat < 2 ^ (k + r) := by
  have half : s.toNat / 2 < 2 ^ (k + r) := by
    rw [← Nat.add_assoc, pow_succ] at below
    omega
  have low : feedback.toNat < 2 ^ (k + r) :=
    lt_of_lt_of_le degree.below (Nat.pow_le_pow_right (by decide) (Nat.le_add_right k r))
  rw [shiftToNat]
  split_ifs
  · exact Nat.xor_lt_two_pow half low
  · exact half

theorem shiftStays (degree : Degree feedback k) {s : BitVec w} (below : s.toNat < 2 ^ k) :
    (shift feedback s).toNat < 2 ^ k :=
  shiftBelow (r := 0) degree (lt_of_lt_of_le below (Nat.pow_le_pow_right (by decide) (Nat.le_succ k)))

theorem shiftsBelow (degree : Degree feedback k) (r : Nat) {s : BitVec w} (below : s.toNat < 2 ^ (k + r)) :
    ((shift feedback)^[r] s).toNat < 2 ^ k := by
  induction r generalizing s with
  | zero => exact below
  | succ r ih => exact ih (shiftBelow degree below)

theorem shiftKeepsApart (degree : Degree feedback k) {s : BitVec w} (below : s.toNat < 2 ^ k)
    (lost : shift feedback s = 0#w) : s = 0#w := by
  have value := congrArg BitVec.toNat lost
  rw [shiftToNat] at value
  apply BitVec.eq_of_toNat_eq
  have top := degree.top
  cases bit : s.getLsbD 0 with
  | true =>
    rw [bit, if_pos rfl, BitVec.toNat_ofNat, Nat.zero_mod, Nat.xor_eq_zero_iff] at value
    have odd : s.toNat % 2 = 1 := by
      have test : s.toNat.testBit 0 = true := bit
      simpa [Nat.testBit_zero] using test
    omega
  | false =>
    have even : s.toNat % 2 = 0 := by
      have test : s.toNat.testBit 0 = false := bit
      simpa [Nat.testBit_zero] using test
    rw [bit, if_neg Bool.false_ne_true, BitVec.toNat_ofNat, Nat.zero_mod] at value
    rw [BitVec.toNat_ofNat, Nat.zero_mod]
    omega

theorem shiftsKeepApart (degree : Degree feedback k) (n : Nat) {s : BitVec w} (below : s.toNat < 2 ^ k) :
    (shift feedback)^[n] s = 0#w ↔ s = 0#w := by
  constructor
  · intro lost
    induction n generalizing s with
    | zero => exact lost
    | succ n ih =>
      rw [Function.iterate_succ_apply] at lost
      exact shiftKeepsApart degree below (ih (shiftStays degree below) lost)
  · rintro rfl
    exact shiftsZero feedback n

/- A difference that is not lost by the time it has come down is never lost. -/
theorem lostEarly (degree : Degree feedback k) {r n : Nat} (long : r ≤ n) {s : BitVec w} (below : s.toNat < 2 ^ (k + r)) :
    (shift feedback)^[n] s = 0#w ↔ (shift feedback)^[r] s = 0#w := by
  obtain ⟨m, rfl⟩ := Nat.exists_eq_add_of_le' long
  rw [Function.iterate_add_apply]
  exact shiftsKeepApart degree m (shiftsBelow degree r below)

theorem feedBelow (degree : Degree feedback k) {r : Nat} {s : BitVec w} (below : s.toNat < 2 ^ (k + (r + 1)))
    (bit : Bool) : (feed feedback s bit).toNat < 2 ^ (k + r) := by
  have one : (lowBit w bit).toNat < 2 ^ (k + (r + 1)) := by
    have least : (lowBit w bit).toNat ≤ bit.toNat := by
      rw [lowBit, BitVec.toNat_ofNat]
      exact Nat.mod_le _ _
    have room : 2 ^ 1 ≤ 2 ^ (k + (r + 1)) := Nat.pow_le_pow_right (by decide) (by omega)
    have small := Bool.toNat_lt bit
    omega
  refine shiftBelow degree ?_
  rw [BitVec.toNat_xor]
  exact Nat.xor_lt_two_pow below one

theorem feedAllBelow (degree : Degree feedback k) {r : Nat} {bits : List Bool} (long : r ≤ bits.length) {s : BitVec w}
    (below : s.toNat < 2 ^ (k + r)) : (feedAll feedback s bits).toNat < 2 ^ k := by
  induction bits generalizing r s with
  | nil =>
    obtain rfl : r = 0 := Nat.le_zero.mp long
    exact below
  | cons bit rest ih =>
    cases r with
    | zero =>
      have more : s.toNat < 2 ^ (k + (0 + 1)) := lt_of_lt_of_le below (Nat.pow_le_pow_right (by decide) (by omega))
      exact ih (Nat.zero_le _) (feedBelow degree more bit)
    | succ r => exact ih (Nat.le_of_succ_le_succ long) (feedBelow degree below bit)

end Degree

end PlatformRte.ShiftRegister
