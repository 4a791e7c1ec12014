import PlatformRte.Lib.Bytes
import Mathlib.Data.Nat.Digits.Lemmas

/-! Numerals: the number a text of decimal digits is, and the text a number is written as. -/
namespace PlatformRte.Decimal

def IsDigit (byte : UInt8) : Prop := 0x30 ≤ byte ∧ byte ≤ 0x39

instance (byte : UInt8) : Decidable (IsDigit byte) := inferInstanceAs (Decidable (_ ∧ _))

def digitOf (byte : UInt8) : Nat := byte.toNat - 0x30

def letterOf (digit : Nat) : UInt8 := UInt8.ofNat (0x30 + digit)

def numeralFrom (value : Nat) (text : Bytes) : Nat := text.foldl (fun value byte => value * 10 + digitOf byte) value

def numeral (text : Bytes) : Nat := numeralFrom 0 text

def IsNumeral (text : Bytes) : Prop := text ≠ [] ∧ ∀ byte ∈ text, IsDigit byte

instance (text : Bytes) : Decidable (IsNumeral text) :=
  @instDecidableAnd _ _ inferInstance (List.decidableBAll _ text)

def decimal (n : Nat) : Bytes := if n = 0 then [letterOf 0] else ((Nat.digits 10 n).map letterOf).reverse

def minus : UInt8 := 0x2D

def unsignedPart (text : Bytes) : Bytes := if text.head? = some minus then text.tail else text

def signedNumeral (text : Bytes) : Int :=
  if text.head? = some minus then -(numeral (unsignedPart text) : Int) else numeral (unsignedPart text)

def signedDecimal (n : Int) : Bytes := if n < 0 then minus :: decimal n.natAbs else decimal n.natAbs

theorem numeralGrows (value : Nat) (text : Bytes) : value ≤ numeralFrom value text := by
  induction text generalizing value with
  | nil => exact le_rfl
  | cons byte rest ih => exact le_trans (by omega) (ih (value * 10 + digitOf byte))

theorem letterNat {digit : Nat} (small : digit < 10) : (letterOf digit).toNat = 0x30 + digit := by
  rw [letterOf, UInt8.toNat_ofNat', Nat.mod_eq_of_lt (by omega)]

theorem letterIsDigit {digit : Nat} (small : digit < 10) : IsDigit (letterOf digit) := by
  rw [IsDigit, UInt8.le_iff_toNat_le, UInt8.le_iff_toNat_le, letterNat small]
  change 48 ≤ 48 + digit ∧ 48 + digit ≤ 57
  omega

theorem digitOfLetter {digit : Nat} (small : digit < 10) : digitOf (letterOf digit) = digit := by
  rw [digitOf, letterNat small]
  omega

theorem digitSmall {byte : UInt8} (digit : IsDigit byte) : digitOf byte < 10 := by
  have high := UInt8.le_iff_toNat_le.mp digit.2
  change byte.toNat ≤ 57 at high
  rw [digitOf]
  omega

theorem numeralLetters {digits : List Nat} (small : ∀ digit ∈ digits, digit < 10) :
    numeral (digits.map letterOf).reverse = Nat.ofDigits 10 digits := by
  rw [numeral, numeralFrom, List.foldl_reverse]
  induction digits with
  | nil => rfl
  | cons digit rest ih =>
    rw [List.map_cons, List.foldr_cons, ih fun later inside => small later (List.mem_cons_of_mem _ inside),
      digitOfLetter (small digit List.mem_cons_self), Nat.ofDigits_cons]
    ring

/- A number is the value of what it is written as. -/
theorem numeralDecimal (n : Nat) : numeral (decimal n) = n := by
  rw [decimal]
  by_cases zero : n = 0
  · rw [if_pos zero, zero]
    rfl
  · rw [if_neg zero, numeralLetters fun digit inside => Nat.digits_lt_base (by decide) inside, Nat.ofDigits_digits]

theorem decimalIsNumeral (n : Nat) : IsNumeral (decimal n) := by
  rw [decimal]
  by_cases zero : n = 0
  · rw [if_pos zero]
    decide
  · rw [if_neg zero]
    refine ⟨by simpa using Nat.digits_ne_nil_iff_ne_zero.mpr zero, fun byte inside => ?_⟩
    obtain ⟨digit, inDigits, rfl⟩ := List.mem_map.mp (List.mem_reverse.mp inside)
    exact letterIsDigit (Nat.digits_lt_base (by decide) inDigits)

theorem decimalLength {n k : Nat} (positive : 0 < k) (bound : n < 10 ^ k) : (decimal n).length ≤ k := by
  rw [decimal]
  by_cases zero : n = 0
  · rw [if_pos zero]
    exact positive
  · rw [if_neg zero, List.length_reverse, List.length_map]
    exact (Nat.digits_length_le_iff (by decide) n).mpr bound

theorem decimalUnsigned (n : Nat) : (decimal n).head? ≠ some minus := by
  intro signed
  have inside : minus ∈ decimal n := List.mem_of_head? signed
  have digit := (decimalIsNumeral n).2 minus inside
  exact absurd digit (by decide)

theorem signedDecimalPart (n : Int) : unsignedPart (signedDecimal n) = decimal n.natAbs := by
  rw [signedDecimal]
  by_cases negative : n < 0
  · rw [if_pos negative]
    rfl
  · rw [if_neg negative, unsignedPart, if_neg (decimalUnsigned _)]

theorem signedNumeralDecimal (n : Int) : signedNumeral (signedDecimal n) = n := by
  rw [signedNumeral, signedDecimalPart, numeralDecimal, signedDecimal]
  by_cases negative : n < 0
  · rw [if_pos negative, List.head?_cons, if_pos rfl]
    omega
  · rw [if_neg negative, if_neg (decimalUnsigned _)]
    omega

end PlatformRte.Decimal
