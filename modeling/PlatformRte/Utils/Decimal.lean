import PlatformRte.Utils.Kept

/-! Parsing and printing of decimal numbers are inverse to each other, and a parse accepts
exactly the numerals whose value its type has. -/
namespace PlatformRte.Utils
open Bytes Decimal

theorem revDigitsAre (room : Nat) {v : UInt64} (fits : v.toNat < 10 ^ room) :
    revDigits room v = (Nat.digits 10 v.toNat).map letterOf := by
  induction room generalizing v with
  | zero =>
    have zero : v.toNat = 0 := Nat.lt_one_iff.mp fits
    rw [zero, Nat.digits_zero]
    rfl
  | succ room ih =>
    rw [revDigits]
    by_cases more : v > 0
    · have positive : 0 < v.toNat := UInt64.lt_iff_toNat_lt.mp more
      have less : (v / 10).toNat < 10 ^ room := by
        rw [UInt64.toNat_div]
        exact Nat.div_lt_of_lt_mul (by rwa [pow_succ'] at fits)
      have digit : 0x30 + (v % 10).toUInt8 = letterOf (v.toNat % 10) := by
        apply UInt8.toNat_inj.mp
        rw [letterNat (Nat.mod_lt _ (by decide)), UInt8.toNat_add, UInt64.toNat_toUInt8, UInt64.toNat_mod]
        change (48 + v.toNat % 10 % 256) % 256 = 48 + v.toNat % 10
        omega
      rw [if_pos more, ih less, digit, Nat.digits_def' (by decide) positive, List.map_cons, UInt64.toNat_div]
      rfl
    · have zero : v.toNat = 0 := by
        have none : ¬0 < v.toNat := fun positive => more (UInt64.lt_iff_toNat_lt.mpr positive)
        omega
      rw [if_neg more, zero, Nat.digits_zero]
      rfl

theorem u64DigitsAre (value : UInt64) : rteStringFormatU64Digits value = decimal value.toNat := by
  rw [rteStringFormatU64Digits, decimal]
  by_cases zero : value = 0
  · rw [if_pos zero, zero]
    rfl
  · have notZero : value.toNat ≠ 0 := fun none => zero (UInt64.toNat_inj.mp none)
    have bound : value.toNat < 10 ^ 20 := lt_trans value.toNat_lt (by decide)
    rw [if_neg zero, if_neg notZero, revDigitsAre 20 bound]

theorem toIntOfBits (value : Int64) :
    value.toInt = if value.toUInt64.toNat < 2 ^ 63 then (value.toUInt64.toNat : Int)
      else (value.toUInt64.toNat : Int) - 2 ^ 64 := by
  have bits : value.toInt = value.toBitVec.toInt := rfl
  have same : value.toBitVec.toNat = value.toUInt64.toNat := Int64.toNat_toBitVec value
  rw [bits, BitVec.toInt_eq_toNat_cond, same]
  split <;> split <;> omega

theorem positiveBits {value : Int64} (positive : ¬value < 0) : value.toUInt64.toNat = value.toInt.natAbs := by
  have sign : ¬value.toInt < 0 := fun less => positive (Int64.lt_iff_toInt_lt.mpr less)
  have bound := value.toUInt64.toNat_lt
  have bits := toIntOfBits value
  split at bits <;> omega

theorem negativeBits {value : Int64} (negative : value < 0) :
    ((-(value + 1)).toUInt64 + 1).toNat = value.toInt.natAbs := by
  have sign : value.toInt < 0 := Int64.lt_iff_toInt_lt.mp negative
  have bound := value.toUInt64.toNat_lt
  have bits := toIntOfBits value
  have one : (1 : Int64).toUInt64.toNat = 1 := rfl
  rw [Int64.toUInt64_neg, Int64.toUInt64_add, UInt64.toNat_add, UInt64.toNat_neg, UInt64.toNat_add, one]
  change ((2 ^ 64 - (value.toUInt64.toNat + 1) % 2 ^ 64) % 2 ^ 64 + 1) % 2 ^ 64 = _
  split at bits <;> omega

theorem i64DigitsAre (value : Int64) : rteStringFormatI64 value = signedDecimal value.toInt := by
  have sign : value < 0 ↔ value.toInt < 0 := Int64.lt_iff_toInt_lt
  rw [rteStringFormatI64, signedDecimal]
  by_cases negative : value < 0
  · rw [if_pos negative, if_pos (sign.mp negative), u64DigitsAre, negativeBits negative]
  · rw [if_neg negative, if_neg fun less => negative (sign.mpr less), u64DigitsAre, positiveBits negative]

theorem addDecimalDigit {acc : UInt64} {c : UInt8} (digit : IsDigit c) :
    addDecimal acc c =
      if acc.toNat * 10 + digitOf c < 2 ^ 64 then .ok (UInt64.ofNat (acc.toNat * 10 + digitOf c))
      else .error .valueOutOfRange := by
  have inRange : ¬(c < 0x30 ∨ c > 0x39) := by
    rintro (low | high)
    · exact absurd digit.1 (UInt8.not_le.mpr low)
    · exact absurd digit.2 (UInt8.not_le.mpr high)
  have small := digitSmall digit
  have value : (c - 0x30).toUInt64.toNat = digitOf c := by
    rw [UInt8.toNat_toUInt64, UInt8.toNat_sub_of_le _ _ digit.1]
    rfl
  have room : ((0xFFFFFFFFFFFFFFFF - (c - 0x30).toUInt64) / 10).toNat = (2 ^ 64 - 1 - digitOf c) / 10 := by
    rw [UInt64.toNat_div, UInt64.toNat_sub_of_le _ _ ?_, value]
    · rfl
    · rw [UInt64.le_iff_toNat_le, value]
      change digitOf c ≤ 2 ^ 64 - 1
      omega
  rw [addDecimal, if_neg inRange]
  dsimp only
  by_cases fits : acc.toNat * 10 + digitOf c < 2 ^ 64
  · have below : ¬acc > (0xFFFFFFFFFFFFFFFF - (c - 0x30).toUInt64) / 10 := by
      rw [gt_iff_lt, UInt64.lt_iff_toNat_lt, room]
      omega
    rw [if_neg below, if_pos fits]
    congr 1
    apply UInt64.toNat_inj.mp
    rw [UInt64.toNat_add, UInt64.toNat_mul, value, UInt64.toNat_ofNat', Nat.mod_add_mod]
    rfl
  · have above : acc > (0xFFFFFFFFFFFFFFFF - (c - 0x30).toUInt64) / 10 := by
      rw [gt_iff_lt, UInt64.lt_iff_toNat_lt, room]
      omega
    rw [if_pos above, if_neg fits]

theorem addDecimalOther {c : UInt8} (other : ¬IsDigit c) (acc : UInt64) : addDecimal acc c = .error .invalidParam := by
  have outside : c < 0x30 ∨ c > 0x39 := by
    by_cases low : 0x30 ≤ c
    · exact Or.inr (UInt8.not_le.mp fun high => other ⟨low, high⟩)
    · exact Or.inl (UInt8.not_le.mp low)
  rw [addDecimal, if_pos outside]

theorem decimalLoop (acc : UInt64) {text : Bytes} (digits : ∀ byte ∈ text, IsDigit byte)
    (fits : numeralFrom acc.toNat text < 2 ^ 64) :
    text.foldlM addDecimal acc = .ok (UInt64.ofNat (numeralFrom acc.toNat text)) := by
  induction text generalizing acc with
  | nil => exact congrArg Except.ok UInt64.ofNat_toNat.symm
  | cons c rest ih =>
    have grows := numeralGrows (acc.toNat * 10 + digitOf c) rest
    have first : numeralFrom acc.toNat (c :: rest) = numeralFrom (acc.toNat * 10 + digitOf c) rest := rfl
    rw [first] at fits ⊢
    have small := lt_of_le_of_lt grows fits
    have next : (UInt64.ofNat (acc.toNat * 10 + digitOf c)).toNat = acc.toNat * 10 + digitOf c := by
      rw [UInt64.toNat_ofNat', Nat.mod_eq_of_lt small]
    have tail := ih (UInt64.ofNat (acc.toNat * 10 + digitOf c)) (fun byte inside => digits byte (List.mem_cons_of_mem _ inside))
    rw [next] at tail
    rw [List.foldlM_cons, addDecimalDigit (digits c List.mem_cons_self), if_pos small]
    exact tail fits

theorem decimalLoopReads {acc value : UInt64} {text : Bytes} (read : text.foldlM addDecimal acc = .ok value) :
    (∀ byte ∈ text, IsDigit byte) ∧ numeralFrom acc.toNat text < 2 ^ 64 := by
  induction text generalizing acc with
  | nil => exact ⟨fun byte inside => absurd inside List.not_mem_nil, acc.toNat_lt⟩
  | cons c rest ih =>
    rw [List.foldlM_cons] at read
    by_cases digit : IsDigit c
    · rw [addDecimalDigit digit] at read
      by_cases small : acc.toNat * 10 + digitOf c < 2 ^ 64
      · rw [if_pos small] at read
        obtain ⟨digits, fits⟩ := ih read
        rw [UInt64.toNat_ofNat', Nat.mod_eq_of_lt small] at fits
        exact ⟨List.forall_mem_cons.mpr ⟨digit, digits⟩, fits⟩
      · rw [if_neg small] at read
        cases read
    · rw [addDecimalOther digit] at read
      cases read

theorem addDecimalFails {acc : UInt64} {text : Bytes} {st : RteStatus} (failed : text.foldlM addDecimal acc = .error st) :
    st ≠ .ok := by
  induction text generalizing acc with
  | nil => cases failed
  | cons c rest ih =>
    rw [List.foldlM_cons] at failed
    by_cases digit : IsDigit c
    · rw [addDecimalDigit digit] at failed
      by_cases small : acc.toNat * 10 + digitOf c < 2 ^ 64
      · rw [if_pos small] at failed
        exact ih failed
      · rw [if_neg small] at failed
        cases failed
        decide
    · rw [addDecimalOther digit] at failed
      cases failed
      decide

def Readable (text : Bytes) : Prop := (∀ byte ∈ text, IsDigit byte) ∧ numeral text < 2 ^ 64

theorem numeralRead {text : Bytes} (readable : Readable text) :
    text.foldlM addDecimal 0 = .ok (UInt64.ofNat (numeral text)) :=
  decimalLoop 0 readable.1 readable.2

theorem numeralRefused {text : Bytes} (bad : ¬Readable text) :
    ∃ st, st ≠ .ok ∧ text.foldlM addDecimal 0 = .error st := by
  cases read : text.foldlM addDecimal 0 with
  | error st => exact ⟨st, addDecimalFails read, rfl⟩
  | ok value => exact absurd (decimalLoopReads read) bad

structure Parses {α : Type} (parse : α → RteStatus × Option α) (value : α → Int) (accepted : Prop) (number : Int) :
    Prop where
  accepts : ∀ out, (parse out).1 = .ok ↔ accepted
  gives : ∀ out, (parse out).1 = .ok → ∃ v, (parse out).2 = some v ∧ value v = number
  keeps : ∀ out, (parse out).1 ≠ .ok → (parse out).2 = some out

section Parsing
variable {α : Type} {str : RteString}

theorem parsesOk {parse : α → RteStatus × Option α} {value : α → Int} {accepted : Prop} {number : Int} {v : α}
    (good : accepted) (same : ∀ out, parse out = (.ok, some v)) (is_ : value v = number) :
    Parses parse value accepted number where
  accepts := fun out => by rw [same]; exact ⟨fun _ => good, fun _ => rfl⟩
  gives := fun out _ => ⟨v, by rw [same], is_⟩
  keeps := fun out bad => absurd (by rw [same]) bad

theorem parsesNot {parse : α → RteStatus × Option α} {value : α → Int} {accepted : Prop} {number : Int} (st : RteStatus)
    (bad : ¬accepted) (same : ∀ out, parse out = (st, some out)) (not_ : st ≠ .ok) :
    Parses parse value accepted number where
  accepts := fun out => by rw [same]; exact ⟨fun ok => absurd ok not_, fun good => absurd good bad⟩
  gives := fun out ok => by rw [same] at ok; exact absurd ok not_
  keeps := fun out _ => by rw [same]

theorem emptyContent (kept : Kept str) : str.length = 0 ↔ contentOf str = [] := by
  rw [← List.length_eq_zero_iff, kept.contentLength, ← UInt64.toNat_inj]
  rfl

theorem toU64Parses (kept : Kept str) :
    Parses (fun out => rteStringToU64 (some str) (some out)) (fun v => (v.toNat : Int))
      (IsNumeral (contentOf str) ∧ numeral (contentOf str) < 2 ^ 64) (numeral (contentOf str)) := by
  have valid : ¬rteBufferIsValid (some str) = false := by simp [kept.valid]
  by_cases empty : str.length = 0
  · refine parsesNot .invalidParam ?_ (fun out => ?_) (by decide)
    · exact fun good => good.1.1 ((emptyContent kept).mp empty)
    · dsimp only [rteStringToU64]
      rw [if_neg valid, if_pos empty]
  · have some_ : contentOf str ≠ [] := fun none => empty ((emptyContent kept).mpr none)
    by_cases readable : Readable (contentOf str)
    · refine parsesOk ⟨⟨some_, readable.1⟩, readable.2⟩ (fun out => ?_) (v := UInt64.ofNat (numeral (contentOf str))) ?_
      · dsimp only [rteStringToU64]
        rw [if_neg valid, if_neg empty, numeralRead readable]
        rfl
      · rw [UInt64.toNat_ofNat', Nat.mod_eq_of_lt readable.2]
    · obtain ⟨st, not_, failed⟩ := numeralRefused readable
      refine parsesNot st (fun accepted => readable ⟨accepted.1.2, accepted.2⟩) (fun out => ?_) not_
      dsimp only [rteStringToU64]
      rw [if_neg valid, if_neg empty, failed]
      rfl

def withSign (negative : Bool) (acc : UInt64) : Int := if negative = true then -(acc.toNat : Int) else acc.toNat

theorem signedOfFits {negative : Bool} {acc : UInt64} (low : -2 ^ 63 ≤ withSign negative acc)
    (high : withSign negative acc < 2 ^ 63) :
    ∃ v, signedOf negative acc = .ok v ∧ v.toInt = withSign negative acc := by
  cases negative with
  | false =>
    have bound : acc.toNat < 2 ^ 63 := by
      rw [withSign, if_neg (by decide)] at high
      omega
    have within : ¬acc > int64Max := by
      rw [gt_iff_lt, UInt64.lt_iff_toNat_lt]
      change ¬2 ^ 63 - 1 < acc.toNat
      omega
    refine ⟨acc.toInt64, by rw [signedOf, if_neg (by decide), if_neg within], ?_⟩
    change acc.toInt64.toInt = (acc.toNat : Int)
    rw [toIntOfBits]
    exact if_pos bound
  | true =>
    have bound : acc.toNat ≤ 2 ^ 63 := by
      rw [withSign, if_pos rfl] at low
      omega
    have within : ¬acc > int64Max + 1 := by
      rw [gt_iff_lt, UInt64.lt_iff_toNat_lt]
      change ¬2 ^ 63 < acc.toNat
      omega
    rw [signedOf, if_pos rfl]
    dsimp only
    rw [if_neg within]
    by_cases lowest : acc = int64Max + 1
    · refine ⟨Int64.minValue, if_pos lowest, ?_⟩
      rw [lowest]
      rfl
    · have notLowest : acc.toNat ≠ 2 ^ 63 := fun same => lowest (UInt64.toNat_inj.mp same)
      refine ⟨-acc.toInt64, if_neg lowest, ?_⟩
      have bits : (-acc.toInt64).toUInt64.toNat = (2 ^ 64 - acc.toNat) % 2 ^ 64 := by
        rw [Int64.toUInt64_neg, UInt64.toNat_neg]
        rfl
      rw [toIntOfBits, bits, withSign, if_pos rfl]
      split <;> omega

theorem signedOfOut {negative : Bool} {acc : UInt64}
    (out : ¬(-2 ^ 63 ≤ withSign negative acc ∧ withSign negative acc < 2 ^ 63)) :
    signedOf negative acc = .error .valueOutOfRange := by
  cases negative with
  | false =>
    have past : acc > int64Max := by
      rw [withSign, if_neg (by decide)] at out
      rw [gt_iff_lt, UInt64.lt_iff_toNat_lt]
      change 2 ^ 63 - 1 < acc.toNat
      omega
    rw [signedOf, if_neg (by decide), if_pos past]
  | true =>
    have past : acc > int64Max + 1 := by
      rw [withSign, if_pos rfl] at out
      rw [gt_iff_lt, UInt64.lt_iff_toNat_lt]
      change 2 ^ 63 < acc.toNat
      omega
    rw [signedOf, if_pos rfl]
    dsimp only
    rw [if_pos past]

theorem signedStart {text : Bytes} (some_ : text ≠ []) :
    (byteAt text 0 == minus) = decide (text.head? = some minus) ∧
      text.drop (if byteAt text 0 == minus then (1 : UInt64) else 0).toNat = unsignedPart text := by
  cases text with
  | nil => exact absurd rfl some_
  | cons first rest =>
    by_cases signed : first = minus
    · simp [byteAt, unsignedPart, signed]
    · simp [byteAt, unsignedPart, signed]

theorem noDigitsLeft (kept : Kept str) (some_ : contentOf str ≠ []) :
    (if byteAt (contentOf str) 0 == minus then (1 : UInt64) else 0) ≥ str.length ↔ unsignedPart (contentOf str) = [] := by
  have size := congrArg List.length (signedStart some_).2
  rw [List.length_drop, kept.contentLength] at size
  rw [ge_iff_le, UInt64.le_iff_toNat_le, ← List.length_eq_zero_iff]
  omega

theorem toI64Runs (kept : Kept str) (some_ : contentOf str ≠ []) (digits : unsignedPart (contentOf str) ≠ [])
    (out : Int64) : rteStringToI64 (some str) (some out) =
      storeResult (some out) ((unsignedPart (contentOf str)).foldlM addDecimal 0
        >>= signedOf (decide ((contentOf str).head? = some minus))) := by
  have valid : ¬rteBufferIsValid (some str) = false := by simp [kept.valid]
  obtain ⟨sign, dropped⟩ := signedStart some_
  dsimp only [rteStringToI64]
  rw [if_neg valid, if_neg fun none => some_ ((emptyContent kept).mp none),
    if_neg fun none => digits ((noDigitsLeft kept some_).mp none), dropped, sign]

theorem signedValue {text : Bytes} (readable : Readable (unsignedPart text)) :
    withSign (decide (text.head? = some minus)) (UInt64.ofNat (numeral (unsignedPart text))) = signedNumeral text := by
  rw [withSign, UInt64.toNat_ofNat', Nat.mod_eq_of_lt readable.2, signedNumeral]
  simp only [decide_eq_true_eq]

theorem toI64Parses (kept : Kept str) :
    Parses (fun out => rteStringToI64 (some str) (some out)) Int64.toInt
      (IsNumeral (unsignedPart (contentOf str)) ∧ -2 ^ 63 ≤ signedNumeral (contentOf str)
        ∧ signedNumeral (contentOf str) < 2 ^ 63) (signedNumeral (contentOf str)) := by
  have valid : ¬rteBufferIsValid (some str) = false := by simp [kept.valid]
  by_cases empty : contentOf str = []
  · refine parsesNot .invalidParam (fun good => good.1.1 (by rw [empty]; rfl)) (fun out => ?_) (by decide)
    dsimp only [rteStringToI64]
    rw [if_neg valid, if_pos ((emptyContent kept).mpr empty)]
  by_cases nothing : unsignedPart (contentOf str) = []
  · refine parsesNot .invalidParam (fun good => good.1.1 nothing) (fun out => ?_) (by decide)
    dsimp only [rteStringToI64]
    rw [if_neg valid, if_neg fun none => empty ((emptyContent kept).mp none),
      if_pos ((noDigitsLeft kept empty).mpr nothing)]
  have runs := toI64Runs kept empty nothing
  by_cases readable : Readable (unsignedPart (contentOf str))
  · have value := signedValue readable
    by_cases fits : -2 ^ 63 ≤ signedNumeral (contentOf str) ∧ signedNumeral (contentOf str) < 2 ^ 63
    · rw [← value] at fits
      obtain ⟨v, gives, is_⟩ := signedOfFits fits.1 fits.2
      rw [value] at fits is_
      refine parsesOk ⟨⟨nothing, readable.1⟩, fits⟩ (fun out => ?_) is_
      rw [runs, numeralRead readable]
      change storeResult _ (signedOf _ _) = _
      rw [gives]
      rfl
    · have out_ := fits
      rw [← value] at out_
      refine parsesNot .valueOutOfRange (fun good => fits good.2) (fun out => ?_) (by decide)
      rw [runs, numeralRead readable]
      change storeResult _ (signedOf _ _) = _
      rw [signedOfOut out_]
      rfl
  · obtain ⟨st, not_, failed⟩ := numeralRefused readable
    refine parsesNot st (fun good => readable ⟨good.1.2, ?_⟩) (fun out => ?_) not_
    · have range := good.2
      rw [signedNumeral] at range
      split at range <;> omega
    · rw [runs, failed]
      rfl

theorem Parses.result {parse : α → RteStatus × Option α} {value : α → Int} {accepted : Prop} {number : Int}
    (parses : Parses parse value accepted number) (out : α) :
    (accepted ∧ ∃ v, parse out = (.ok, some v) ∧ value v = number) ∨
      (¬accepted ∧ ∃ st, st ≠ .ok ∧ parse out = (st, some out)) := by
  by_cases ok : (parse out).1 = .ok
  · obtain ⟨v, given, is_⟩ := parses.gives out ok
    exact Or.inl ⟨(parses.accepts out).mp ok, v, Prod.ext ok given, is_⟩
  · exact Or.inr ⟨fun good => ok ((parses.accepts out).mpr good), _, ok, Prod.ext rfl (parses.keeps out ok)⟩

theorem toU32Parses (kept : Kept str) :
    Parses (fun out => rteStringToU32 (some str) (some out)) (fun v => (v.toNat : Int))
      (IsNumeral (contentOf str) ∧ numeral (contentOf str) < 2 ^ 32) (numeral (contentOf str)) := by
  rcases (toU64Parses kept).result 0 with ⟨good, v, wide, is_⟩ | ⟨bad, st, not_, wide⟩
  · have is' : v.toNat = numeral (contentOf str) := Int.ofNat_inj.mp is_
    by_cases fits : numeral (contentOf str) < 2 ^ 32
    · have within : ¬v > 0xFFFFFFFF := by
        rw [gt_iff_lt, UInt64.lt_iff_toNat_lt, is']
        change ¬2 ^ 32 - 1 < numeral (contentOf str)
        omega
      refine parsesOk ⟨good.1, fits⟩ (fun out => ?_) (v := v.toUInt32) ?_
      · rw [rteStringToU32, wide]
        dsimp only [rteCastU64ToU32]
        rw [if_neg within]
      · rw [UInt64.toNat_toUInt32, is', Nat.mod_eq_of_lt fits]
    · have past : v > 0xFFFFFFFF := by
        rw [gt_iff_lt, UInt64.lt_iff_toNat_lt, is']
        change 2 ^ 32 - 1 < numeral (contentOf str)
        omega
      refine parsesNot .valueOutOfRange (fun accepted => fits accepted.2) (fun out => ?_) (by decide)
      rw [rteStringToU32, wide]
      dsimp only [rteCastU64ToU32]
      rw [if_pos past]
  · refine parsesNot st (fun accepted => bad ⟨accepted.1, lt_trans accepted.2 (by decide)⟩) (fun out => ?_) not_
    rw [rteStringToU32, wide]
    cases st <;> first | rfl | exact absurd rfl not_

theorem toI32Parses (kept : Kept str) :
    Parses (fun out => rteStringToI32 (some str) (some out)) Int32.toInt
      (IsNumeral (unsignedPart (contentOf str)) ∧ -2 ^ 31 ≤ signedNumeral (contentOf str)
        ∧ signedNumeral (contentOf str) < 2 ^ 31) (signedNumeral (contentOf str)) := by
  have lowest : Int32.minValue.toInt64.toInt = -2 ^ 31 := rfl
  have highest : Int32.maxValue.toInt64.toInt = 2 ^ 31 - 1 := rfl
  rcases (toI64Parses kept).result 0 with ⟨good, v, wide, is_⟩ | ⟨bad, st, not_, wide⟩
  · have below : v < Int32.minValue.toInt64 ↔ signedNumeral (contentOf str) < -2 ^ 31 := by
      rw [Int64.lt_iff_toInt_lt, is_, lowest]
    have above : v > Int32.maxValue.toInt64 ↔ ¬signedNumeral (contentOf str) < 2 ^ 31 := by
      rw [gt_iff_lt, Int64.lt_iff_toInt_lt, is_, highest]
      omega
    have runs (out : Int32) : rteStringToI32 (some str) (some out) = rteCastI64ToI32 v (some out) := by
      rw [rteStringToI32, wide]
    by_cases low : v < Int32.minValue.toInt64
    · refine parsesNot .valueOutOfRange (fun accepted => ?_) (fun out => ?_) (by decide)
      · exact absurd (below.mp low) (Int.not_lt.mpr accepted.2.1)
      · rw [runs, rteCastI64ToI32, if_pos low]
    · by_cases high : v > Int32.maxValue.toInt64
      · refine parsesNot .valueOutOfRange (fun accepted => above.mp high accepted.2.2) (fun out => ?_) (by decide)
        rw [runs, rteCastI64ToI32, if_neg low, if_pos high]
      · have fromLow : -2 ^ 31 ≤ signedNumeral (contentOf str) := Int.not_lt.mp fun less => low (below.mpr less)
        have toHigh : signedNumeral (contentOf str) < 2 ^ 31 := by
          by_contra past
          exact high (above.mpr past)
        refine parsesOk ⟨good.1, fromLow, toHigh⟩ (fun out => ?_) (v := v.toInt32) ?_
        · rw [runs, rteCastI64ToI32, if_neg low, if_neg high]
        · rw [Int64.toInt_toInt32, is_]
          exact Int.bmod_eq_of_le (by omega) (by omega)
  · refine parsesNot st (fun accepted => bad ⟨accepted.1, by omega, by omega⟩) (fun out => ?_) not_
    rw [rteStringToI32, wide]
    cases st <;> first | rfl | exact absurd rfl not_

end Parsing

def PrintsBack {α : Type} (from_ : Option RteString → α → RteStatus × Option RteString)
    (parse : Option RteString → Option α → RteStatus × Option α) (text : α → Bytes) (dest : RteString) : Prop :=
  ∀ value, (text value).length ≤ dest.capacity.toNat →
    ∃ printed, from_ (some dest) value = (.ok, some printed) ∧ contentOf printed = text value ∧
      ∀ out, parse (some printed) (some out) = (.ok, some value)

section Printing
variable {α : Type} {dest : RteString}

theorem printsBack {from_ : Option RteString → α → RteStatus × Option RteString}
    {parse : Option RteString → Option α → RteStatus × Option α} {text : α → Bytes}
    (accepted : Bytes → Prop) (value : Bytes → Int) (number : α → Int) (kept : Kept dest)
    (puts : ∀ v, from_ (some dest) v = put dest (text v))
    (parses : ∀ {str}, Kept str →
      Parses (fun out => parse (some str) (some out)) number (accepted (contentOf str)) (value (contentOf str)))
    (injective : ∀ v w, number v = number w → v = w)
    (reads : ∀ v, accepted (text v) ∧ value (text v) = number v) : PrintsBack from_ parse text dest := by
  intro v fits
  have content := replacedContent kept fits
  refine ⟨replaced dest (text v), by rw [puts, put, if_pos fits], content, fun out => ?_⟩
  rcases (parses (Outcome.kept (.replaced (text v) fits) kept)).result out with ⟨_, w, gives, is_⟩ | ⟨bad, _⟩
  · rw [content, (reads v).2] at is_
    rw [gives, injective w v is_]
  · rw [content] at bad
    exact absurd (reads v).1 bad

theorem u64PrintsBack (kept : Kept dest) :
    PrintsBack rteStringFromU64 rteStringToU64 (fun value => decimal value.toNat) dest := by
  refine printsBack (fun text => IsNumeral text ∧ numeral text < 2 ^ 64) (fun text => (numeral text : Int))
    (fun v => (v.toNat : Int)) kept (fun v => ?_) toU64Parses
    (fun v w same => UInt64.toNat_inj.mp (Int.ofNat_inj.mp same)) (fun v => ?_)
  · rw [← u64DigitsAre]
    exact copyNPuts kept (lt_of_le_of_lt (u64DigitsLength v) (by decide))
  · rw [numeralDecimal]
    exact ⟨⟨decimalIsNumeral _, v.toNat_lt⟩, rfl⟩

theorem u32PrintsBack (kept : Kept dest) :
    PrintsBack rteStringFromU32 rteStringToU32 (fun value => decimal value.toNat) dest := by
  refine printsBack (fun text => IsNumeral text ∧ numeral text < 2 ^ 32) (fun text => (numeral text : Int))
    (fun v => (v.toNat : Int)) kept (fun v => ?_) toU32Parses
    (fun v w same => UInt32.toNat_inj.mp (Int.ofNat_inj.mp same)) (fun v => ?_)
  · rw [← UInt32.toNat_toUInt64, ← u64DigitsAre]
    exact copyNPuts kept (lt_of_le_of_lt (u64DigitsLength _) (by decide))
  · rw [numeralDecimal]
    exact ⟨⟨decimalIsNumeral _, v.toNat_lt⟩, rfl⟩

theorem i64PrintsBack (kept : Kept dest) :
    PrintsBack rteStringFromI64 rteStringToI64 (fun value => signedDecimal value.toInt) dest := by
  refine printsBack
    (fun text => IsNumeral (unsignedPart text) ∧ -2 ^ 63 ≤ signedNumeral text ∧ signedNumeral text < 2 ^ 63)
    signedNumeral Int64.toInt kept (fun v => ?_) toI64Parses (fun v w => Int64.toInt_inj.mp) (fun v => ?_)
  · rw [← i64DigitsAre]
    exact copyNPuts kept (lt_of_le_of_lt (i64DigitsLength v) (by decide))
  · rw [signedDecimalPart, signedNumeralDecimal]
    exact ⟨⟨decimalIsNumeral _, v.le_toInt, v.toInt_lt⟩, rfl⟩

theorem i32PrintsBack (kept : Kept dest) :
    PrintsBack rteStringFromI32 rteStringToI32 (fun value => signedDecimal value.toInt) dest := by
  refine printsBack
    (fun text => IsNumeral (unsignedPart text) ∧ -2 ^ 31 ≤ signedNumeral text ∧ signedNumeral text < 2 ^ 31)
    signedNumeral Int32.toInt kept (fun v => ?_) toI32Parses (fun v w => Int32.toInt_inj.mp) (fun v => ?_)
  · rw [← Int32.toInt_toInt64, ← i64DigitsAre]
    exact copyNPuts kept (lt_of_le_of_lt (i64DigitsLength _) (by decide))
  · rw [signedDecimalPart, signedNumeralDecimal]
    exact ⟨⟨decimalIsNumeral _, v.le_toInt, v.toInt_lt⟩, rfl⟩

end Printing

/- Each parse accepts exactly the numerals of its type, gives their value and otherwise keeps
its output; and what is printed with room enough is parsed back. -/
theorem decimalsInverse {str dest : RteString} (kept : Kept str) (keptDest : Kept dest) :
    let text := contentOf str
    Parses (fun out => rteStringToU64 (some str) (some out)) (fun v => (v.toNat : Int))
        (IsNumeral text ∧ numeral text < 2 ^ 64) (numeral text) ∧
      Parses (fun out => rteStringToU32 (some str) (some out)) (fun v => (v.toNat : Int))
        (IsNumeral text ∧ numeral text < 2 ^ 32) (numeral text) ∧
      Parses (fun out => rteStringToI64 (some str) (some out)) Int64.toInt
        (IsNumeral (unsignedPart text) ∧ -2 ^ 63 ≤ signedNumeral text ∧ signedNumeral text < 2 ^ 63)
        (signedNumeral text) ∧
      Parses (fun out => rteStringToI32 (some str) (some out)) Int32.toInt
        (IsNumeral (unsignedPart text) ∧ -2 ^ 31 ≤ signedNumeral text ∧ signedNumeral text < 2 ^ 31)
        (signedNumeral text) ∧
      PrintsBack rteStringFromU64 rteStringToU64 (fun value => decimal value.toNat) dest ∧
      PrintsBack rteStringFromU32 rteStringToU32 (fun value => decimal value.toNat) dest ∧
      PrintsBack rteStringFromI64 rteStringToI64 (fun value => signedDecimal value.toInt) dest ∧
      PrintsBack rteStringFromI32 rteStringToI32 (fun value => signedDecimal value.toInt) dest :=
  ⟨toU64Parses kept, toU32Parses kept, toI64Parses kept, toI32Parses kept, u64PrintsBack keptDest,
    u32PrintsBack keptDest, i64PrintsBack keptDest, i32PrintsBack keptDest⟩

theorem decimalsInverseLowest :
    let lowest : RteString := ⟨some (ascii "-9223372036854775808"), 20, 20⟩
    let room : RteString := ⟨some (List.replicate 20 0), 20, 0⟩
    (rteStringToI64 (some lowest) (some 0)).1 = .ok ∧ (rteStringToU64 (some lowest) (some 0)).1 ≠ .ok ∧
      PrintsBack rteStringFromI64 rteStringToI64 (fun value => signedDecimal value.toInt) room := by
  have kept : Kept ⟨some (ascii "-9223372036854775808"), 20, 20⟩ := ⟨⟨_, rfl, by decide⟩, by decide⟩
  have keptRoom : Kept ⟨some (List.replicate 20 0), 20, 0⟩ := ⟨⟨_, rfl, by decide⟩, by decide⟩
  obtain ⟨u64, _, i64, _, _, _, prints, _⟩ := decimalsInverse kept keptRoom
  exact ⟨(i64.accepts 0).mpr (by decide), fun ok => absurd ((u64.accepts 0).mp ok) (by decide), prints⟩

end PlatformRte.Utils
