import PlatformRte.App.LifeCycle
import PlatformRte.Checksum.Differences

/-! How the signature of a cycle tells marks apart. A fold is one run of the CRC, so a
difference in the signature or in the hash of a mark only moves through the register. -/
namespace PlatformRte.App
open Bytes Checksum ShiftRegister

section Crc
variable (constant : UInt64)

theorem crcDifference {data data' : Bytes} (length : data'.length = data.length) :
    (crc64Bitwise constant data' ^^^ crc64Bitwise constant data).toBitVec =
      feedAll constant.toBitVec 0#64 (bitsOf (8 * data.length) (leValue data' ^^^ leValue data)) := by
  have apart := feedAllXor constant.toBitVec (0xFFFFFFFFFFFFFFFF : UInt64).toBitVec (0xFFFFFFFFFFFFFFFF : UInt64).toBitVec
    (bitsOf (8 * data.length) (leValue data')) (bitsOf (8 * data.length) (leValue data)) (by simp)
  rw [BitVec.xor_self, ← bitsXor, ← bitwiseFold, ← length, ← bitwiseFold] at apart
  rw [← length, apart, crc64Bitwise, crc64Bitwise, UInt64.toBitVec_xor, UInt64.toBitVec_not, UInt64.toBitVec_not,
    ← BitVec.not_xor_left, ← BitVec.not_xor_right, BitVec.not_not]

theorem joinXor {n low low' : Nat} (high high' : Nat) (small : low < 2 ^ n) (small' : low' < 2 ^ n) :
    (low + 2 ^ n * high) ^^^ (low' + 2 ^ n * high') = (low ^^^ low') + 2 ^ n * (high ^^^ high') := by
  have both := Nat.xor_lt_two_pow small small'
  apply Nat.eq_of_testBit_eq
  intro i
  rw [Nat.testBit_xor, Nat.add_comm low, Nat.add_comm low', Nat.add_comm (low ^^^ low'),
    Nat.testBit_two_pow_mul_add _ small, Nat.testBit_two_pow_mul_add _ small', Nat.testBit_two_pow_mul_add _ both]
  split <;> rw [Nat.testBit_xor]

def foldBuf (signature markHash : UInt64) : Bytes := leBytes 8 signature.toNat ++ leBytes 8 markHash.toNat

theorem foldBufValue (signature markHash : UInt64) :
    leValue (foldBuf signature markHash) = signature.toNat + 2 ^ 64 * markHash.toNat := by
  have small (value : UInt64) : leValue (leBytes 8 value.toNat) = value.toNat := by
    rw [leValueBytes, show (256 : Nat) ^ 8 = 2 ^ 64 by decide, Nat.mod_eq_of_lt value.toNat_lt]
  rw [foldBuf, leValueJoin, small, small, leLength, show (256 : Nat) ^ 8 = 2 ^ 64 by decide]

theorem foldBufLength (signature markHash : UInt64) : 8 * (foldBuf signature markHash).length = 128 := by
  simp [foldBuf]

theorem signatureMoves (signature signature' markHash : UInt64) :
    (crc64Bitwise constant (foldBuf signature' markHash) ^^^ crc64Bitwise constant (foldBuf signature markHash)).toBitVec
      = (shift constant.toBitVec)^[128] (signature' ^^^ signature).toBitVec := by
  have value : leValue (foldBuf signature' markHash) ^^^ leValue (foldBuf signature markHash) =
      2 ^ 0 * (signature' ^^^ signature).toNat := by
    rw [foldBufValue, foldBufValue, joinXor _ _ signature'.toNat_lt signature.toNat_lt, Nat.xor_self, Nat.mul_zero,
      Nat.add_zero, Nat.pow_zero, Nat.one_mul, UInt64.toNat_xor]
  have fits : (signature' ^^^ signature).toNat < 2 ^ 64 := (signature' ^^^ signature).toNat_lt
  have longer : (signature' ^^^ signature).toNat < 2 ^ 128 := lt_trans fits (by decide)
  rw [crcDifference constant (by simp [foldBuf]), foldBufLength, value, ← Nat.zero_add 128,
    feedPattern constant.toBitVec 0 128 _ longer fits]
  simp

theorem hashMoves (signature markHash markHash' : UInt64) :
    (crc64Bitwise constant (foldBuf signature markHash') ^^^ crc64Bitwise constant (foldBuf signature markHash)).toBitVec
      = (shift constant.toBitVec)^[64] (markHash' ^^^ markHash).toBitVec := by
  have value : leValue (foldBuf signature markHash') ^^^ leValue (foldBuf signature markHash) =
      2 ^ 64 * (markHash' ^^^ markHash).toNat := by
    rw [foldBufValue, foldBufValue, joinXor _ _ signature.toNat_lt signature.toNat_lt, Nat.xor_self, Nat.zero_add,
      UInt64.toNat_xor]
  have fits : (markHash' ^^^ markHash).toNat < 2 ^ 64 := (markHash' ^^^ markHash).toNat_lt
  rw [crcDifference constant (by simp [foldBuf]), foldBufLength, value,
    show (128 : Nat) = 64 + 64 from rfl, feedPattern constant.toBitVec 64 64 _ fits fits]
  simp

theorem crcBelow {k : Nat} (degree : Degree constant.toBitVec k) {data : Bytes} (long : 64 ≤ k + 8 * data.length) :
    (crc64Bitwise constant data ^^^ 0xFFFFFFFFFFFFFFFF).toNat < 2 ^ k := by
  have register : crc64Bitwise constant data ^^^ 0xFFFFFFFFFFFFFFFF = data.foldl (bitwiseByte constant) 0xFFFFFFFFFFFFFFFF := by
    apply UInt64.toBitVec_inj.mp
    rw [UInt64.toBitVec_xor, crc64Bitwise, UInt64.toBitVec_not]
    exact BitVec.xor_allOnes.trans BitVec.not_not
  rw [register, ← UInt64.toNat_toBitVec, bitwiseFold]
  refine feedAllBelow degree (r := 64 - k) ?_ ?_
  · rw [bitsLength]
    omega
  · exact lt_of_lt_of_le (BitVec.isLt _) (Nat.pow_le_pow_right (by decide) (by omega))

end Crc
section Marks
variable {polynomial : Crc64Polynomial}

def hashOf (polynomial : Crc64Polynomial) (text : Bytes) : UInt64 := crc64Bitwise (crc64Constant polynomial) text

def textOfMark (mark : Mark) : Option Bytes := markText mark.file mark.line mark.label

theorem crcStaysUsed {m : ChecksumManager} (uses : Uses m polynomial) (data : Bytes) :
    Uses (checksumCrc64 m data).1 polynomial := by
  simp only [checksumCrc64, uses.ready, uses.table, if_true]
  exact ⟨rfl, rfl⟩

theorem foldText {mark : Mark} (uses : Uses mark.checksum polynomial) {text : Bytes}
    (given : textOfMark mark = some text) (signature : UInt64) :
    (foldMark signature mark).2 = crc64Bitwise (crc64Constant polynomial) (foldBuf signature (hashOf polynomial text)) := by
  rw [textOfMark] at given
  simp only [foldMark, given]
  rw [crcUses (crcStaysUsed uses text), crcUses uses]
  rfl

theorem foldNothing {mark : Mark} (nothing : textOfMark mark = none) (signature : UInt64) :
    (foldMark signature mark).2 = signature := by
  rw [textOfMark] at nothing
  simp only [foldMark, nothing]

theorem marksMove {marks : List Mark} (used : ∀ mark ∈ marks, Uses mark.checksum polynomial)
    (signature signature' : UInt64) :
    (signatureFrom signature' marks ^^^ signatureFrom signature marks).toBitVec =
      (shift (crc64Constant polynomial).toBitVec)^[128 * marks.countP fun mark => (textOfMark mark).isSome]
        (signature' ^^^ signature).toBitVec := by
  induction marks generalizing signature signature' with
  | nil => rfl
  | cons mark rest ih =>
    have uses := used mark List.mem_cons_self
    have later := ih fun m member => used m (List.mem_cons_of_mem _ member)
    rw [signatureFrom, signatureFrom, List.foldl_cons, List.foldl_cons, ← signatureFrom, ← signatureFrom, later]
    cases given : textOfMark mark with
    | none => rw [foldNothing given, foldNothing given, List.countP_cons_of_neg (by simp [given])]
    | some text =>
      rw [foldText uses given, foldText uses given, signatureMoves, List.countP_cons_of_pos (by simp [given]), Nat.mul_succ,
        Function.iterate_add_apply]

def markDifference (polynomial : Crc64Polynomial) (after : List Mark) (textA textB : Bytes) : UInt64 :=
  ⟨(shift (crc64Constant polynomial).toBitVec)^[128 * after.countP (fun mark => (textOfMark mark).isSome) + 64]
    (hashOf polynomial textB ^^^ hashOf polynomial textA).toBitVec⟩

section OneMark
variable {before after : List Mark} {a b : Mark} {textA textB : Bytes}
  (used : ∀ mark ∈ a :: b :: after, Uses mark.checksum polynomial)
  (givenA : textOfMark a = some textA) (givenB : textOfMark b = some textB)
include used givenA givenB

theorem oneMarkMoves (signature : UInt64) :
    signatureFrom signature (before ++ b :: after) ^^^ signatureFrom signature (before ++ a :: after) =
      markDifference polynomial after textA textB := by
  have usesA := used a List.mem_cons_self
  have usesB := used b (List.mem_cons_of_mem _ List.mem_cons_self)
  have usesAfter : ∀ mark ∈ after, Uses mark.checksum polynomial := fun mark member =>
    used mark (List.mem_cons_of_mem _ (List.mem_cons_of_mem _ member))
  have split (mark : Mark) : signatureFrom signature (before ++ mark :: after) =
      signatureFrom (foldMark (signatureFrom signature before) mark).2 after := by
    simp [signatureFrom]
  apply UInt64.toBitVec_inj.mp
  rw [split, split, marksMove usesAfter, foldText usesA givenA, foldText usesB givenB, hashMoves, markDifference,
    Function.iterate_add_apply]

end OneMark

/- How far up the register reaches; the constants are not reflected. -/
def degreeOf : Crc64Polynomial → Nat
  | .ertms => 61
  | .iso => 5
  | .xz => 61

theorem ofDegree (polynomial : Crc64Polynomial) : Degree (crc64Constant polynomial).toBitVec (degreeOf polynomial) := by
  cases polynomial <;> exact ⟨by decide, by decide⟩

/- Long enough that its hash has come down: one byte, and eight under ISO. -/
def LongText (polynomial : Crc64Polynomial) (text : Bytes) : Prop := 64 ≤ degreeOf polynomial + 8 * text.length

instance (polynomial : Crc64Polynomial) (text : Bytes) : Decidable (LongText polynomial text) :=
  inferInstanceAs (Decidable (64 ≤ _))

theorem hashesApart {textA textB : Bytes} (longA : LongText polynomial textA) (longB : LongText polynomial textB) :
    (hashOf polynomial textB ^^^ hashOf polynomial textA).toNat < 2 ^ degreeOf polynomial := by
  have belowA := crcBelow _ (ofDegree polynomial) longA
  have belowB := crcBelow _ (ofDegree polynomial) longB
  have same : hashOf polynomial textB ^^^ hashOf polynomial textA =
      (hashOf polynomial textB ^^^ 0xFFFFFFFFFFFFFFFF) ^^^ (hashOf polynomial textA ^^^ 0xFFFFFFFFFFFFFFFF) := by
    rw [UInt64.xor_assoc, UInt64.xor_comm (hashOf polynomial textA), ← UInt64.xor_assoc 0xFFFFFFFFFFFFFFFF,
      UInt64.xor_self, UInt64.zero_xor]
  rw [same, UInt64.toNat_xor]
  exact Nat.xor_lt_two_pow belowB belowA

theorem foldXor (s s' : UInt64) :
    checkpointFoldSignature (s' ^^^ s) = checkpointFoldSignature s' ^^^ checkpointFoldSignature s := by
  apply UInt32.toBitVec_inj.mp
  ext i inside
  simp [checkpointFoldSignature]
  grind

/- Two cycles that differ in one mark have different signatures exactly where the marks have
different hashes; their checkpoint ids are the same exactly where the two halves of the
difference are. -/
theorem oneMarkNoticed {config config' : AppmanagerConfig} {ops ops' : AppmanagerOperations} {r r' : AppRun}
    (cycle : LifeCycle config ops r) (cycle' : LifeCycle config' ops' r') {checkpointId checkpointId' : UInt32}
    {before before' after after' : List Mark} {a b : Mark} {textA textB : Bytes}
    (meets : Meets r checkpointId (before ++ a :: after)) (meets' : Meets r' checkpointId' (before' ++ b :: after'))
    (sameBefore : List.Forall₂ SameMark before before') (sameAfter : List.Forall₂ SameMark after after')
    (used : ∀ mark ∈ a :: b :: after, Uses mark.checksum polynomial)
    (givenA : textOfMark a = some textA) (givenB : textOfMark b = some textB) (longA : LongText polynomial textA)
    (longB : LongText polynomial textB) :
    (signatureFrom checkpointSignatureSeed (before ++ a :: after) =
        signatureFrom checkpointSignatureSeed (before' ++ b :: after') ↔
      hashOf polynomial textA = hashOf polynomial textB) ∧
    (checkpointId = checkpointId' ↔ checkpointFoldSignature (markDifference polynomial after textA textB) = 0) := by
  have sameMark : SameMark b b := ⟨⟨rfl, rfl, rfl⟩, ⟨rfl, rfl⟩⟩
  -- the shared marks leave the same signature in both cycles
  have shared : signatureFrom checkpointSignatureSeed (before' ++ b :: after') =
      signatureFrom checkpointSignatureSeed (before ++ b :: after) :=
    signatureDepends (List.rel_append sameBefore (.cons sameMark sameAfter)) _
  have moved : signatureFrom checkpointSignatureSeed (before ++ b :: after) ^^^
      signatureFrom checkpointSignatureSeed (before ++ a :: after) = markDifference polynomial after textA textB :=
    oneMarkMoves used givenA givenB checkpointSignatureSeed
  constructor
  · have kept := shiftsKeepApart (ofDegree polynomial) (128 * after.countP (fun mark => (textOfMark mark).isSome) + 64)
      (hashesApart longA longB)
    calc signatureFrom checkpointSignatureSeed (before ++ a :: after) =
            signatureFrom checkpointSignatureSeed (before' ++ b :: after')
        ↔ markDifference polynomial after textA textB = 0 := by rw [shared, ← moved, UInt64.xor_eq_zero_iff, eq_comm]
      _ ↔ (hashOf polynomial textB ^^^ hashOf polynomial textA).toBitVec = 0#64 := by
          rw [← kept, ← UInt64.toBitVec_inj]
          rfl
      _ ↔ hashOf polynomial textA = hashOf polynomial textB := by
          rw [show (0#64) = (0 : UInt64).toBitVec from rfl, UInt64.toBitVec_inj, UInt64.xor_eq_zero_iff, eq_comm]
  · rw [meetingId cycle meets, meetingId cycle' meets', shared, ← moved, foldXor, UInt32.xor_eq_zero_iff, eq_comm]

def readyFor (polynomial : Crc64Polynomial) : ChecksumManager := (checksumCrc64Init unready polynomial).1

def lettersApart : Nat → Answer
  | 1 => ⟨[.useChecksum (readyFor .ertms), .mark none 0 (some [0x67]), .mark none 0 (some [0x41])], .ok⟩
  | 3 => ⟨[.mark none 0 (some [0x67]), .mark none 0 (some [0x42])], .ok⟩
  | _ => ⟨[], .ok⟩

def markAfter (done : UInt32) (letter : UInt8) : Mark :=
  ⟨{ readyFor .ertms with stats := { noStats with totalChecksums := done } }, none, 0, some [letter]⟩

def lettersRun : AppRun := appmanagerRun (some twoCycles) lettersApart 2 beforeRun

theorem lettersCycles : lettersRun.cycles =
    [[⟨.checkpoint 2573444325, .running, true, .ok, [], 0⟩,
        ⟨.execute, .running, true, .ok, [markAfter 4 0x67, markAfter 6 0x42], 0⟩],
      [⟨.checkpoint 1417413558, .running, true, .ok, [], 0⟩,
        ⟨.execute, .running, true, .ok, [markAfter 0 0x67, markAfter 2 0x41], 0⟩]] := by decide +kernel

theorem lettersNoticed :
    (signatureFrom checkpointSignatureSeed [markAfter 0 0x67, markAfter 2 0x41] =
        signatureFrom checkpointSignatureSeed [markAfter 4 0x67, markAfter 6 0x42] ↔
      hashOf .ertms [0x41] = hashOf .ertms [0x42]) ∧
    ((1417413558 : UInt32) = 2573444325 ↔ checkpointFoldSignature (markDifference .ertms [] [0x41] [0x42]) = 0) := by
  have cycle : LifeCycle twoCycles plainOps lettersRun := runKeeps rfl (by decide) 2
  have first : Meets lettersRun 1417413558 ([markAfter 0 0x67] ++ markAfter 2 0x41 :: []) := by
    rw [Meets, lettersCycles]
    exact ⟨_, List.mem_cons_of_mem _ List.mem_cons_self, [], _, [_], rfl, rfl, rfl⟩
  have second : Meets lettersRun 2573444325 ([markAfter 4 0x67] ++ markAfter 6 0x42 :: []) := by
    rw [Meets, lettersCycles]
    exact ⟨_, List.mem_cons_self, [], _, [_], rfl, rfl, rfl⟩
  have same : List.Forall₂ SameMark [markAfter 0 0x67] [markAfter 4 0x67] :=
    .cons ⟨⟨rfl, rfl, rfl⟩, ⟨rfl, rfl⟩⟩ .nil
  have used : ∀ mark ∈ markAfter 2 0x41 :: markAfter 6 0x42 :: [], Uses mark.checksum .ertms := by
    intro mark member
    rcases List.mem_pair.mp member with rfl | rfl <;> exact ⟨rfl, rfl⟩
  exact oneMarkNoticed cycle cycle first second same .nil used rfl rfl (by decide) (by decide)

theorem signatureBelow {marks : List Mark} (used : ∀ mark ∈ marks, Uses mark.checksum polynomial)
    (some_ : ∃ mark ∈ marks, (textOfMark mark).isSome = true) (signature : UInt64) :
    (signatureFrom signature marks ^^^ 0xFFFFFFFFFFFFFFFF).toNat < 2 ^ degreeOf polynomial := by
  induction marks using List.reverseRecOn with
  | nil =>
    obtain ⟨_, none_, _⟩ := some_
    cases none_
  | append_singleton init mark ih =>
    have last : signatureFrom signature (init ++ [mark]) = (foldMark (signatureFrom signature init) mark).2 := by
      simp [signatureFrom]
    have uses := used mark (List.mem_append_right _ (List.mem_singleton.mpr rfl))
    rw [last]
    cases given : textOfMark mark with
    | some text =>
      rw [foldText uses given]
      exact crcBelow _ (ofDegree polynomial) (by rw [foldBufLength]; omega)
    | none =>
      rw [foldNothing given]
      refine ih (fun m member => used m (List.mem_append_left _ member)) ?_
      obtain ⟨m, member, has⟩ := some_
      rcases List.mem_append.mp member with before | here
      · exact ⟨m, before, has⟩
      · rw [List.mem_singleton.mp here, given] at has
        cases has

/- Under the ISO polynomial the checkpoint id of a cycle with a mark is one of 32. -/
theorem isoIdsFew {config : AppmanagerConfig} {ops : AppmanagerOperations} {r : AppRun} (cycle : LifeCycle config ops r)
    {checkpointId : UInt32} {marks : List Mark} (meets : Meets r checkpointId marks)
    (used : ∀ mark ∈ marks, Uses mark.checksum .iso) (some_ : ∃ mark ∈ marks, (textOfMark mark).isSome = true) :
    checkpointId < 32 := by
  have below := signatureBelow used some_ checkpointSignatureSeed
  have each : ∀ low : Fin 32, checkpointFoldSignature (UInt64.ofNat low ^^^ 0xFFFFFFFFFFFFFFFF) < 32 := by decide
  have place := each ⟨_, below⟩
  rw [UInt64.ofNat_toNat, UInt64.xor_assoc, UInt64.xor_self, UInt64.xor_zero] at place
  rw [meetingId cycle meets]
  exact place

def oneCycle : AppmanagerConfig := ⟨some plainOps, 1, 0, true⟩

def markedOnce : Nat → Answer
  | 1 => ⟨[.useChecksum (readyFor .iso), .mark none 0 (some [0x41])], .ok⟩
  | _ => ⟨[], .ok⟩

def isoMark : Mark := ⟨readyFor .iso, none, 0, some [0x41]⟩

def isoRun : AppRun := appmanagerRun (some oneCycle) markedOnce 1 beforeRun

theorem isoLetter : Meets isoRun 11 [isoMark] ∧ (11 : UInt32) < 32 := by
  have cycle : LifeCycle oneCycle plainOps isoRun := runKeeps rfl (by decide) 1
  have meets : Meets isoRun 11 [isoMark] := by
    have cycles : isoRun.cycles =
        [[⟨.checkpoint 11, .running, true, .ok, [], 0⟩, ⟨.execute, .running, true, .ok, [isoMark], 0⟩]] := by
      decide +kernel
    rw [Meets, cycles]
    exact ⟨_, List.mem_cons_self, [], _, [_], rfl, rfl, rfl⟩
  refine ⟨meets, isoIdsFew cycle meets (fun mark member => ?_) ⟨_, List.mem_singleton.mpr rfl, rfl⟩⟩
  rw [List.mem_singleton.mp member]
  exact ⟨rfl, rfl⟩

end Marks
end PlatformRte.App
