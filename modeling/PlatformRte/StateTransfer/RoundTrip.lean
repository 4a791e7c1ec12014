import PlatformRte.StateTransfer.Registry

/-! What was packed is unpacked again: every field lies in the buffer at the sum of the
sizes registered before it, and decoding restores the values that were encoded. -/
namespace PlatformRte.StateTransfer
open Bytes Memory

/- The live object of a field: how many bytes it has, and what of them is its value. -/
structure LiveObject where
  size : Nat
  value : Bytes → Bytes

def StateField.region (field : StateField) (object : LiveObject) : Region := ⟨field.data, object.size⟩

def StateField.valueIn (field : StateField) (object : LiveObject) (m : Memory) : Bytes :=
  object.value (read m field.data object.size)

structure Packs (live : Memory) (field : StateField) (piece : Bytes) : Prop where
  length : piece.length = field.size.toNat
  encoded : ∃ out, field.size.toNat ≤ out.length ∧
    encodeField live field out = (piece ++ out.drop field.size.toNat, .ok)

structure Inverts (field : StateField) (object : LiveObject) : Prop where
  within : ∀ live out, field.size.toNat ≤ out.length → ∃ piece : Bytes, piece.length = field.size.toNat ∧
    (encodeField live field out).1 = piece ++ out.drop field.size.toNat
  restores : ∀ live piece, Packs live field piece → ∀ m input, input.take field.size.toNat = piece →
    (decodeField m field input).2 = .ok ∧ ChangesOnly [field.region object] m (decodeField m field input).1 ∧
      field.valueIn object (decodeField m field input).1 = field.valueIn object live

theorem copyInverts {field : StateField} (encode : field.encodeFn = none) (decode : field.decodeFn = none) :
    Inverts field ⟨field.size.toNat, id⟩ := by
  refine ⟨fun live out room => ⟨read live field.data field.size.toNat, readLength _ _ _, ?_⟩, ?_⟩
  · simp [encodeField, encode, overwrite]
  · rintro live piece ⟨length, out, room, encoded⟩ m input rfl
    have copied : read live field.data field.size.toNat = input.take field.size.toNat := by
      simp only [encodeField, encode, overwrite, readLength, Prod.mk.injEq, and_true] at encoded
      exact List.append_cancel_right encoded
    simp only [decodeField, decode, StateField.valueIn, StateField.region, id]
    refine ⟨trivial, writeChanges m field.data (List.length_take_le _ _), ?_⟩
    have back := readWrite m field.data (input.take field.size.toNat)
    rw [length] at back
    rw [back, copied]

structure Transferable (fields : List StateField) (object : StateField → LiveObject) : Prop where
  copied : ∀ field ∈ fields, field.encodeFn = none → object field = ⟨field.size.toNat, id⟩
  custom : ∀ field ∈ fields, field.encodeFn.isSome = true → Inverts field (object field)
  apart : fields.Pairwise fun f g => Apart (f.region (object f)) (g.region (object g))

def sizes (fields : List StateField) : List Nat := fields.map fun field => field.size.toNat

section Sizes
variable {fields : List StateField}

theorem sizesCons (field : StateField) (fields : List StateField) :
    (sizes (field :: fields)).sum = field.size.toNat + (sizes fields).sum := by
  simp [sizes]

theorem encodedSizeSum (fits : (sizes fields).sum < 2 ^ 64) : (encodedSizeOf fields).toNat = (sizes fields).sum := by
  have from_ (total : UInt64) (fits : total.toNat + (sizes fields).sum < 2 ^ 64) :
      (fields.foldl (fun total field => total + field.size) total).toNat = total.toNat + (sizes fields).sum := by
    induction fields generalizing total with
    | nil => rfl
    | cons field rest ih =>
      rw [sizesCons] at fits ⊢
      have added : (total + field.size).toNat = total.toNat + field.size.toNat := by
        rw [UInt64.toNat_add, Nat.mod_eq_of_lt (by omega)]
      rw [List.foldl_cons, ih (by omega) (total + field.size) (by omega), added, Nat.add_assoc]
  have whole := from_ 0 (by simpa using fits)
  simpa [encodedSizeOf] using whole

theorem offsetNext {offset : UInt64} {field : StateField} (fits : offset.toNat + field.size.toNat < 2 ^ 64) :
    (offset + field.size).toNat = offset.toNat + field.size.toNat := by
  rw [UInt64.toNat_add, Nat.mod_eq_of_lt fits]

end Sizes

section Loops
variable {fields : List StateField} {object : StateField → LiveObject} {live : Memory}

theorem encodeFieldsPack (inverts : ∀ field ∈ fields, Inverts field (object field)) {offset total : UInt64}
    {out out' : Bytes} (fits : offset.toNat + (sizes fields).sum < 2 ^ 64)
    (room : offset.toNat + (sizes fields).sum ≤ out.length)
    (encoded : encodeFields live fields offset out = (out', .ok total)) :
    total.toNat = offset.toNat + (sizes fields).sum ∧ ∃ pieces, List.Forall₂ (Packs live) fields pieces ∧
      out' = out.take offset.toNat ++ (pieces.flatten ++ out.drop (offset.toNat + (sizes fields).sum)) := by
  induction fields generalizing offset out with
  | nil =>
    cases encoded
    exact ⟨rfl, [], .nil, by simp [sizes]⟩
  | cons field rest ih =>
    rw [sizesCons] at fits room ⊢
    have within : field.size.toNat ≤ (out.drop offset.toNat).length := by
      rw [List.length_drop]
      omega
    obtain ⟨piece, length, wrote⟩ := (inverts field List.mem_cons_self).within live (out.drop offset.toNat) within
    simp only [encodeFields] at encoded
    split at encoded
    · cases encoded
    rename_i succeeded
    have packs : Packs live field piece := ⟨length, _, within, Prod.ext wrote (not_not.mp succeeded)⟩
    have next : (offset + field.size).toNat = offset.toNat + field.size.toNat := offsetNext (by omega)
    rw [wrote, List.drop_drop] at encoded
    have before : (out.take offset.toNat ++ piece).length = (offset + field.size).toNat := by
      rw [next, List.length_append, List.length_take, length]
      omega
    rw [← List.append_assoc] at encoded
    obtain ⟨end_, pieces, packed, rfl⟩ := ih (fun f member => inverts f (List.mem_cons_of_mem _ member))
      (by omega) (by rw [List.length_append, before, List.length_drop]; omega) encoded
    refine ⟨by omega, piece :: pieces, .cons packs packed, ?_⟩
    have behind : (offset + field.size).toNat + (sizes rest).sum =
        (out.take offset.toNat ++ piece).length + (sizes rest).sum := by rw [before]
    rw [← before, List.take_left, before, behind, List.drop_length_add_append, List.drop_drop, List.flatten_cons]
    simp only [List.append_assoc, Nat.add_assoc]

theorem encodeFieldsStatus (inverts : ∀ field ∈ fields, Inverts field (object field)) {offset : UInt64} {out : Bytes}
    (fits : offset.toNat + (sizes fields).sum < 2 ^ 64) (room : offset.toNat + (sizes fields).sum ≤ out.length)
    (willing : ∀ field ∈ fields, ∀ out, field.size.toNat ≤ out.length → (encodeField live field out).2 = .ok) :
    ∃ out' total, encodeFields live fields offset out = (out', .ok total) := by
  induction fields generalizing offset out with
  | nil => exact ⟨out, offset, rfl⟩
  | cons field rest ih =>
    rw [sizesCons] at fits room
    have within : field.size.toNat ≤ (out.drop offset.toNat).length := by
      rw [List.length_drop]
      omega
    obtain ⟨piece, length, wrote⟩ := (inverts field List.mem_cons_self).within live (out.drop offset.toNat) within
    have next : (offset + field.size).toNat = offset.toNat + field.size.toNat := offsetNext (by omega)
    simp only [encodeFields, willing field List.mem_cons_self _ within, wrote]
    refine ih (fun f member => inverts f (List.mem_cons_of_mem _ member)) (by omega) ?_
      fun f member => willing f (List.mem_cons_of_mem _ member)
    simp only [List.length_append, List.length_take, List.length_drop, length]
    omega

theorem decodeFieldsRestore (inverts : ∀ field ∈ fields, Inverts field (object field))
    (apart : fields.Pairwise fun f g => Apart (f.region (object f)) (g.region (object g))) {pieces : List Bytes}
    (packed : List.Forall₂ (Packs live) fields pieces) {offset : UInt64} {input rest : Bytes}
    (fits : offset.toNat + (sizes fields).sum < 2 ^ 64) (here : input.drop offset.toNat = pieces.flatten ++ rest)
    (m : Memory) :
    (decodeFields fields offset input m).2 = .ok ∧
      ChangesOnly (fields.map fun f => f.region (object f)) m (decodeFields fields offset input m).1 ∧
      ∀ f ∈ fields, f.valueIn (object f) (decodeFields fields offset input m).1 = f.valueIn (object f) live := by
  induction packed generalizing offset m with
  | nil => exact ⟨rfl, ChangesOnly.refl _ m, by simp⟩
  | @cons field piece fields pieces packs packed ih =>
    rw [sizesCons] at fits
    obtain ⟨others, apart⟩ := List.pairwise_cons.mp apart
    rw [List.flatten_cons, List.append_assoc] at here
    have first : (input.drop offset.toNat).take field.size.toNat = piece := by
      rw [here, ← packs.length, List.take_left]
    have next : (offset + field.size).toNat = offset.toNat + field.size.toNat := offsetNext (by omega)
    have behind : input.drop (offset + field.size).toNat = pieces.flatten ++ rest := by
      rw [next, ← List.drop_drop, here, ← packs.length, List.drop_left]
    obtain ⟨succeeded, own, restored⟩ := (inverts field List.mem_cons_self).restores live piece packs m _ first
    obtain ⟨status, changes, values⟩ := ih (fun f member => inverts f (List.mem_cons_of_mem _ member)) apart
      (by omega) behind (decodeField m field (input.drop offset.toNat)).1
    simp only [decodeFields, succeeded]
    refine ⟨status, own.cons changes, fun f member => ?_⟩
    rcases List.mem_cons.mp member with rfl | later
    · have kept := readApart changes (r := f.region (object f)) fun s listed => by
        obtain ⟨g, among, rfl⟩ := List.mem_map.mp listed
        exact others g among
      exact (congrArg (object f).value kept).trans restored
    · exact values f later

end Loops

theorem packedLength {live : Memory} {fields : List StateField} {pieces : List Bytes}
    (packed : List.Forall₂ (Packs live) fields pieces) : pieces.flatten.length = (sizes fields).sum := by
  induction packed with
  | nil => rfl
  | cons packs _ ih => rw [List.flatten_cons, List.length_append, packs.length, ih, sizesCons]

theorem packedSplit {live : Memory} {before after : List StateField} {f : StateField} {pieces : List Bytes}
    (packed : List.Forall₂ (Packs live) (before ++ f :: after) pieces) :
    ∃ front piece rest, List.Forall₂ (Packs live) before front ∧ Packs live f piece ∧ pieces = front ++ piece :: rest := by
  induction before generalizing pieces with
  | nil =>
    cases packed with
    | cons packs _ => exact ⟨[], _, _, .nil, packs, rfl⟩
  | cons g before ih =>
    cases packed with
    | cons first tail =>
      obtain ⟨front, piece, rest, inFront, packs, rfl⟩ := ih tail
      exact ⟨_ :: front, piece, rest, .cons first inFront, packs, rfl⟩

theorem packedField {live : Memory} {fields before after : List StateField} {f : StateField} {pieces : List Bytes}
    (packed : List.Forall₂ (Packs live) fields pieces) (split : fields = before ++ f :: after) :
    Packs live f (field pieces.flatten (sizes before).sum f.size.toNat) := by
  subst split
  obtain ⟨front, piece, rest, inFront, packs, rfl⟩ := packedSplit packed
  have cut := fieldAppend front.flatten piece rest.flatten
  rw [packedLength inFront, packs.length] at cut
  rw [List.flatten_append, List.flatten_cons, cut]
  exact packs

theorem encodeFailed {live : Memory} {fields : List StateField} {offset : UInt64} {out out' : Bytes}
    {status : RteStatus} (failed : encodeFields live fields offset out = (out', .error status)) : status ≠ .ok := by
  induction fields generalizing offset out with
  | nil => cases failed
  | cons field rest ih =>
    simp only [encodeFields] at failed
    split at failed
    · cases failed
      assumption
    · exact ih failed

theorem encodeNoRoom (registry : StateTransferRegistry) (live : Memory) (out : Bytes) {outSize : UInt64}
    (outLen : Option UInt64) (short : outSize < stateTransferEncodedSize (some registry)) :
    stateTransferEncode (some registry) live (some out) outSize outLen = ⟨some out, outLen, .resourceExhausted⟩ := by
  simp only [stateTransferEncode, if_pos short]

theorem decodeShort (registry : StateTransferRegistry) (input : Bytes) {inLen : UInt64} (m : Memory)
    (short : inLen < stateTransferEncodedSize (some registry)) :
    stateTransferDecode (some registry) (some input) inLen m = (m, .resourceExhausted) := by
  simp only [stateTransferDecode, if_pos short]

structure RoundTrips (registry : StateTransferRegistry) (object : StateField → LiveObject) : Prop where
  size : (stateTransferEncodedSize (some registry)).toNat = (sizes registry.fields).sum
  encodes : ∀ live out outSize outLen, outSize.toNat ≤ out.length →
    stateTransferEncodedSize (some registry) ≤ outSize →
    (∀ f ∈ registry.fields, ∀ out, f.size.toNat ≤ out.length → (encodeField live f out).2 = .ok) →
      (stateTransferEncode (some registry) live (some out) outSize outLen).status = .ok
  written : ∀ live out outSize outLen, outSize.toNat ≤ out.length →
    (stateTransferEncode (some registry) live (some out) outSize outLen).status = .ok →
      (stateTransferEncode (some registry) live (some out) outSize outLen).outLen =
          outLen.map (fun _ => stateTransferEncodedSize (some registry)) ∧
        ∃ encoded, encoded.length = (sizes registry.fields).sum ∧
          (stateTransferEncode (some registry) live (some out) outSize outLen).out =
            some (encoded ++ out.drop (sizes registry.fields).sum) ∧
          (∀ before f after, registry.fields = before ++ f :: after →
            Packs live f (field encoded (sizes before).sum f.size.toNat)) ∧
          ∀ m input inLen, stateTransferEncodedSize (some registry) ≤ inLen →
            input.take (sizes registry.fields).sum = encoded →
              (stateTransferDecode (some registry) (some input) inLen m).2 = .ok ∧
                ChangesOnly (registry.fields.map fun f => f.region (object f)) m
                  (stateTransferDecode (some registry) (some input) inLen m).1 ∧
                ∀ f ∈ registry.fields, f.valueIn (object f)
                  (stateTransferDecode (some registry) (some input) inLen m).1 = f.valueIn (object f) live
  noRoom : ∀ live out outSize outLen, outSize < stateTransferEncodedSize (some registry) →
    stateTransferEncode (some registry) live (some out) outSize outLen = ⟨some out, outLen, .resourceExhausted⟩
  shortInput : ∀ m input inLen, inLen < stateTransferEncodedSize (some registry) →
    stateTransferDecode (some registry) (some input) inLen m = (m, .resourceExhausted)

theorem Transferable.inverts {registry : StateTransferRegistry} {object : StateField → LiveObject}
    (transferable : Transferable registry.fields object) : ∀ f ∈ registry.fields, Inverts f (object f) := by
  intro f member
  cases encode : f.encodeFn with
  | some encodeFn => exact transferable.custom f member (by rw [encode]; rfl)
  | none =>
    have decode : f.decodeFn = none := by
      have pair := registry.paired f member
      rw [encode] at pair
      exact Option.isSome_eq_false_iff.mp pair.symm |> Option.isNone_iff_eq_none.mp
    rw [transferable.copied f member encode]
    exact copyInverts encode decode

theorem encodeDone {registry : StateTransferRegistry} {object : StateField → LiveObject}
    (inverts : ∀ field ∈ registry.fields, Inverts field (object field))
    (fits : (sizes registry.fields).sum < 2 ^ 64) {live : Memory} {out : Bytes} {outSize : UInt64}
    {outLen : Option UInt64} (real : outSize.toNat ≤ out.length)
    (ok : (stateTransferEncode (some registry) live (some out) outSize outLen).status = .ok) :
    ∃ pieces, List.Forall₂ (Packs live) registry.fields pieces ∧
      stateTransferEncode (some registry) live (some out) outSize outLen =
        ⟨some (pieces.flatten ++ out.drop (sizes registry.fields).sum),
          outLen.map fun _ => stateTransferEncodedSize (some registry), .ok⟩ := by
  have size : (stateTransferEncodedSize (some registry)).toNat = (sizes registry.fields).sum := encodedSizeSum fits
  have start : (0 : UInt64).toNat + (sizes registry.fields).sum = (sizes registry.fields).sum := Nat.zero_add _
  by_cases short : outSize < stateTransferEncodedSize (some registry)
  · rw [encodeNoRoom registry live out outLen short] at ok
    cases ok
  have room : (sizes registry.fields).sum ≤ out.length :=
    size ▸ (UInt64.le_iff_toNat_le.mp (UInt64.not_lt.mp short)).trans real
  simp only [stateTransferEncode, if_neg short] at ok ⊢
  cases encoded : encodeFields live registry.fields 0 out with
  | mk out' result =>
    rw [encoded] at ok
    cases result with
    | error status => exact absurd ok (encodeFailed encoded)
    | ok total =>
      obtain ⟨end_, pieces, packed, rfl⟩ := encodeFieldsPack inverts (start.trans_lt fits) (start.trans_le room) encoded
      have whole : total = stateTransferEncodedSize (some registry) :=
        UInt64.toNat_inj.mp (end_.trans (start.trans size.symm))
      refine ⟨pieces, packed, ?_⟩
      rw [whole, start]
      rfl

theorem stateRoundTrip {registry : StateTransferRegistry} {object : StateField → LiveObject}
    (transferable : Transferable registry.fields object) (fits : (sizes registry.fields).sum < 2 ^ 64) :
    RoundTrips registry object := by
  have inverts := transferable.inverts
  have size : (stateTransferEncodedSize (some registry)).toNat = (sizes registry.fields).sum := encodedSizeSum fits
  have start : (0 : UInt64).toNat + (sizes registry.fields).sum = (sizes registry.fields).sum := Nat.zero_add _
  refine ⟨size, fun live out outSize outLen real large willing => ?_, fun live out outSize outLen real ok => ?_,
    fun live out outSize outLen short => encodeNoRoom registry live out outLen short,
    fun m input inLen short => decodeShort registry input m short⟩
  · have room : (sizes registry.fields).sum ≤ out.length := size ▸ (UInt64.le_iff_toNat_le.mp large).trans real
    obtain ⟨out', total, encoded⟩ : ∃ out' total, encodeFields live registry.fields 0 out = (out', .ok total) :=
      encodeFieldsStatus inverts (start.trans_lt fits) (start.trans_le room) willing
    simp only [stateTransferEncode, if_neg (UInt64.not_lt.mpr large), encoded]
  · obtain ⟨pieces, packed, done⟩ := encodeDone inverts fits real ok
    rw [done]
    refine ⟨rfl, pieces.flatten, packedLength packed, rfl, fun before f after split => packedField packed split,
      fun m input inLen enough taken => ?_⟩
    simp only [stateTransferDecode, if_neg (UInt64.not_lt.mpr enough)]
    have here : input.drop (0 : UInt64).toNat = pieces.flatten ++ input.drop (sizes registry.fields).sum := by
      rw [← taken]
      exact (List.take_append_drop _ input).symm
    exact decodeFieldsRestore inverts transferable.apart packed (start.trans_lt fits) here m

def flipEncode : StateFieldEncodeFn := fun live data out _ => (overwrite out [live data ^^^ 0xFF], .ok)

def flipDecode : StateFieldDecodeFn := fun live data input _ => (write live data [input.headD 0 ^^^ 0xFF], .ok)

def countField : StateField := ⟨some "count", 0, 4, none, none⟩
def flagsField : StateField := ⟨some "flags", 8, 1, some flipEncode, some flipDecode⟩

theorem flagsInverts : Inverts flagsField ⟨1, id⟩ := by
  refine ⟨fun live out room => ⟨[live 8 ^^^ 0xFF], rfl, rfl⟩, ?_⟩
  rintro live piece ⟨_, out, _, encoded⟩ m input rfl
  have wrote : [live 8 ^^^ 0xFF] = input.take 1 := List.append_cancel_right (congrArg Prod.fst encoded)
  have first : input.headD 0 = live 8 ^^^ 0xFF := by
    cases input with
    | nil => cases wrote
    | cons b rest => exact (List.cons.inj wrote).1.symm
  have back : input.headD 0 ^^^ 0xFF = live 8 := by
    rw [first, UInt8.xor_assoc, UInt8.xor_self, UInt8.xor_zero]
  have restored := readWrite m 8 [input.headD 0 ^^^ 0xFF]
  rw [back] at restored
  refine ⟨rfl, writeChanges m 8 (le_refl 1), ?_⟩
  simp only [StateField.valueIn, decodeField, flagsField, flipDecode, id, back]
  exact restored

def twoFields : StateTransferRegistry where
  fields := [countField, flagsField]
  few := by decide
  sized := by simp [countField, flagsField]
  paired := by simp [countField, flagsField]

theorem twoFieldsRoundTrip : RoundTrips twoFields fun field => ⟨field.size.toNat, id⟩ := by
  have custom : ∀ field ∈ twoFields.fields, field.encodeFn.isSome = true → Inverts field ⟨field.size.toNat, id⟩ := by
    intro field member given
    rcases List.mem_pair.mp member with rfl | rfl
    · cases given
    · exact flagsInverts
  refine stateRoundTrip ⟨fun field member plain => rfl, custom, ?_⟩ (by decide)
  exact List.pairwise_pair.mpr (Or.inl (by decide))

end PlatformRte.StateTransfer
