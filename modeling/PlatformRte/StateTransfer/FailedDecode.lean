import PlatformRte.StateTransfer.RoundTrip

/-! A decode that fails. Fields are decoded straight into the live state, one after the
other, and nothing is put back: what was decoded before the failing field stays. -/
namespace PlatformRte.StateTransfer
open Bytes Memory

/- A decoder that writes to its own object only, and not even there when it fails. -/
structure Contained (field : StateField) (object : LiveObject) : Prop where
  own : ∀ m input, ChangesOnly [field.region object] m (decodeField m field input).1
  unharmed : ∀ m input, (decodeField m field input).2 ≠ .ok →
    read (decodeField m field input).1 field.data object.size = read m field.data object.size

theorem copyContained {field : StateField} (plain : field.decodeFn = none) : Contained field ⟨field.size.toNat, id⟩ := by
  refine ⟨fun m input => ?_, fun m input failed => ?_⟩
  · simp only [decodeField, plain]
    exact writeChanges m field.data (List.length_take_le _ _)
  · simp only [decodeField, plain, ne_eq, not_true_eq_false] at failed

theorem Contained.failed {field : StateField} {object : LiveObject} (contained : Contained field object) {m : Memory}
    {input : Bytes} (failed : (decodeField m field input).2 ≠ .ok) : (decodeField m field input).1 = m := by
  funext a
  by_cases held : (field.region object).Holds a
  · have same := List.map_inj_left.mp (contained.unharmed m input failed)
    obtain ⟨low, high⟩ := held
    have here := same (a - field.data) (List.mem_range.mpr (by simp only [StateField.region] at low high; omega))
    rwa [show field.data + (a - field.data) = a from Nat.add_sub_cancel' low] at here
  · exact contained.own m input a fun r member => List.mem_singleton.mp member ▸ held

section Prefix
variable {fields : List StateField} {object : StateField → LiveObject} {input : Bytes}

theorem decodeFieldsChange (contained : ∀ field ∈ fields, Contained field (object field)) (offset : UInt64) (m : Memory) :
    ChangesOnly (fields.map fun f => f.region (object f)) m (decodeFields fields offset input m).1 := by
  induction fields generalizing offset m with
  | nil => exact ChangesOnly.refl _ m
  | cons field rest ih =>
    have first := (contained field List.mem_cons_self).own m (input.drop offset.toNat)
    simp only [decodeFields]
    split
    · exact first.cons (ChangesOnly.refl _ _)
    · exact first.cons (ih (fun f member => contained f (List.mem_cons_of_mem _ member)) _ _)

theorem decodeFieldsFailed (contained : ∀ field ∈ fields, Contained field (object field)) {offset : UInt64} {m : Memory}
    (failed : (decodeFields fields offset input m).2 ≠ .ok) :
    ∃ before f after, fields = before ++ f :: after ∧
      decodeFields before offset input m = ((decodeFields fields offset input m).1, .ok) ∧
      (decodeField (decodeFields fields offset input m).1 f
        (input.drop (before.foldl (fun total field => total + field.size) offset).toNat)).2 =
          (decodeFields fields offset input m).2 := by
  induction fields generalizing offset m with
  | nil => exact absurd rfl failed
  | cons field rest ih =>
    simp only [decodeFields] at failed ⊢
    split at failed
    · rename_i here
      rw [if_pos here]
      have kept := (contained field List.mem_cons_self).failed here
      refine ⟨[], field, rest, rfl, ?_, ?_⟩
      · rw [kept]
        rfl
      · rw [kept]
        rfl
    · rename_i done
      rw [if_neg done]
      obtain ⟨before, f, after, rfl, decoded, status⟩ :=
        ih (fun f member => contained f (List.mem_cons_of_mem _ member)) failed
      refine ⟨field :: before, f, after, rfl, ?_, status⟩
      simp only [decodeFields, if_neg done]
      exact decoded

end Prefix

/- What a failed decode has done: nothing, and then it was given NULL or too little, or
all of the fields before the failing one. -/
inductive FailedDecode (registry : Option StateTransferRegistry) (object : StateField → LiveObject)
    (input : Option Bytes) (inLen : UInt64) (live : Memory) (result : Memory × RteStatus) : Prop where
  | missing (null : registry = none ∨ input = none) (same : result = (live, .invalidParam))
  | short (given : registry ≠ none ∧ input ≠ none) (less : inLen < stateTransferEncodedSize registry)
      (same : result = (live, .resourceExhausted))
  | partway (held : StateTransferRegistry) (raw : Bytes) (given : registry = some held) (read_ : input = some raw)
      (enough : stateTransferEncodedSize registry ≤ inLen)
      (before : List StateField) (f : StateField) (after : List StateField)
      (split : held.fields = before ++ f :: after)
      (decoded : decodeFields before 0 raw live = (result.1, .ok))
      (failing : (decodeField result.1 f (raw.drop (encodedSizeOf before).toNat)).2 = result.2)
      (rest : ∀ g ∈ f :: after, (∀ h ∈ before, Apart (g.region (object g)) (h.region (object h))) →
        g.valueIn (object g) result.1 = g.valueIn (object g) live)

theorem failedDecode {registry : Option StateTransferRegistry} {object : StateField → LiveObject}
    (contained : ∀ held, registry = some held → ∀ field ∈ held.fields, Contained field (object field))
    {input : Option Bytes} {inLen : UInt64} {live : Memory}
    (failed : (stateTransferDecode registry input inLen live).2 ≠ .ok) :
    FailedDecode registry object input inLen live (stateTransferDecode registry input inLen live) := by
  match registry, input with
  | none, _ => exact .missing (Or.inl rfl) rfl
  | some held, none => exact .missing (Or.inr rfl) rfl
  | some held, some raw =>
    by_cases short : inLen < stateTransferEncodedSize (some held)
    · rw [decodeShort held raw live short]
      exact .short ⟨Option.some_ne_none held, Option.some_ne_none raw⟩ short rfl
    · simp only [stateTransferDecode, if_neg short] at failed ⊢
      have each := contained held rfl
      obtain ⟨before, f, after, split, decoded, failing⟩ := decodeFieldsFailed each failed
      refine .partway held raw rfl rfl (UInt64.not_lt.mp short) before f after split decoded failing fun g member apart => ?_
      have earlier : ∀ h ∈ before, Contained h (object h) := fun h listed =>
        each h (split ▸ List.mem_append_left _ listed)
      have changes : ChangesOnly (before.map fun h => h.region (object h)) live (decodeFields before 0 raw live).1 :=
        decodeFieldsChange earlier 0 live
      rw [decoded] at changes
      have kept := readApart changes (r := g.region (object g)) fun s listed => by
        obtain ⟨h, among, rfl⟩ := List.mem_map.mp listed
        exact apart h among
      exact congrArg (object g).value kept

def refuse : StateFieldDecodeFn := fun live _ _ _ => (live, .dataCorruption)

def modeField : StateField := ⟨some "mode", 0, 1, none, none⟩
def guardedField : StateField := ⟨some "guarded", 8, 1, some flipEncode, some refuse⟩

def guardedRegistry : StateTransferRegistry where
  fields := [modeField, guardedField]
  few := by decide
  sized := by simp [modeField, guardedField]
  paired := by simp [modeField, guardedField]

theorem guardedContained : ∀ field ∈ guardedRegistry.fields, Contained field ⟨field.size.toNat, id⟩ := by
  intro field member
  rcases List.mem_pair.mp member with rfl | rfl
  · exact copyContained rfl
  · exact ⟨fun m _ => ChangesOnly.refl _ m, fun _ _ _ => rfl⟩

def clearMemory : Memory := fun _ => 0

/- The first field has its new value although the second one was refused. -/
theorem modeOverwritten :
    (∀ field ∈ guardedRegistry.fields, Contained field ⟨field.size.toNat, id⟩) ∧
      (stateTransferDecode (some guardedRegistry) (some [7, 9]) 2 clearMemory).2 = .dataCorruption ∧
      ¬∀ field ∈ guardedRegistry.fields,
        field.valueIn ⟨field.size.toNat, id⟩ (stateTransferDecode (some guardedRegistry) (some [7, 9]) 2 clearMemory).1 =
          field.valueIn ⟨field.size.toNat, id⟩ clearMemory := by
  refine ⟨guardedContained, rfl, fun same => ?_⟩
  have first := same modeField List.mem_cons_self
  exact absurd first (by decide)

theorem guardedFailed : FailedDecode (some guardedRegistry) (fun field => ⟨field.size.toNat, id⟩) (some [7, 9]) 2
    clearMemory (stateTransferDecode (some guardedRegistry) (some [7, 9]) 2 clearMemory) :=
  failedDecode (fun held given => Option.some.inj given ▸ guardedContained)
    (show (stateTransferDecode (some guardedRegistry) (some [7, 9]) 2 clearMemory).2 ≠ .ok by decide)

end PlatformRte.StateTransfer
