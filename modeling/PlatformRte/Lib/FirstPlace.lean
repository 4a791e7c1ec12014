import Mathlib.Data.List.Basic

/-! The first place of a text at which a reader of its rest succeeds. -/
namespace PlatformRte.FirstPlace

variable {α β : Type*} {here : List α → Option β} {text : List α} {value : β}

def firstPlace (here : List α → Option β) : List α → Option β
  | [] => here []
  | item :: rest =>
      match here (item :: rest) with
      | some value => some value
      | none => firstPlace here rest

def ReadsFirst (here : List α → Option β) (text : List α) (value : β) : Prop :=
  ∃ before after, text = before ++ after ∧ here after = some value ∧
    ∀ earlier later, text = earlier ++ later → earlier.length < before.length → here later = none

def ReadsNowhere (here : List α → Option β) (text : List α) : Prop :=
  ∀ before after, text = before ++ after → here after = none

theorem nothingBefore {item : α} {rest : List α} (notHere : here (item :: rest) = none) {before : List α}
    (none_ : ∀ earlier later, rest = earlier ++ later → earlier.length < before.length → here later = none) :
    ∀ earlier later, item :: rest = earlier ++ later → earlier.length < (item :: before).length → here later = none := by
  intro earlier later split less
  cases earlier with
  | nil =>
    rw [List.nil_append] at split
    exact split ▸ notHere
  | cons first earlier => exact none_ earlier later (List.cons.inj split).2 (Nat.lt_of_succ_lt_succ less)

theorem firstPlaceSome (found : firstPlace here text = some value) : ReadsFirst here text value := by
  induction text with
  | nil => exact ⟨[], [], rfl, found, fun _ _ _ less => absurd less (Nat.not_lt_zero _)⟩
  | cons item rest ih =>
    rw [firstPlace] at found
    cases begins : here (item :: rest) with
    | some first =>
      rw [begins] at found
      cases found
      exact ⟨[], item :: rest, rfl, begins, fun _ _ _ less => absurd less (Nat.not_lt_zero _)⟩
    | none =>
      rw [begins] at found
      obtain ⟨before, after, rfl, reads, none_⟩ := ih found
      exact ⟨item :: before, after, rfl, reads, nothingBefore begins none_⟩

theorem firstPlaceNone (missing : firstPlace here text = none) : ReadsNowhere here text := by
  induction text with
  | nil =>
    rintro before after split
    obtain ⟨rfl, rfl⟩ := List.append_eq_nil_iff.mp split.symm
    exact missing
  | cons item rest ih =>
    rw [firstPlace] at missing
    cases begins : here (item :: rest) with
    | some first =>
      rw [begins] at missing
      cases missing
    | none =>
      rw [begins] at missing
      rintro before after split
      cases before with
      | nil =>
        rw [List.nil_append] at split
        exact split ▸ begins
      | cons first before => exact ih missing before after (List.cons.inj split).2

theorem readsFirstOnce {other : β} (first : ReadsFirst here text value) (again : ReadsFirst here text other) :
    value = other := by
  obtain ⟨before, after, split, reads, none_⟩ := first
  obtain ⟨before', after', split', reads', none'⟩ := again
  rcases Nat.lt_trichotomy before.length before'.length with less | same | more
  · rw [none' before after split less] at reads
    cases reads
  · obtain ⟨rfl, rfl⟩ := List.append_inj (split.symm.trans split') same
    exact Option.some.inj (reads.symm.trans reads')
  · rw [none_ before' after' split' more] at reads'
    cases reads'

theorem readsFirstSomewhere (first : ReadsFirst here text value) : ¬ReadsNowhere here text := by
  obtain ⟨before, after, split, reads, _⟩ := first
  intro nowhere
  rw [nowhere before after split] at reads
  cases reads

theorem firstPlaceIff : firstPlace here text = some value ↔ ReadsFirst here text value := by
  refine ⟨firstPlaceSome, fun first => ?_⟩
  cases found : firstPlace here text with
  | none => exact absurd (firstPlaceNone found) (readsFirstSomewhere first)
  | some other => rw [readsFirstOnce first (firstPlaceSome found)]

theorem nowhereIff : firstPlace here text = none ↔ ReadsNowhere here text := by
  refine ⟨firstPlaceNone, fun nowhere => ?_⟩
  cases found : firstPlace here text with
  | none => rfl
  | some value => exact absurd nowhere (readsFirstSomewhere (firstPlaceSome found))

end PlatformRte.FirstPlace
