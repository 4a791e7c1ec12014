import Mathlib.Data.List.Basic

/-! Lists with a capacity, and pieces that are appended whole or not at all. -/
namespace PlatformRte

structure Capped (α : Type*) where
  capacity : Nat
  items : List α
  fits : items.length ≤ capacity

namespace Capped
variable {α : Type*}

def empty (α : Type*) (capacity : Nat) : Capped α := ⟨capacity, [], Nat.zero_le _⟩

def push (b : Capped α) (piece : List α) : Capped α :=
  if room : b.items.length + piece.length ≤ b.capacity then
    ⟨b.capacity, b.items ++ piece, by rwa [List.length_append]⟩
  else b

def pushAll (b : Capped α) (pieces : List (List α)) : Capped α := pieces.foldl push b

def taken (room : Nat) : List (List α) → List α
  | [] => []
  | piece :: rest => if piece.length ≤ room then piece ++ taken (room - piece.length) rest else taken room rest

def filled (room : Nat) : List Nat → Nat
  | [] => 0
  | size :: rest => if size ≤ room then size + filled (room - size) rest else filled room rest

def Repeats (room : Nat) (text : List α) : List (List α) → Prop
  | [] => True
  | piece :: rest =>
    if piece.length ≤ room then piece <+: text ∧ Repeats (room - piece.length) (text.drop piece.length) rest
    else Repeats room text rest

def NeverResumes (room : Nat) : List (List α) → Prop
  | [] => True
  | piece :: rest => if piece.length ≤ room then NeverResumes (room - piece.length) rest else Repeats room piece rest

instance repeatsDecidable [DecidableEq α] : (room : Nat) → (text : List α) → (pieces : List (List α)) →
    Decidable (Repeats room text pieces)
  | _, _, [] => isTrue trivial
  | room, text, piece :: rest =>
    have := repeatsDecidable (room - piece.length) (text.drop piece.length) rest
    have := repeatsDecidable room text rest
    inferInstanceAs (Decidable (if piece.length ≤ room then
      piece <+: text ∧ Repeats (room - piece.length) (text.drop piece.length) rest else Repeats room text rest))

instance neverResumesDecidable [DecidableEq α] : (room : Nat) → (pieces : List (List α)) →
    Decidable (NeverResumes room pieces)
  | _, [] => isTrue trivial
  | room, piece :: rest =>
    have := neverResumesDecidable (room - piece.length) rest
    inferInstanceAs (Decidable (if piece.length ≤ room then NeverResumes (room - piece.length) rest
      else Repeats room piece rest))

theorem takenLength (room : Nat) (pieces : List (List α)) :
    (taken room pieces).length = filled room (pieces.map List.length) := by
  induction pieces generalizing room with
  | nil => rfl
  | cons piece rest ih =>
    rw [taken, List.map_cons, filled]
    by_cases fits : piece.length ≤ room
    · rw [if_pos fits, if_pos fits, List.length_append, ih]
    · rw [if_neg fits, if_neg fits, ih]

theorem filledWithin (room : Nat) (sizes : List Nat) : filled room sizes ≤ room := by
  induction sizes generalizing room with
  | nil => exact Nat.zero_le _
  | cons size rest ih =>
    rw [filled]
    have less := ih (room - size)
    have same := ih room
    split <;> omega

theorem pushAllSnoc (b : Capped α) (pieces : List (List α)) (piece : List α) :
    b.pushAll (pieces ++ [piece]) = (b.pushAll pieces).push piece := by
  rw [pushAll, List.foldl_append]
  rfl

theorem pushAllItems (b : Capped α) (pieces : List (List α)) :
    (b.pushAll pieces).items = b.items ++ taken (b.capacity - b.items.length) pieces
      ∧ (b.pushAll pieces).capacity = b.capacity := by
  induction pieces generalizing b with
  | nil => exact ⟨(List.append_nil _).symm, rfl⟩
  | cons piece rest ih =>
    obtain ⟨items, capacity⟩ := ih (b.push piece)
    have bound := b.fits
    change ((b.push piece).pushAll rest).items = _ ∧ ((b.push piece).pushAll rest).capacity = _
    rw [items, capacity, taken]
    by_cases room : b.items.length + piece.length ≤ b.capacity
    · have left : b.capacity - (b.items.length + piece.length) = b.capacity - b.items.length - piece.length := by omega
      rw [push, dif_pos room, if_pos (by omega), List.length_append, left, List.append_assoc]
      exact ⟨rfl, rfl⟩
    · rw [push, dif_neg room, if_neg (by omega)]
      exact ⟨rfl, rfl⟩

theorem appendPrefix {first second text : List α} :
    first ++ second <+: text ↔ first <+: text ∧ second <+: text.drop first.length := by
  constructor
  · rintro ⟨rest, rfl⟩
    rw [List.append_assoc, List.drop_left]
    exact ⟨List.prefix_append _ _, List.prefix_append _ _⟩
  · rintro ⟨⟨rest, rfl⟩, behind⟩
    rw [List.drop_left] at behind
    exact (List.prefix_append_right_inj first).mpr behind

theorem takenRepeats (room : Nat) (text : List α) (pieces : List (List α)) :
    taken room pieces <+: text ↔ Repeats room text pieces := by
  induction pieces generalizing room text with
  | nil => exact ⟨fun _ => trivial, fun _ => List.nil_prefix⟩
  | cons piece rest ih =>
    rw [taken, Repeats]
    by_cases fits : piece.length ≤ room
    · rw [if_pos fits, if_pos fits, appendPrefix, ih]
    · rw [if_neg fits, if_neg fits, ih]

/- What was appended is a beginning of all pieces exactly when nothing resumes after a gap. -/
theorem takenPrefix (room : Nat) (pieces : List (List α)) :
    taken room pieces <+: pieces.flatten ↔ NeverResumes room pieces := by
  induction pieces generalizing room with
  | nil => exact ⟨fun _ => trivial, fun _ => List.prefix_refl _⟩
  | cons piece rest ih =>
    rw [taken, NeverResumes, List.flatten_cons]
    by_cases fits : piece.length ≤ room
    · rw [if_pos fits, if_pos fits, List.prefix_append_right_inj]
      exact ih _
    · have short : (taken room rest).length ≤ piece.length := by
        rw [takenLength]
        exact Nat.le_trans (filledWithin _ _) (Nat.le_of_not_le fits)
      rw [if_neg fits, if_neg fits, ← takenRepeats]
      exact ⟨fun whole => List.prefix_of_prefix_length_le whole (List.prefix_append _ _) short,
        fun part => part.trans (List.prefix_append _ _)⟩

theorem takenAll {room : Nat} {pieces : List (List α)} (fits : pieces.flatten.length ≤ room) :
    taken room pieces = pieces.flatten := by
  induction pieces generalizing room with
  | nil => rfl
  | cons piece rest ih =>
    rw [List.flatten_cons, List.length_append] at fits
    rw [taken, if_pos (by omega), ih (by omega), List.flatten_cons]

end Capped
end PlatformRte
