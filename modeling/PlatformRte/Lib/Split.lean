import Mathlib.Data.List.TakeWhile

/-! A text cut at a delimiter: an empty piece before a delimiter counts, one behind the last
delimiter does not. -/
namespace PlatformRte.Split
variable {α : Type*} {delimiter : α}

theorem joinCons (piece next : List α) (later : List (List α)) :
    [delimiter].intercalate (piece :: next :: later)
      = piece ++ delimiter :: [delimiter].intercalate (next :: later) := by
  simp [List.intercalate]

theorem joinLonger (x : α) (piece : List α) (later : List (List α)) :
    [delimiter].intercalate ((x :: piece) :: later) = x :: [delimiter].intercalate (piece :: later) := by
  cases later with
  | nil => simp [List.intercalate]
  | cons next later => rw [joinCons, joinCons, List.cons_append]

theorem joinSnoc (parts : List (List α)) (last : List α) :
    [delimiter].intercalate (parts ++ [last]) =
      [delimiter].intercalate parts ++ (if parts = [] then [] else [delimiter]) ++ last := by
  induction parts with
  | nil => simp [List.intercalate]
  | cons part later ih =>
    cases later with
    | nil => simp [List.intercalate]
    | cons next behind =>
      rw [List.cons_append, List.cons_append, joinCons, ← List.cons_append, ih, joinCons]
      simp

variable [DecidableEq α]

def pieces (delimiter : α) : List α → List (List α)
  | [] => []
  | x :: rest =>
    if x = delimiter then [] :: pieces delimiter rest
    else
      match pieces delimiter rest with
      | [] => [[x]]
      | piece :: later => (x :: piece) :: later

def endsWith (text : List α) (delimiter : α) : Bool := decide (text.getLast? = some delimiter)

theorem piecesNil {text : List α} : pieces delimiter text = [] ↔ text = [] := by
  cases text with
  | nil => exact ⟨fun _ => rfl, fun _ => rfl⟩
  | cons x rest =>
    refine ⟨fun none => ?_, fun none => absurd none (List.cons_ne_nil _ _)⟩
    rw [pieces] at none
    split at none
    · cases none
    · split at none <;> cases none

theorem piecesStep {text : List α} (some_ : text ≠ []) :
    pieces delimiter text = text.takeWhile (fun x => x != delimiter)
      :: pieces delimiter (text.dropWhile fun x => x != delimiter).tail := by
  induction text with
  | nil => exact absurd rfl some_
  | cons x rest ih =>
    by_cases here : x = delimiter
    · simp [pieces, here]
    · have goesOn : (x != delimiter) = true := bne_iff_ne.mpr here
      rw [pieces, if_neg here, List.takeWhile_cons, if_pos goesOn, List.dropWhile_cons, if_pos goesOn]
      cases rest with
      | nil => rfl
      | cons y later => rw [ih (List.cons_ne_nil _ _)]

theorem joinPieces {text : List α} (some_ : text ≠ []) :
    [delimiter].intercalate (pieces delimiter text) ++ (if endsWith text delimiter then [delimiter] else []) = text := by
  induction text with
  | nil => exact absurd rfl some_
  | cons x rest ih =>
    cases rest with
    | nil =>
      by_cases here : x = delimiter
      · simp [pieces, endsWith, here, List.intercalate]
      · simp [pieces, endsWith, here, List.intercalate]
    | cons y later =>
      have tail := ih (List.cons_ne_nil _ _)
      have same : endsWith (x :: y :: later) delimiter = endsWith (y :: later) delimiter := by
        rw [endsWith, endsWith, List.getLast?_cons_cons]
      cases cut : pieces delimiter (y :: later) with
      | nil => exact absurd (piecesNil.mp cut) (List.cons_ne_nil _ _)
      | cons piece behind =>
        rw [cut] at tail
        rw [pieces, cut, same]
        by_cases here : x = delimiter
        · rw [if_pos here, joinCons, List.nil_append, List.cons_append, tail, here]
        · rw [if_neg here]
          dsimp only
          rw [joinLonger, List.cons_append, tail]

theorem piecesApart {first second : List α} (same : pieces delimiter first = pieces delimiter second) :
    first = second ∨ first = second ++ [delimiter] ∨ second = first ++ [delimiter] := by
  by_cases none : first = []
  · have alsoNone : second = [] := piecesNil.mp (same ▸ piecesNil.mpr none)
    exact Or.inl (none.trans alsoNone.symm)
  · have some_ : second ≠ [] := fun empty => none (piecesNil.mp (same.trans (piecesNil.mpr empty)))
    have one : [delimiter].intercalate (pieces delimiter first) ++ _ = first := joinPieces none
    have two : [delimiter].intercalate (pieces delimiter second) ++ _ = second := joinPieces some_
    rw [← same] at two
    rw [← one, ← two]
    split <;> split <;> simp

/- Pieces without a delimiter are found again in their join, if the last one is not empty. -/
theorem piecesJoin {parts : List (List α)} (whole : ∀ part ∈ parts, delimiter ∉ part)
    (last : parts.getLast? ≠ some []) : pieces delimiter ([delimiter].intercalate parts) = parts := by
  induction parts with
  | nil => rfl
  | cons part later ih =>
    have clean : ∀ x ∈ part, (x != delimiter) = true := fun x inside => by
      refine bne_iff_ne.mpr ?_
      rintro rfl
      exact whole part List.mem_cons_self inside
    cases later with
    | nil =>
      have some_ : part ≠ [] := fun empty => last (by rw [empty]; rfl)
      have single : [delimiter].intercalate [part] = part := by simp [List.intercalate]
      have all : part.takeWhile (fun x => x != delimiter) = part := List.takeWhile_eq_self_iff.mpr clean
      have none_ : part.dropWhile (fun x => x != delimiter) = [] := List.dropWhile_eq_nil_iff.mpr clean
      rw [single, piecesStep some_, all, none_]
      rfl
    | cons next behind =>
      have rest := ih (fun other inside => whole other (List.mem_cons_of_mem _ inside)) (by
        rwa [List.getLast?_cons_cons] at last)
      have stops : ∀ text : List α, (delimiter :: text).takeWhile (fun x => x != delimiter) = [] := fun text => by simp
      have cut : ∀ text : List α, (delimiter :: text).dropWhile (fun x => x != delimiter) = delimiter :: text :=
        fun text => by simp
      rw [joinCons, piecesStep (by simp), List.takeWhile_append_of_pos clean, List.dropWhile_append_of_pos clean, stops,
        cut, List.append_nil, List.tail_cons, rest]

end PlatformRte.Split
