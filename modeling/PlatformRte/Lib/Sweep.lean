import Mathlib.Data.List.Basic
import Mathlib.Tactic.Common

/-! Numbered queues that are read in rounds. A round takes one entry of each queue in
turn. An entry may hold an item, and the item of a later queue replaces an earlier one. -/
namespace PlatformRte.Sweep

variable {α : Type*}

def holds (queue : List (Option α)) (k : Nat) : Option α := queue[k]?.join

@[simp] theorem holdsHead (entry : Option α) (rest : List (Option α)) : holds (entry :: rest) 0 = entry := rfl

@[simp] theorem holdsNil (k : Nat) : holds ([] : List (Option α)) k = none := rfl

theorem holdsDrop (queue : List (Option α)) (d k : Nat) : holds (queue.drop d) k = holds queue (d + k) := by
  simp only [holds, List.getElem?_drop]

theorem holdsInside {queue : List (Option α)} {k : Nat} {item : α} (held : holds queue k = some item) :
    k < queue.length := by
  by_contra outside
  simp [holds, List.getElem?_eq_none (Nat.le_of_not_lt outside)] at held

def last (items : Nat → Option α) : Nat → Option α
  | 0 => none
  | n + 1 => (items n).or (last items n)

theorem lastNone {items : Nat → Option α} {n : Nat} : last items n = none ↔ ∀ i < n, items i = none := by
  induction n with
  | zero => simp [last]
  | succ n ih =>
    rw [last, Option.or_eq_none_iff, ih, Nat.forall_lt_succ_right]
    exact and_comm

theorem lastSome {items : Nat → Option α} {n : Nat} {item : α} :
    last items n = some item ↔ ∃ i < n, items i = some item ∧ ∀ j, i < j → j < n → items j = none := by
  induction n with
  | zero => simp [last]
  | succ n ih =>
    rw [last, Option.or_eq_some_iff]
    constructor
    · rintro (here | ⟨none_, before⟩)
      · exact ⟨n, Nat.lt_succ_self n, here, fun j after before => by omega⟩
      · obtain ⟨i, inside, held, later⟩ := ih.mp before
        refine ⟨i, by omega, held, fun j after before => ?_⟩
        rcases Nat.lt_or_ge j n with less | past
        · exact later j after less
        · rw [Nat.le_antisymm (Nat.lt_succ_iff.mp before) past]
          exact none_
    · rintro ⟨i, inside, held, later⟩
      rcases Nat.lt_or_ge i n with less | past
      · exact Or.inr ⟨later n less (Nat.lt_succ_self n), ih.mpr ⟨i, less, held, fun j after before =>
          later j after (by omega)⟩⟩
      · rw [Nat.le_antisymm (Nat.lt_succ_iff.mp inside) past] at held
        exact Or.inl held

theorem lastIsSome {items : Nat → Option α} {n : Nat} :
    (last items n).isSome = true ↔ ∃ i < n, (items i).isSome = true := by
  rw [← not_iff_not, Bool.not_eq_true, Option.isSome_eq_false_iff, Option.isNone_iff_eq_none, lastNone]
  simp

theorem lastCongr {items items' : Nat → Option α} {n : Nat} (same : ∀ i < n, items i = items' i) :
    last items n = last items' n := by
  induction n with
  | zero => rfl
  | succ n ih =>
    rw [last, last, same n (Nat.lt_succ_self n), ih fun i inside => same i (Nat.lt_succ_of_lt inside)]

def yielded (rounds : Nat → Option α) (n : Nat) : List α := (List.range n).filterMap rounds

theorem yieldedSucc (rounds : Nat → Option α) (n : Nat) :
    yielded rounds (n + 1) = (rounds 0).toList ++ yielded (fun k => rounds (k + 1)) n := by
  rw [yielded, List.range_succ_eq_map, List.filterMap_cons, List.filterMap_map]
  cases rounds 0 <;> rfl

theorem yieldedLast (rounds : Nat → Option α) (n : Nat) : (yielded rounds n).getLast? = last rounds n := by
  induction n with
  | zero => rfl
  | succ n ih =>
    rw [yielded, List.range_succ, List.filterMap_append, List.getLast?_append, ← yielded, ih, last]
    cases at_ : rounds n <;> simp [at_]

def Reached (rounds : Nat → Option α) (k : Nat) : Prop := ∀ j, 0 < j → j < k → (rounds j).isSome = true

structure Stops (rounds : Nat → Option α) (stop : Nat) : Prop where
  started : 0 < stop
  barren : rounds stop = none
  reached : Reached rounds stop

theorem reachedIff {rounds : Nat → Option α} {stop : Nat} (stops : Stops rounds stop) (k : Nat) :
    Reached rounds k ↔ k ≤ stop := by
  constructor
  · intro reached
    by_contra past
    have some_ := reached stop stops.started (Nat.lt_of_not_le past)
    rw [stops.barren] at some_
    cases some_
  · intro inside j after before
    exact stops.reached j after (Nat.lt_of_lt_of_le before inside)

/- What is found is read before the stop, if the reading gets there. -/
theorem foundBefore {rounds : Nat → Option α} {stop k : Nat} (stops : Stops rounds stop)
    (some_ : (rounds k).isSome = true) : Reached rounds k ↔ k < stop := by
  rw [reachedIff stops]
  refine ⟨fun inside => Nat.lt_of_le_of_ne inside ?_, Nat.le_of_lt⟩
  rintro rfl
  rw [stops.barren] at some_
  cases some_

end PlatformRte.Sweep
