import Mathlib.Data.List.Basic

/-! A line of entries: what goes in comes out in the same order, each entry once. -/
namespace PlatformRte

structure Fifo (α : Type*) where
  sent : List α
  taken : Nat
  bounded : taken ≤ sent.length

namespace Fifo

variable {α : Type*}

inductive Move (α : Type*) where
  | push (entry : α)
  | pull

def empty : Fifo α := ⟨[], 0, Nat.le_refl 0⟩

def move (q : Fifo α) : Move α → Fifo α
  | .push entry => ⟨q.sent ++ [entry], q.taken, by have := q.bounded; simp; omega⟩
  | .pull => if waiting : q.taken < q.sent.length then ⟨q.sent, q.taken + 1, waiting⟩ else q

def delivered (q : Fifo α) : List α := q.sent.take q.taken

theorem deliveredPrefix (q : Fifo α) : q.delivered <+: q.sent := List.take_prefix q.taken q.sent

@[simp] theorem pushSent (q : Fifo α) (entry : α) : (q.move (.push entry)).sent = q.sent ++ [entry] := rfl

@[simp] theorem pushTaken (q : Fifo α) (entry : α) : (q.move (.push entry)).taken = q.taken := rfl

@[simp] theorem pushDelivered (q : Fifo α) (entry : α) : (q.move (.push entry)).delivered = q.delivered :=
  List.take_append_of_le_length q.bounded

section Pull
variable {q : Fifo α} (waiting : q.taken < q.sent.length)
include waiting

theorem pullSent : (q.move .pull).sent = q.sent := by simp [move, waiting]

theorem pullTaken : (q.move .pull).taken = q.taken + 1 := by simp [move, waiting]

theorem pullDelivered : (q.move .pull).delivered = q.delivered ++ [q.sent[q.taken]] := by
  simp only [move, waiting, dif_pos, delivered]
  exact (List.take_append_getElem waiting).symm

end Pull
end Fifo
end PlatformRte
