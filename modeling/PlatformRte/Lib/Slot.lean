import Mathlib.Order.Basic
import PlatformRte.Lib.History

/-! A place for one entry. What is put there replaces what it held, and taking empties
it. -/
namespace PlatformRte
open History

/- taken: newest first. -/
structure Slot (α : Type*) where
  holds : Option α
  taken : List α

namespace Slot

variable {α : Type*}

def put (s : Slot α) (entry : α) : Slot α := { s with holds := some entry }

def take (s : Slot α) : Slot α := match s.holds with
  | none => s
  | some entry => ⟨none, entry :: s.taken⟩

theorem takeHeld {s : Slot α} {entry : α} (held : s.holds = some entry) : s.take = ⟨none, entry :: s.taken⟩ := by
  simp [take, held]

structure Once (s : Slot α) : Prop where
  unread : ∀ entry, s.holds = some entry → entry ∉ s.taken
  distinct : s.taken.Nodup

theorem oncePut {s : Slot α} (once : s.Once) {entry : α} (new : entry ∉ s.taken) : (s.put entry).Once := by
  refine ⟨fun other held => ?_, once.distinct⟩
  cases held
  exact new

theorem onceTake {s : Slot α} (once : s.Once) : s.take.Once := by
  cases held : s.holds with
  | none => simpa [take, held] using once
  | some entry =>
    rw [takeHeld held]
    exact ⟨by simp, List.nodup_cons.mpr ⟨once.unread entry held, once.distinct⟩⟩

def Keeps (wanted : α → Prop) (s : Slot α) : Prop := ∀ entry, wanted entry → entry ∈ s.taken ∨ s.holds = some entry

theorem keepsPut {wanted wanted' : α → Prop} {s : Slot α} (keeps : s.Keeps wanted) {entry : α}
    (spared : ∀ old, s.holds = some old → old = entry ∨ old ∈ s.taken ∨ ¬wanted' old)
    (more : ∀ other, wanted' other → wanted other ∨ other = entry) : (s.put entry).Keeps wanted' := by
  intro other want
  rcases more other want with before | rfl
  · rcases keeps other before with taken | held
    · exact Or.inl taken
    · rcases spared other held with rfl | taken | unwanted
      · exact Or.inr rfl
      · exact Or.inl taken
      · exact absurd want unwanted
  · exact Or.inr rfl

theorem keepsTake {wanted : α → Prop} {s : Slot α} (keeps : s.Keeps wanted) : s.take.Keeps wanted := by
  cases held : s.holds with
  | none => simpa [take, held] using keeps
  | some entry =>
    rw [takeHeld held]
    intro other want
    rcases keeps other want with taken | here
    · exact Or.inl (List.mem_cons_of_mem _ taken)
    · rw [held] at here
      cases here
      exact Or.inl List.mem_cons_self

def InOrder [LT α] (wanted : α → Prop) (s : Slot α) : Prop :=
  Each (fun entry earlier => ∀ smaller < entry, wanted smaller → smaller ∈ earlier) s.taken

theorem inOrderTake [Preorder α] {wanted : α → Prop} {s : Slot α} (inOrder : s.InOrder wanted)
    (keeps : s.Keeps wanted) : s.take.InOrder wanted := by
  cases held : s.holds with
  | none => simpa [take, held] using inOrder
  | some entry =>
    rw [takeHeld held]
    refine ⟨fun smaller less want => ?_, inOrder⟩
    rcases keeps smaller want with taken | here
    · exact taken
    · rw [held] at here
      cases here
      exact absurd less (lt_irrefl _)

end Slot
end PlatformRte
