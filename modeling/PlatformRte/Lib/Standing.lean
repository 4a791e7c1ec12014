import Mathlib.Data.List.Basic

/-! What a log leaves standing. A log is kept newest first, each of its entries may set
a value, clear it or say nothing about it, and the newest entry that says something
decides. -/
namespace PlatformRte.Standing

variable {α T : Type*}

inductive Effect (T : Type*) where
  | keeps
  | sets (value : T)
  | clears
  deriving DecidableEq

def standing (effect : α → Effect T) : List α → Option T
  | [] => none
  | entry :: earlier => match effect entry with
    | .keeps => standing effect earlier
    | .sets value => some value
    | .clears => none

section Rules
variable {effect : α → Effect T} {entry : α} {earlier : List α}

theorem standingKeeps (keeps : effect entry = .keeps) :
    standing effect (entry :: earlier) = standing effect earlier := by
  rw [standing, keeps]

theorem standingSets {value : T} (sets : effect entry = .sets value) :
    standing effect (entry :: earlier) = some value := by
  rw [standing, sets]

theorem standingClears (clears : effect entry = .clears) : standing effect (entry :: earlier) = none := by
  rw [standing, clears]

end Rules
end PlatformRte.Standing
