import Mathlib.Data.List.Basic
import Mathlib.Order.MinMax

/-! Streaks of a log. A log is kept newest first, each of its entries may count, reset the
count or pass it by; the streak is the number of counting entries since the last reset, and
a counter that stops at a cap follows it up to the cap. -/
namespace PlatformRte.Streak

variable {α : Type*}

inductive Mark where
  | counts | resets | passes
  deriving DecidableEq, Repr

def streak (mark : α → Mark) (log : List α) : Nat :=
  (log.takeWhile fun entry => mark entry ≠ .resets).countP fun entry => mark entry = .counts

section Rules
variable {mark : α → Mark} {entry : α} {earlier : List α}

theorem streakCounts (counts : mark entry = .counts) : streak mark (entry :: earlier) = streak mark earlier + 1 := by
  simp [streak, counts]

theorem streakResets (resets : mark entry = .resets) : streak mark (entry :: earlier) = 0 := by
  simp [streak, resets]

theorem streakPasses (passes : mark entry = .passes) : streak mark (entry :: earlier) = streak mark earlier := by
  simp [streak, passes]

end Rules

def follows (cap counter length : Nat) : Prop := counter = min cap length

theorem followsZero (cap : Nat) : follows cap 0 0 := (Nat.min_zero cap).symm

theorem followsBump {cap counter length : Nat} (before : follows cap counter length) :
    follows cap (if counter < cap then counter + 1 else counter) (length + 1) := by
  unfold follows at *
  split <;> omega

/- Below the cap, the counter reaches a limit exactly when the streak does. -/
theorem followsReaches {cap counter length limit : Nat} (follow : follows cap counter length) (low : limit ≤ cap) :
    limit ≤ counter ↔ limit ≤ length := by
  unfold follows at follow
  omega

end PlatformRte.Streak
