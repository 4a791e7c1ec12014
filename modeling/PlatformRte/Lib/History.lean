import Mathlib.Tactic.Basic

/-! Logs that are kept newest first, and what holds of every entry given the
entries before it. -/
namespace PlatformRte.History

variable {α : Type*} {P Q : α → List α → Prop}

def Each (P : α → List α → Prop) : List α → Prop
  | [] => True
  | entry :: earlier => P entry earlier ∧ Each P earlier

instance decidableEach [∀ entry earlier, Decidable (P entry earlier)] : ∀ log, Decidable (Each P log)
  | [] => isTrue True.intro
  | entry :: earlier =>
      have := decidableEach earlier
      inferInstanceAs (Decidable (P entry earlier ∧ Each P earlier))

theorem eachEarlier {later earlier : List α} (each : Each P (later ++ earlier)) : Each P earlier := by
  induction later with
  | nil => exact each
  | cons entry rest ih => exact ih each.2

theorem eachEntry {later earlier : List α} {entry : α} (each : Each P (later ++ entry :: earlier)) :
    P entry earlier := (eachEarlier each).1

theorem eachMono {log : List α} (imp : ∀ entry ∈ log, ∀ earlier, P entry earlier → Q entry earlier)
    (each : Each P log) : Each Q log := by
  induction log with
  | nil => exact True.intro
  | cons entry earlier ih =>
    exact ⟨imp entry List.mem_cons_self earlier each.1,
      ih (fun e member => imp e (List.mem_cons_of_mem _ member)) each.2⟩

end PlatformRte.History
