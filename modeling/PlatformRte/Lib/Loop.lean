import Mathlib.Logic.Basic
import Mathlib.Tactic.ByContra

/-! Loops that read one input of a stream in each round, and may be left in any of them. -/
namespace PlatformRte.Loop

variable {σ τ ι κ : Type*}

def entering (round : σ → ι → Option σ) (start : Option σ) (inputs : Nat → ι) : Nat → Option σ
  | 0 => start
  | n + 1 => (entering round start inputs n).bind fun s => round s (inputs n)

def Ends (round : σ → ι → Option σ) (start : Option σ) (inputs : Nat → ι) : Prop :=
  ∃ n, entering round start inputs n = none

section Rules
variable {round : σ → ι → Option σ} {start : Option σ} {inputs : Nat → ι}

theorem enteringKeeps {P : Nat → σ → Prop} (begins : ∀ s, start = some s → P 0 s)
    (keeps : ∀ n s s', P n s → round s (inputs n) = some s' → P (n + 1) s') (n : Nat) (s : σ)
    (entered : entering round start inputs n = some s) : P n s := by
  induction n generalizing s with
  | zero => exact begins s entered
  | succ n ih =>
    obtain ⟨before, earlier, next⟩ := Option.bind_eq_some_iff.mp entered
    exact keeps n before s (ih before earlier) next

/- The inputs that leave the loop decide how far it gets. -/
theorem enteringIff {Leaves : Nat → Prop}
    (stays : ∀ n s, entering round start inputs n = some s → ((round s (inputs n)).isSome = true ↔ ¬Leaves n))
    (n : Nat) :
    (entering round start inputs n).isSome = true ↔ start.isSome = true ∧ ∀ m < n, ¬Leaves m := by
  induction n with
  | zero => simp [entering]
  | succ n ih =>
    have upTo : (start.isSome = true ∧ ∀ m < n + 1, ¬Leaves m) ↔
        (entering round start inputs n).isSome = true ∧ ¬Leaves n := by
      rw [ih, and_assoc, Nat.forall_lt_succ_right]
    rw [upTo, entering]
    cases entered : entering round start inputs n with
    | none => simp
    | some s => simpa using stays n s entered

theorem endsIff {Leaves : Nat → Prop}
    (stays : ∀ n s, entering round start inputs n = some s → ((round s (inputs n)).isSome = true ↔ ¬Leaves n)) :
    Ends round start inputs ↔ start = none ∨ ∃ n, Leaves n := by
  constructor
  · rintro ⟨n, ended⟩
    by_contra lasting
    rw [not_or, not_exists] at lasting
    have on := (enteringIff stays n).mpr ⟨Option.ne_none_iff_isSome.mp lasting.1, fun m _ => lasting.2 m⟩
    rw [ended] at on
    cases on
  · rintro (never | ⟨n, leaves⟩)
    · exact ⟨0, never⟩
    · refine ⟨n + 1, Option.not_isSome_iff_eq_none.mp fun on => ?_⟩
      exact ((enteringIff stays (n + 1)).mp on).2 n (Nat.lt_succ_self n) leaves

theorem enteringNone (n : Nat) : entering round none inputs n = none := by
  induction n with
  | zero => rfl
  | succ n ih => rw [entering, ih, Option.bind_none]

/- Two loops that stay and leave together. -/
theorem lockstep {other : τ → κ → Option τ} {first : Option τ} {answers : Nat → κ} {R : σ → τ → Prop}
    (begins : Option.Rel R start first)
    (together : ∀ n s t, entering round start inputs n = some s → R s t →
      Option.Rel R (round s (inputs n)) (other t (answers n))) (n : Nat) :
    Option.Rel R (entering round start inputs n) (entering other first answers n) := by
  induction n with
  | zero => exact begins
  | succ n ih =>
    cases entered : entering round start inputs n with
    | none =>
      rw [entered] at ih
      cases paired : entering other first answers n with
      | none =>
        simp only [entering, entered, paired, Option.bind_none]
        exact .none
      | some t =>
        rw [paired] at ih
        cases ih
    | some s =>
      rw [entered] at ih
      cases paired : entering other first answers n with
      | none =>
        rw [paired] at ih
        cases ih
      | some t =>
        rw [paired] at ih
        cases ih with
        | some related =>
          simp only [entering, entered, paired, Option.bind_some]
          exact together n s t entered related

theorem relMap {R : σ → τ → Prop} {f : σ → τ} {a : Option σ} {b : Option τ} (rel : Option.Rel R a b)
    (image : ∀ s t, R s t → f s = t) : a.map f = b := by
  cases rel with
  | none => rfl
  | some related => exact congrArg some (image _ _ related)

end Rules

end PlatformRte.Loop
