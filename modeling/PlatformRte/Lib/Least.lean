import Mathlib.Data.List.Lex
import Mathlib.Order.Lattice
import Mathlib.Order.Nat

/-! The scan for the least entry of a list: the place of the best entry so far is kept
and moves whenever a later entry is better. -/
namespace PlatformRte.Least

variable {α β : Type*}

def look (better : α → α → Bool) (xs : List α) (best i : Nat) : Nat :=
  match xs[i]?, xs[best]? with
  | some x, some y => if better x y then i else best
  | _, _ => best

def scan (better : α → α → Bool) (xs : List α) : Nat :=
  (List.range' 1 (xs.length - 1)).foldl (look better xs) 0

structure LeastOf [LE β] (key : α → β) (xs : List α) (k i : Nat) : Prop where
  seen : i < k
  inside : ∀ x, xs[i]? = some x → ∀ j y, j < k → xs[j]? = some y → key x ≤ key y

section Scan
variable [LinearOrder β] {better : α → α → Bool} {key : α → β} {xs : List α}

theorem lookLeast (agrees : ∀ a b, better a b = true ↔ key a < key b) {k best : Nat} (least : LeastOf key xs k best)
    (here : k < xs.length) : LeastOf key xs (k + 1) (look better xs best k) := by
  have within : best < xs.length := least.seen.trans here
  have bestHere : xs[best]? = some xs[best] := List.getElem?_eq_getElem within
  have next : xs[k]? = some xs[k] := List.getElem?_eq_getElem here
  simp only [look, next, bestHere]
  by_cases below : better xs[k] xs[best] = true
  · rw [if_pos below]
    have lower := (agrees _ _).mp below
    refine ⟨Nat.lt_succ_self k, fun x held j y bound there => ?_⟩
    obtain rfl : xs[k] = x := Option.some.inj (next.symm.trans held)
    rcases Nat.lt_succ_iff_lt_or_eq.mp bound with earlier | rfl
    · exact lower.le.trans (least.inside _ bestHere j y earlier there)
    · exact (congrArg key (Option.some.inj (next.symm.trans there))).le
  · rw [if_neg below]
    have upper := not_lt.mp ((agrees _ _).not.mp below)
    refine ⟨least.seen.trans (Nat.lt_succ_self k), fun x held j y bound there => ?_⟩
    obtain rfl : xs[best] = x := Option.some.inj (bestHere.symm.trans held)
    rcases Nat.lt_succ_iff_lt_or_eq.mp bound with earlier | rfl
    · exact least.inside _ bestHere j y earlier there
    · exact upper.trans_eq (congrArg key (Option.some.inj (next.symm.trans there)))

theorem scanLeast (agrees : ∀ a b, better a b = true ↔ key a < key b) (nonempty : xs ≠ []) :
    LeastOf key xs xs.length (scan better xs) := by
  have upTo (n : Nat) (bound : n + 1 ≤ xs.length) :
      LeastOf key xs (n + 1) ((List.range' 1 n).foldl (look better xs) 0) := by
    induction n with
    | zero =>
      refine ⟨Nat.zero_lt_one, fun x held j y below there => ?_⟩
      obtain rfl : j = 0 := Nat.lt_one_iff.mp below
      exact (congrArg key (Option.some.inj (held.symm.trans there))).le
    | succ n ih =>
      rw [List.range'_1_concat, List.foldl_append, Nat.add_comm 1 n]
      exact lookLeast agrees (ih (Nat.le_of_succ_le bound)) bound
  have positive := List.length_pos_iff.mpr nonempty
  have whole := upTo (xs.length - 1) (by omega)
  rwa [Nat.sub_add_cancel positive] at whole

theorem scanEntry (agrees : ∀ a b, better a b = true ↔ key a < key b) (nonempty : xs ≠ []) :
    ∃ x ∈ xs, xs[scan better xs]? = some x ∧ ∀ y ∈ xs, key x ≤ key y := by
  have least := scanLeast agrees nonempty
  have within : scan better xs < xs.length := least.seen
  have held : xs[scan better xs]? = some xs[scan better xs] := List.getElem?_eq_getElem within
  refine ⟨_, List.getElem_mem within, held, fun y member => ?_⟩
  obtain ⟨j, bound, rfl⟩ := List.getElem_of_mem member
  exact least.inside _ held j _ bound (List.getElem?_eq_getElem bound)

end Scan
end PlatformRte.Least
