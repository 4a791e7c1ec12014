import PlatformRte.Lib.Machine
import Mathlib.Data.Finset.Basic
import Mathlib.Data.Finset.SDiff
import Mathlib.Logic.Function.Basic

/-! What is taken out of a store, used, and given back. Holders that keep to their own things
keep to each other's as well, and what is out is what they hold and what they have lost. -/
namespace PlatformRte.Ledger
open Machine

variable {α S E ι : Type*}

inductive Entry (α : Type*) where
  | taken (a : α)
  | used (a : α)
  | returned (a : α)
  deriving DecidableEq, Repr

section Moves
variable [DecidableEq α]

def move (out : Finset α) : Entry α → Finset α
  | .taken a => insert a out
  | .used _ => out
  | .returned a => out.erase a

def Fresh (out : Finset α) : Entry α → Prop
  | .taken a => a ∉ out
  | _ => True

def Own (out : Finset α) : Entry α → Prop
  | .taken _ => True
  | .used a => a ∈ out
  | .returned a => a ∈ out

instance (out : Finset α) : DecidablePred (Fresh out) := fun entry => by
  cases entry <;> unfold Fresh <;> infer_instance

instance (out : Finset α) : DecidablePred (Own out) := fun entry => by
  cases entry <;> unfold Own <;> infer_instance

theorem alwaysAppend {P : Finset α → Entry α → Prop} {out : Finset α} {first second : List (Entry α)} :
    Always move P out (first ++ second) ↔ Always move P out first ∧ Always move P (run move out first) second := by
  induction first generalizing out with
  | nil => exact ⟨fun all => ⟨alwaysNil _ _ _, all⟩, fun both => both.2⟩
  | cons entry rest ih =>
    rw [List.cons_append, alwaysCons, alwaysCons, ih, and_assoc]
    rfl

section Frame
variable {mine out : Finset α} {entries : List (Entry α)}

theorem moveSubset (part : mine ⊆ out) (entry : Entry α) : move mine entry ⊆ move out entry := by
  cases entry with
  | taken a => exact Finset.insert_subset_insert a part
  | used a => exact part
  | returned a => exact Finset.erase_subset_erase a part

theorem freshPart (part : mine ⊆ out) (fresh : Always move Fresh out entries) : Always move Fresh mine entries := by
  induction entries generalizing mine out with
  | nil => exact alwaysNil _ _ _
  | cons entry rest ih =>
    obtain ⟨here, later⟩ := alwaysCons.mp fresh
    refine alwaysCons.mpr ⟨?_, ih (moveSubset part entry) later⟩
    cases entry with
    | taken a => exact fun member => here (part member)
    | used a => trivial
    | returned a => trivial

/- Who keeps to his own leaves alone what the others have. -/
theorem frame (part : mine ⊆ out) (fresh : Always move Fresh out entries) (own : Always move Own mine entries) :
    Always move Own out entries ∧
      (∀ a, a ∈ run move out entries ↔ a ∈ run move mine entries ∨ (a ∈ out ∧ a ∉ mine)) ∧
      ∀ a, a ∈ out → a ∉ mine → a ∉ run move mine entries := by
  induction entries generalizing mine out with
  | nil =>
    refine ⟨alwaysNil _ _ _, fun a => ⟨fun member => ?_, ?_⟩, fun _ _ other => other⟩
    · by_cases has : a ∈ mine
      · exact Or.inl has
      · exact Or.inr ⟨member, has⟩
    · rintro (member | ⟨member, -⟩)
      · exact part member
      · exact member
  | cons entry rest ih =>
    obtain ⟨freshHere, freshLater⟩ := alwaysCons.mp fresh
    obtain ⟨ownHere, ownLater⟩ := alwaysCons.mp own
    obtain ⟨safe, after, kept⟩ := ih (moveSubset part entry) freshLater ownLater
    have here : Own out entry := by
      cases entry with
      | taken a => trivial
      | used a => exact part ownHere
      | returned a => exact part ownHere
    have others (a : α) : (a ∈ move out entry ∧ a ∉ move mine entry) ↔ (a ∈ out ∧ a ∉ mine) := by
      cases entry with
      | taken b =>
        have new : b ∉ out := freshHere
        simp only [move, Finset.mem_insert, not_or]
        constructor
        · rintro ⟨rfl | member, different, other⟩
          · exact absurd rfl different
          · exact ⟨member, other⟩
        · rintro ⟨member, other⟩
          exact ⟨Or.inr member, fun same => new (same ▸ member), other⟩
      | used b => exact Iff.rfl
      | returned b =>
        have held : b ∈ mine := ownHere
        simp only [move, Finset.mem_erase, not_and_or, not_not]
        constructor
        · rintro ⟨⟨different, member⟩, same | other⟩
          · exact absurd same different
          · exact ⟨member, other⟩
        · rintro ⟨member, other⟩
          exact ⟨⟨fun same => other (same ▸ held), member⟩, Or.inr other⟩
    refine ⟨alwaysCons.mpr ⟨here, safe⟩, fun a => ?_, fun a member other => ?_⟩
    · have moved : run move out (entry :: rest) = run move (move out entry) rest := rfl
      rw [moved, after, others]
      rfl
    · obtain ⟨member, other⟩ := (others a).mpr ⟨member, other⟩
      exact kept a member other

end Frame
section Each
variable {out : Finset α} {things : List α}

theorem ownTaken : Always move Own out (things.map .taken) := by
  induction things generalizing out with
  | nil => exact alwaysNil _ _ _
  | cons a rest ih => exact alwaysCons.mpr ⟨trivial, ih⟩

theorem freshTaken : Always move Fresh out (things.map .taken) ↔ things.Nodup ∧ ∀ a ∈ things, a ∉ out := by
  induction things generalizing out with
  | nil => exact ⟨fun _ => ⟨List.nodup_nil, by simp⟩, fun _ => alwaysNil _ _ _⟩
  | cons a rest ih =>
    rw [List.map_cons, alwaysCons, ih, List.nodup_cons]
    simp only [Fresh, move, Finset.mem_insert, List.mem_cons, not_or]
    constructor
    · rintro ⟨new, once, others⟩
      refine ⟨⟨fun member => (others a member).1 rfl, once⟩, ?_⟩
      rintro b (rfl | member)
      · exact new
      · exact (others b member).2
    · rintro ⟨⟨notLater, once⟩, others⟩
      refine ⟨others a (Or.inl rfl), once, fun b member => ⟨?_, others b (Or.inr member)⟩⟩
      rintro rfl
      exact notLater member

theorem takenOut (a : α) : a ∈ run move out (things.map .taken) ↔ a ∈ out ∨ a ∈ things := by
  induction things generalizing out with
  | nil => simp [run]
  | cons b rest ih =>
    have moved : run move out ((b :: rest).map .taken) = run move (insert b out) (rest.map .taken) := rfl
    rw [moved, ih, Finset.mem_insert, List.mem_cons]
    tauto

theorem ownReturned (once : things.Nodup) (own : ∀ a ∈ things, a ∈ out) : Always move Own out (things.map .returned) := by
  induction things generalizing out with
  | nil => exact alwaysNil _ _ _
  | cons a rest ih =>
    obtain ⟨notLater, once⟩ := List.nodup_cons.mp once
    refine alwaysCons.mpr ⟨own a List.mem_cons_self, ih once fun b member => ?_⟩
    have different : b ≠ a := by
      rintro rfl
      exact notLater member
    exact Finset.mem_erase.mpr ⟨different, own b (List.mem_cons_of_mem _ member)⟩

theorem returnedOut (a : α) : a ∈ run move out (things.map .returned) ↔ a ∈ out ∧ a ∉ things := by
  induction things generalizing out with
  | nil => simp [run]
  | cons b rest ih =>
    have moved : run move out ((b :: rest).map .returned) = run move (out.erase b) (rest.map .returned) := rfl
    rw [moved, ih, Finset.mem_erase, List.mem_cons]
    tauto

theorem ownUsed (own : ∀ a ∈ things, a ∈ out) : Always move Own out (things.map .used) := by
  induction things with
  | nil => exact alwaysNil _ _ _
  | cons a rest ih =>
    exact alwaysCons.mpr ⟨own a List.mem_cons_self, ih fun b member => own b (List.mem_cons_of_mem _ member)⟩

theorem usedOut : run move out (things.map .used) = out := by
  induction things with
  | nil => rfl
  | cons a rest ih => exact ih

end Each
end Moves

/- A component that takes things out: what it holds, and what it forgets with an event. -/
structure Holder (S E α : Type*) where
  step : S → E → S
  entries : S → E → List (Entry α)
  held : S → Finset α
  lost : S → E → Finset α

namespace Holder
variable (h : Holder S E α) [DecidableEq ι]

def poolStep (pool : ι → S) (event : ι × E) : ι → S :=
  Function.update pool event.1 (h.step (pool event.1) event.2)

def traceFrom (pool : ι → S) : List (ι × E) → List (Entry α)
  | [] => []
  | event :: rest => h.entries (pool event.1) event.2 ++ traceFrom (h.poolStep pool event) rest

theorem traceSnoc (pool : ι → S) (events : List (ι × E)) (event : ι × E) :
    h.traceFrom pool (events ++ [event]) =
      h.traceFrom pool events ++ h.entries (run h.poolStep pool events event.1) event.2 := by
  induction events generalizing pool with
  | nil => simp [traceFrom, run]
  | cons first rest ih =>
    rw [List.cons_append, traceFrom, traceFrom, ih, List.append_assoc]
    rfl

def LostIn (pool : ι → S) (events : List (ι × E)) (a : α) : Prop :=
  ∃ before i e after, events = before ++ (i, e) :: after ∧ a ∈ h.lost (run h.poolStep pool before i) e

theorem lostSnoc {pool : ι → S} {events : List (ι × E)} {event : ι × E} {a : α} :
    h.LostIn pool (events ++ [event]) a ↔
      h.LostIn pool events a ∨ a ∈ h.lost (run h.poolStep pool events event.1) event.2 := by
  constructor
  · rintro ⟨before, i, e, after, split, lost⟩
    rcases List.eq_nil_or_concat after with rfl | ⟨init, last, rfl⟩
    · obtain ⟨rfl, same⟩ := List.append_inj' split rfl
      cases same
      exact Or.inr lost
    · have shape : events ++ [event] = (before ++ (i, e) :: init) ++ [last] := by simpa using split
      obtain ⟨rfl, -⟩ := List.append_inj' shape rfl
      exact Or.inl ⟨before, i, e, init, rfl, lost⟩
  · rintro (⟨before, i, e, after, rfl, lost⟩ | lost)
    · exact ⟨before, i, e, after ++ [event], by simp, lost⟩
    · exact ⟨events, event.1, event.2, [], rfl, lost⟩

section Accounts
variable [DecidableEq α]

/- It keeps to its own, and has or has lost what is left of it. -/
structure Keeps (s : S) (e : E) : Prop where
  own : Always move Own (h.held s) (h.entries s e)
  left : ∀ a, a ∈ run move (h.held s) (h.entries s e) ↔ a ∈ h.held (h.step s e) ∨ a ∈ h.lost s e
  apart : ∀ a ∈ h.lost s e, a ∉ h.held (h.step s e)

theorem keepsOf {step : S → E → S} {entries : S → E → List (Entry α)} {held : S → Finset α} {lost : S → E → Finset α}
    {s : S} {e : E} (own : Always move Own (held s) (entries s e))
    (left : ∀ a, a ∈ run move (held s) (entries s e) ↔ a ∈ held (step s e) ∨ a ∈ lost s e)
    (apart : ∀ a ∈ lost s e, a ∉ held (step s e)) : Keeps ⟨step, entries, held, lost⟩ s e :=
  ⟨own, left, apart⟩

structure Accounts (pool : ι → S) (events : List (ι × E)) : Prop where
  own : Always move Own ∅ (h.traceFrom pool events)
  out : ∀ a, a ∈ run move ∅ (h.traceFrom pool events) ↔
    (∃ i, a ∈ h.held (run h.poolStep pool events i)) ∨ h.LostIn pool events a
  apart : ∀ i j, i ≠ j → ∀ a ∈ h.held (run h.poolStep pool events i), a ∉ h.held (run h.poolStep pool events j)
  lostApart : ∀ a, h.LostIn pool events a → ∀ i, a ∉ h.held (run h.poolStep pool events i)

variable {h} {Inv : S → Prop} {pool : ι → S} {events : List (ι × E)}

theorem accountsNil (none_ : ∀ i, h.held (pool i) = ∅) : h.Accounts pool [] := by
  have nothing (i : ι) (a : α) : a ∉ h.held (pool i) := by
    rw [none_ i]
    exact Finset.notMem_empty a
  have noneLost (a : α) : ¬h.LostIn pool [] a := by
    rintro ⟨before, i, e, after, split, -⟩
    simp at split
  refine ⟨alwaysNil _ _ _, fun a => ⟨fun member => ?_, ?_⟩, fun i j _ a member => ?_, fun a lost => ?_⟩
  · exact absurd member (Finset.notMem_empty a)
  · rintro (⟨i, member⟩ | lost)
    · exact absurd member (nothing i a)
    · exact absurd lost (noneLost a)
  · exact absurd member (nothing i a)
  · exact absurd lost (noneLost a)

theorem accountsSnoc {i : ι} {e : E} (accounts : h.Accounts pool events)
    (keeps : h.Keeps (run h.poolStep pool events i) e)
    (fresh : Always move Fresh (run move ∅ (h.traceFrom pool events)) (h.entries (run h.poolStep pool events i) e)) :
    h.Accounts pool (events ++ [(i, e)]) := by
  let now := run h.poolStep pool events
  let out := run move ∅ (h.traceFrom pool events)
  have part : h.held (now i) ⊆ out := fun a member => (accounts.out a).mpr (Or.inl ⟨i, member⟩)
  obtain ⟨safe, after, others⟩ := frame part fresh keeps.own
  have here : run h.poolStep pool (events ++ [(i, e)]) i = h.step (now i) e := by
    rw [runSnoc, poolStep, Function.update_self]
  have elsewhere {j : ι} (different : j ≠ i) : run h.poolStep pool (events ++ [(i, e)]) j = now j := by
    rw [runSnoc, poolStep, Function.update_of_ne different]
  have traced : run move ∅ (h.traceFrom pool (events ++ [(i, e)])) = run move out (h.entries (now i) e) := by
    rw [traceSnoc, runAppend]
  -- what another one holds, or what was lost, is out but not this holder's, and stays so
  have theirs {j : ι} (different : j ≠ i) {a : α} (member : a ∈ h.held (now j)) : a ∈ out ∧ a ∉ h.held (now i) :=
    ⟨(accounts.out a).mpr (Or.inl ⟨j, member⟩), accounts.apart j i different a member⟩
  have gone {a : α} (lost : h.LostIn pool events a) : a ∈ out ∧ a ∉ h.held (now i) :=
    ⟨(accounts.out a).mpr (Or.inr lost), accounts.lostApart a lost i⟩
  have notLeft {a : α} (outside : a ∈ out ∧ a ∉ h.held (now i)) : a ∉ h.held (h.step (now i) e) ∧ a ∉ h.lost (now i) e := by
    have not_ := others a outside.1 outside.2
    rw [keeps.left, not_or] at not_
    exact not_
  constructor
  · rw [traceSnoc]
    exact alwaysAppend.mpr ⟨accounts.own, safe⟩
  · intro a
    rw [traced, after, keeps.left, lostSnoc]
    constructor
    · rintro ((mine | lost) | ⟨member, notMine⟩)
      · exact Or.inl ⟨i, by rwa [here]⟩
      · exact Or.inr (Or.inr lost)
      · rcases (accounts.out a).mp member with ⟨j, held⟩ | lost
        · have different : j ≠ i := by
            rintro rfl
            exact notMine held
          exact Or.inl ⟨j, by rwa [elsewhere different]⟩
        · exact Or.inr (Or.inl lost)
    · rintro (⟨j, held⟩ | lost | lost)
      · by_cases same : j = i
        · subst same
          rw [here] at held
          exact Or.inl (Or.inl held)
        · rw [elsewhere same] at held
          exact Or.inr (theirs same held)
      · exact Or.inr (gone lost)
      · exact Or.inl (Or.inr lost)
  · intro j k different a held held'
    by_cases first : j = i
    · subst first
      rw [here] at held
      rw [elsewhere different.symm] at held'
      exact (notLeft (theirs different.symm held')).1 held
    · rw [elsewhere first] at held
      by_cases second : k = i
      · subst second
        rw [here] at held'
        exact (notLeft (theirs first held)).1 held'
      · rw [elsewhere second] at held'
        exact accounts.apart j k different a held held'
  · intro a lost j held
    by_cases same : j = i
    · subst same
      rw [here] at held
      rcases (lostSnoc h).mp lost with before | now_
      · exact (notLeft (gone before)).1 held
      · exact keeps.apart a now_ held
    · rw [elsewhere same] at held
      rcases (lostSnoc h).mp lost with before | now_
      · exact accounts.lostApart a before j held
      · exact (notLeft (theirs same held)).2 now_

/- Holders that keep to their own as long as they are handed new things, over a whole run. -/
theorem accountsRun (begun : ∀ i, Inv (pool i)) (none_ : ∀ i, h.held (pool i) = ∅)
    (keepsInv : ∀ s e, Inv s → Always move Fresh (h.held s) (h.entries s e) → Inv (h.step s e))
    (keeps : ∀ s e, Inv s → Always move Fresh (h.held s) (h.entries s e) → h.Keeps s e)
    (fresh : Always move Fresh ∅ (h.traceFrom pool events)) :
    h.Accounts pool events ∧ ∀ i, Inv (run h.poolStep pool events i) := by
  induction events using List.reverseRecOn with
  | nil => exact ⟨accountsNil none_, begun⟩
  | append_singleton init event ih =>
    obtain ⟨i, e⟩ := event
    rw [traceSnoc] at fresh
    obtain ⟨before, last⟩ := alwaysAppend.mp fresh
    obtain ⟨accounts, inv⟩ := ih before
    have part : h.held (run h.poolStep pool init i) ⊆ run move ∅ (h.traceFrom pool init) :=
      fun a member => (accounts.out a).mpr (Or.inl ⟨i, member⟩)
    have own := freshPart part last
    refine ⟨accountsSnoc accounts (keeps _ e (inv i) own) last, fun j => ?_⟩
    rw [runSnoc, poolStep]
    by_cases same : j = i
    · subst same
      rw [Function.update_self]
      exact keepsInv _ e (inv j) own
    · rw [Function.update_of_ne same]
      exact inv j

theorem accountsAlways (none_ : ∀ i, h.held (pool i) = ∅) (keeps : ∀ s e, h.Keeps s e)
    (fresh : Always move Fresh ∅ (h.traceFrom pool events)) : h.Accounts pool events := by
  let Inv (_ : S) : Prop := True
  have begun : ∀ i, Inv (pool i) := fun _ => trivial
  have still : ∀ s e, Inv s → Always move Fresh (h.held s) (h.entries s e) → Inv (h.step s e) := fun _ _ _ _ => trivial
  exact (accountsRun begun none_ still (fun s e _ _ => keeps s e) fresh).1

end Accounts
end Holder
end PlatformRte.Ledger
