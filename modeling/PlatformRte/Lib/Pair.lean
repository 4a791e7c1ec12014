import Mathlib.Tactic.Basic

/-! Two parties and a value for each of them. -/
namespace PlatformRte

inductive Party where
  | one | two
  deriving DecidableEq, Repr

namespace Party

def other : Party → Party
  | .one => .two
  | .two => .one

@[simp] theorem otherOther (p : Party) : p.other.other = p := by cases p <;> rfl

@[simp] theorem otherNe (p : Party) : p.other ≠ p := by cases p <;> simp [other]

@[simp] theorem neOther (p : Party) : p ≠ p.other := by cases p <;> simp [other]

theorem eqOrOther (p q : Party) : q = p ∨ q = p.other := by
  cases p <;> cases q <;> simp [other]

end Party

structure Pair (α : Type*) where
  one : α
  two : α
  deriving DecidableEq, Repr

namespace Pair

variable {α : Type*}

def get (pair : Pair α) : Party → α
  | .one => pair.one
  | .two => pair.two

def set (pair : Pair α) (p : Party) (value : α) : Pair α := match p with
  | .one => { pair with one := value }
  | .two => { pair with two := value }

@[simp] theorem getSet (pair : Pair α) (p : Party) (value : α) : (pair.set p value).get p = value := by
  cases p <;> rfl

@[simp] theorem getSetOther (pair : Pair α) (p : Party) (value : α) :
    (pair.set p value).get p.other = pair.get p.other := by
  cases p <;> rfl

@[simp] theorem getOtherSet (pair : Pair α) (p : Party) (value : α) :
    (pair.set p.other value).get p = pair.get p := by
  cases p <;> rfl

theorem setGet (pair : Pair α) (p : Party) : pair.set p (pair.get p) = pair := by cases p <;> rfl

def map {β : Type*} (f : α → β) (pair : Pair α) : Pair β := ⟨f pair.one, f pair.two⟩

@[simp] theorem getMap {β : Type*} (f : α → β) (pair : Pair α) (p : Party) : (pair.map f).get p = f (pair.get p) := by
  cases p <;> rfl

@[simp] theorem mapSet {β : Type*} (f : α → β) (pair : Pair α) (p : Party) (value : α) :
    (pair.set p value).map f = (pair.map f).set p (f value) := by
  cases p <;> rfl

theorem setKeeps {P : α → Prop} {pair : Pair α} {p : Party} {value : α} (one : P value) (all : ∀ q, P (pair.get q))
    (q : Party) : P ((pair.set p value).get q) := by
  rcases Party.eqOrOther p q with rfl | rfl
  · rw [getSet]
    exact one
  · rw [getSetOther]
    exact all p.other

theorem setBoth {R : α → α → Prop} {pair : Pair α} {p : Party} {value : α} (own : R value (pair.get p.other))
    (other : R (pair.get p.other) value) (q : Party) :
    R ((pair.set p value).get q) ((pair.set p value).get q.other) := by
  rcases Party.eqOrOther p q with rfl | rfl
  · rw [getSet, getSetOther]
    exact own
  · rw [Party.otherOther, getSet, getSetOther]
    exact other

theorem setGetOther (pair : Pair α) (p : Party) (value : α) :
    (pair.set p value).set p.other (pair.get p.other) = pair.set p value := by
  cases p <;> rfl

end Pair
end PlatformRte
