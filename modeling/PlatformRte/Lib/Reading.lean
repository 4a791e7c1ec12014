import Mathlib.Data.List.TakeWhile

/-! Reading a text by position: a reader comes to a result, refuses, or leaves the text.
Beside it stands what is left of the text up to a limit, so that a reader by position can
be compared with one that takes the text from the front. -/
namespace PlatformRte

inductive Reading (ε α : Type) where
  | outside
  | refused (error : ε)
  | done (value : α)
  deriving DecidableEq, Repr

namespace Reading
variable {ε α β σ : Type}

def bind (r : Reading ε α) (next : α → Reading ε β) : Reading ε β :=
  match r with
  | .outside => .outside
  | .refused error => .refused error
  | .done value => next value

instance : Monad (Reading ε) where
  pure := .done
  bind := bind

@[simp] theorem doneBind (value : α) (next : α → Reading ε β) : (Reading.done value >>= next) = next value := rfl

def attempt : Reading ε α → Reading ε (Option α)
  | .outside => .outside
  | .refused _ => .done none
  | .done value => .done (some value)

def refuseAs (error : ε) : Reading ε α → Reading ε α
  | .outside => .outside
  | .refused _ => .refused error
  | .done value => .done value

@[simp] theorem attemptDone (value : α) : (Reading.done value : Reading ε α).attempt = .done (some value) := rfl

def readAt (text : List α) (pos : Nat) : Reading ε α :=
  match text[pos]? with
  | none => .outside
  | some item => .done item

def readRange (text : List α) (pos size : Nat) : Reading ε (List α) :=
  if pos + size ≤ text.length then .done ((text.drop pos).take size) else .outside

/- while (pos < limit && ok(text[pos])) pos++, with left = limit - pos. -/
def skipWhile (ok : α → Bool) (text : List α) : Nat → Nat → Reading ε Nat
  | 0, pos => .done pos
  | left + 1, pos => do
      let item ← readAt text pos
      if ok item then skipWhile ok text left (pos + 1) else .done pos

def foldWhile (ok : α → Bool) (step : σ → α → Except ε σ) (text : List α) : Nat → Nat → σ → Reading ε (σ × Nat)
  | 0, pos, value => .done (value, pos)
  | left + 1, pos, value => do
      let item ← readAt text pos
      if ok item then
        match step value item with
        | .error error => .refused error
        | .ok value => foldWhile ok step text left (pos + 1) value
      else .done (value, pos)

structure Stands (text : List α) (limit pos : Nat) (rest : List α) : Prop where
  inside : limit ≤ text.length
  before : pos ≤ limit
  left : (text.take limit).drop pos = rest

variable {text rest : List α} {limit pos : Nat}

theorem standsAtStart (text : List α) : Stands text text.length 0 text :=
  ⟨le_refl _, Nat.zero_le _, by rw [List.take_length, List.drop_zero]⟩

theorem Stands.length (stands : Stands text limit pos rest) : rest.length = limit - pos := by
  rw [← stands.left, List.length_drop, List.length_take, Nat.min_eq_left stands.inside]

theorem Stands.atEnd (stands : Stands text limit pos []) : pos = limit := by
  have length := stands.length
  have before := stands.before
  simp only [List.length_nil] at length
  omega

theorem Stands.skip (stands : Stands text limit pos rest) {size : Nat} (few : size ≤ rest.length) :
    Stands text limit (pos + size) (rest.drop size) := by
  have length := stands.length
  have before := stands.before
  exact ⟨stands.inside, by omega, by rw [← stands.left, List.drop_drop]⟩

theorem Stands.tail {item : α} (stands : Stands text limit pos (item :: rest)) : Stands text limit (pos + 1) rest :=
  stands.skip (Nat.succ_le_succ (Nat.zero_le _))

theorem Stands.next {item : α} (stands : Stands text limit pos (item :: rest)) : pos < limit := by
  have length := stands.length
  simp only [List.length_cons] at length
  omega

theorem Stands.read {item : α} (stands : Stands text limit pos (item :: rest)) :
    (readAt text pos : Reading ε α) = .done item := by
  have here : ((text.take limit).drop pos)[0]? = some item := by rw [stands.left]; rfl
  rw [List.getElem?_drop, Nat.add_zero, List.getElem?_take, if_pos stands.next] at here
  rw [readAt, here]

theorem Stands.peek (stands : Stands text limit pos rest) (atEnd : Reading ε β) (onItem : α → Reading ε β) :
    (if limit ≤ pos then atEnd else readAt text pos >>= onItem) =
      match rest.head? with
      | none => atEnd
      | some item => onItem item := by
  cases rest with
  | nil => exact if_pos stands.atEnd.ge
  | cons item rest =>
    rw [if_neg (Nat.not_le.mpr stands.next), stands.read]
    rfl

theorem Stands.readRange (stands : Stands text limit pos rest) {size : Nat} (few : size ≤ rest.length) :
    (readRange text pos size : Reading ε (List α)) = .done (rest.take size) := by
  have length := stands.length
  have inside := stands.inside
  have before := stands.before
  rw [Reading.readRange, if_pos (by omega), ← stands.left, List.drop_take, List.take_take,
    Nat.min_eq_left (by omega)]

theorem Stands.upTo {first last : List α} (stands : Stands text limit pos (first ++ last)) :
    Stands text (pos + first.length) pos first := by
  have length := stands.length
  have before := stands.before
  have inside := stands.inside
  rw [List.length_append] at length
  refine ⟨by omega, by omega, ?_⟩
  have taken := congrArg (List.take first.length) stands.left
  rw [List.take_left, List.take_drop, List.take_take, Nat.min_eq_left (by omega)] at taken
  exact taken

theorem takenWhile (ok : α → Bool) (rest : List α) :
    rest.take (rest.takeWhile ok).length = rest.takeWhile ok := by
  have taken := @List.take_left α (rest.takeWhile ok) (rest.dropWhile ok)
  rwa [List.takeWhile_append_dropWhile] at taken

theorem Stands.afterWhile (stands : Stands text limit pos rest) (ok : α → Bool) :
    Stands text limit (pos + (rest.takeWhile ok).length) (rest.dropWhile ok) := by
  have cut : rest.drop (rest.takeWhile ok).length = rest.dropWhile ok := by
    have dropped := @List.drop_left α (rest.takeWhile ok) (rest.dropWhile ok)
    rwa [List.takeWhile_append_dropWhile] at dropped
  rw [← cut]
  exact stands.skip ((List.takeWhile_sublist ok).length_le)

theorem Stands.skipWhile (stands : Stands text limit pos rest) (ok : α → Bool) :
    (skipWhile ok text (limit - pos) pos : Reading ε Nat) = .done (pos + (rest.takeWhile ok).length) := by
  induction rest generalizing pos with
  | nil =>
    rw [stands.atEnd, Nat.sub_self]
    rfl
  | cons item rest ih =>
    have next := stands.next
    obtain ⟨left, more⟩ : ∃ left, limit - pos = left + 1 := ⟨limit - pos - 1, by omega⟩
    rw [more, Reading.skipWhile, stands.read, doneBind]
    cases goes : ok item
    · rw [List.takeWhile_cons_of_neg (by simp [goes])]
      rfl
    · rw [List.takeWhile_cons_of_pos goes, if_pos rfl, show left = limit - (pos + 1) by omega, ih stands.tail,
        List.length_cons, ← Nat.add_assoc, Nat.add_right_comm]

theorem Stands.foldWhile (stands : Stands text limit pos rest) (ok : α → Bool) (step : σ → α → Except ε σ)
    (value : σ) :
    foldWhile ok step text (limit - pos) pos value =
      match (rest.takeWhile ok).foldlM step value with
      | .error error => .refused error
      | .ok value => .done (value, pos + (rest.takeWhile ok).length) := by
  induction rest generalizing pos value with
  | nil =>
    rw [stands.atEnd, Nat.sub_self]
    rfl
  | cons item rest ih =>
    have next := stands.next
    obtain ⟨left, more⟩ : ∃ left, limit - pos = left + 1 := ⟨limit - pos - 1, by omega⟩
    rw [more, Reading.foldWhile, stands.read, doneBind]
    cases goes : ok item
    · rw [List.takeWhile_cons_of_neg (by simp [goes])]
      rfl
    · rw [List.takeWhile_cons_of_pos goes, List.foldlM_cons, if_pos rfl]
      cases stepped : step value item with
      | error error => rfl
      | ok value' =>
        dsimp only
        rw [show left = limit - (pos + 1) by omega, ih stands.tail value', List.length_cons, ← Nat.add_assoc,
          Nat.add_right_comm]
        rfl

end Reading
end PlatformRte
