import Mathlib.Data.List.Basic
import Mathlib.Data.List.Count
import Mathlib.Data.List.Induction
import Mathlib.Order.Nat

/-! Classes of a list by first match: an entry joins the class of the first earlier
entry it matches, or opens a class of its own. Classes are numbered in the order in
which they are opened. -/
namespace PlatformRte.FirstMatch

variable {α : Type*}

/- members: the entries in order, each with the number of its class. compared: the
pairs that were looked at, in order. -/
structure Classes (α : Type*) where
  members : List (α × Nat)
  sizes : List Nat
  compared : List (α × α)

def place (same : α → α → Bool) (c : Classes α) (x : α) : Classes α :=
  let looked := c.members.take (c.members.findIdx (fun m => same x m.1) + 1)
  let compared := c.compared ++ looked.map fun m => (x, m.1)
  match c.members.find? fun m => same x m.1 with
  | some m => ⟨c.members ++ [(x, m.2)], c.sizes.modify m.2 (· + 1), compared⟩
  | none => ⟨c.members ++ [(x, c.sizes.length)], c.sizes ++ [1], compared⟩

def classes (same : α → α → Bool) (xs : List α) : Classes α := xs.foldl (place same) ⟨[], [], []⟩

theorem classesSnoc (same : α → α → Bool) (xs : List α) (x : α) :
    classes same (xs ++ [x]) = place same (classes same xs) x := by
  simp [classes]

structure Sound (same : α → α → Bool) (xs : List α) (c : Classes α) : Prop where
  values : c.members.map Prod.fst = xs
  inside : ∀ m ∈ c.members, m.2 < c.sizes.length
  sizes : ∀ g, g < c.sizes.length → c.sizes[g]? = some (c.members.countP fun m => m.2 == g)
  opened : ∀ g, g < c.sizes.length → ∃ m ∈ c.members, m.2 = g
  joined : ∀ before m after, c.members = before ++ m :: after →
    (∃ e ∈ before, e.2 = m.2 ∧ same m.1 e.1 = true) ∨ ∀ e ∈ before, e.2 < m.2 ∧ same m.1 e.1 = false

section Place
variable {same : α → α → Bool} {xs : List α} {c : Classes α}

theorem placeMember {x : α} {m : α × Nat} (found : (c.members.find? fun m => same x m.1) = some m) :
    (place same c x).members = c.members ++ [(x, m.2)] ∧
      (place same c x).sizes = c.sizes.modify m.2 (· + 1) := by
  simp [place, found]

theorem placeNew {x : α} (none_ : (c.members.find? fun m => same x m.1) = none) :
    (place same c x).members = c.members ++ [(x, c.sizes.length)] ∧ (place same c x).sizes = c.sizes ++ [1] := by
  simp [place, none_]

theorem splitSnoc {before after : List (α × Nat)} {members : List (α × Nat)} {m last : α × Nat}
    (split : members ++ [last] = before ++ m :: after) :
    (m = last ∧ before = members) ∨ ∃ rest, members = before ++ m :: rest := by
  rcases List.eq_nil_or_concat after with rfl | ⟨rest, z, rfl⟩
  · obtain ⟨rfl, same⟩ := List.append_inj' split rfl
    cases same
    exact Or.inl ⟨rfl, rfl⟩
  · have shape : members ++ [last] = (before ++ m :: rest) ++ [z] := by simpa using split
    exact Or.inr ⟨rest, (List.append_inj' shape rfl).1⟩

theorem soundPlace (sound : Sound same xs c) (x : α) : Sound same (xs ++ [x]) (place same c x) := by
  cases found : c.members.find? fun m => same x m.1 with
  | some m =>
    obtain ⟨members, sizes⟩ := placeMember found
    have earlier : m ∈ c.members := List.mem_of_find?_eq_some found
    have matched : same x m.1 = true := by simpa using List.find?_some found
    have inside := sound.inside m earlier
    refine ⟨?_, ?_, ?_, ?_, ?_⟩ <;> rw [members]
    · simp [sound.values]
    · rw [sizes, List.length_modify]
      intro e member
      rcases List.mem_append.mp member with old | new
      · exact sound.inside e old
      · cases List.mem_singleton.mp new
        exact inside
    · rw [sizes, List.length_modify]
      intro g bound
      rw [List.getElem?_modify, sound.sizes g bound, List.countP_append]
      by_cases own : m.2 = g <;> simp [own]
    · rw [sizes, List.length_modify]
      intro g bound
      obtain ⟨e, member, class_⟩ := sound.opened g bound
      exact ⟨e, List.mem_append_left _ member, class_⟩
    · intro before e after split
      rcases splitSnoc split with ⟨rfl, rfl⟩ | ⟨rest, old⟩
      · exact Or.inl ⟨m, earlier, rfl, matched⟩
      · exact sound.joined before e rest old
  | none =>
    obtain ⟨members, sizes⟩ := placeNew found
    have length : (place same c x).sizes.length = c.sizes.length + 1 := by simp [sizes]
    refine ⟨?_, ?_, ?_, ?_, ?_⟩ <;> rw [members]
    · simp [sound.values]
    · rw [length]
      intro e member
      rcases List.mem_append.mp member with old | new
      · exact Nat.lt_succ_of_lt (sound.inside e old)
      · cases List.mem_singleton.mp new
        exact Nat.lt_succ_self _
    · rw [length]
      intro g bound
      rw [sizes, List.countP_append]
      rcases Nat.lt_succ_iff_lt_or_eq.mp bound with old | rfl
      · rw [List.getElem?_append_left old, sound.sizes g old]
        simp [Nat.ne_of_gt old]
      · have fresh : (c.members.countP fun m => m.2 == c.sizes.length) = 0 := by
          rw [List.countP_eq_zero]
          intro e member
          simpa using Nat.ne_of_lt (sound.inside e member)
        simp [fresh]
    · rw [length]
      intro g bound
      rcases Nat.lt_succ_iff_lt_or_eq.mp bound with old | rfl
      · obtain ⟨e, member, class_⟩ := sound.opened g old
        exact ⟨e, List.mem_append_left _ member, class_⟩
      · exact ⟨(x, c.sizes.length), by simp, rfl⟩
    · intro before e after split
      rcases splitSnoc split with ⟨rfl, rfl⟩ | ⟨rest, old⟩
      · refine Or.inr fun e member => ⟨sound.inside e member, ?_⟩
        simpa using List.find?_eq_none.mp found e member
      · exact sound.joined before e rest old

end Place

theorem soundClasses (same : α → α → Bool) (xs : List α) : Sound same xs (classes same xs) := by
  induction xs using List.reverseRecOn with
  | nil =>
    refine ⟨rfl, ?_, ?_, ?_, ?_⟩
    · simp [classes]
    · simp [classes]
    · simp [classes]
    · intro before m after split
      simp [classes] at split
  | append_singleton xs x ih =>
    rw [classesSnoc]
    exact soundPlace ih x

def ofClass (c : Classes α) (g : Nat) : List α := (c.members.filter fun m => m.2 == g).map Prod.fst

theorem ofClassSublist {same : α → α → Bool} {xs : List α} {c : Classes α} (sound : Sound same xs c) (g : Nat) :
    (ofClass c g).Sublist xs := by
  have part := (List.filter_sublist (p := fun m : α × Nat => m.2 == g) (l := c.members)).map Prod.fst
  rwa [sound.values] at part

theorem ofClassLength {same : α → α → Bool} {xs : List α} {c : Classes α} (sound : Sound same xs c) {g : Nat}
    (bound : g < c.sizes.length) : c.sizes[g]? = some (ofClass c g).length := by
  rw [sound.sizes g bound, ofClass, List.length_map, List.countP_eq_length_filter]

structure EquivalenceOn (same : α → α → Bool) (xs : List α) : Prop where
  refl : ∀ a ∈ xs, same a a = true
  symm : ∀ a ∈ xs, ∀ b ∈ xs, same a b = true → same b a = true
  trans : ∀ a ∈ xs, ∀ b ∈ xs, ∀ c ∈ xs, same a b = true → same b c = true → same a c = true

theorem EquivalenceOn.sublist {same : α → α → Bool} {xs ys : List α} (equivalence : EquivalenceOn same xs)
    (part : ys.Sublist xs) : EquivalenceOn same ys where
  refl a member := equivalence.refl a (part.mem member)
  symm a member b member' := equivalence.symm a (part.mem member) b (part.mem member')
  trans a member b member' c member'' :=
    equivalence.trans a (part.mem member) b (part.mem member') c (part.mem member'')

/- Under an equivalence two entries are in one class exactly if they match. -/
theorem sameClass {same : α → α → Bool} {xs : List α} (equivalence : EquivalenceOn same xs) :
    ∀ m ∈ (classes same xs).members, ∀ e ∈ (classes same xs).members, m.2 = e.2 ↔ same m.1 e.1 = true := by
  induction xs using List.reverseRecOn with
  | nil =>
    intro m member
    simp [classes] at member
  | append_singleton xs x ih =>
    rw [classesSnoc]
    have sound := soundClasses same xs
    have ih := ih (equivalence.sublist (List.sublist_append_left xs [x]))
    have present : ∀ e ∈ (classes same xs).members, e.1 ∈ xs ++ [x] := by
      intro e member
      have value := List.mem_map_of_mem (f := Prod.fst) member
      rw [sound.values] at value
      exact List.mem_append_left [x] value
    have last : x ∈ xs ++ [x] := by simp
    -- how the new entry stands to each of the old ones
    have new : ∃ g, (place same (classes same xs) x).members = (classes same xs).members ++ [(x, g)] ∧
        ∀ e ∈ (classes same xs).members, g = e.2 ↔ same x e.1 = true := by
      cases found : (classes same xs).members.find? fun m => same x m.1 with
      | some m =>
        have earlier : m ∈ (classes same xs).members := List.mem_of_find?_eq_some found
        have matched : same x m.1 = true := by simpa using List.find?_some found
        have back := equivalence.symm x last m.1 (present m earlier) matched
        refine ⟨m.2, (placeMember found).1, fun e member => (ih m earlier e member).trans ?_⟩
        exact ⟨equivalence.trans x last m.1 (present m earlier) e.1 (present e member) matched,
          equivalence.trans m.1 (present m earlier) x last e.1 (present e member) back⟩
      | none =>
        refine ⟨_, (placeNew found).1, fun e member => ?_⟩
        have apart := List.find?_eq_none.mp found e member
        exact ⟨fun equal => absurd equal (Nat.ne_of_gt (sound.inside e member)), fun matched => absurd matched apart⟩
    obtain ⟨g, members, class_⟩ := new
    rw [members]
    intro m member e member'
    rcases List.mem_append.mp member with old | new
    · rcases List.mem_append.mp member' with old' | new'
      · exact ih m old e old'
      · cases List.mem_singleton.mp new'
        rw [eq_comm, class_ m old]
        exact ⟨equivalence.symm x last m.1 (present m old), equivalence.symm m.1 (present m old) x last⟩
    · cases List.mem_singleton.mp new
      rcases List.mem_append.mp member' with old' | new'
      · exact class_ e old'
      · cases List.mem_singleton.mp new'
        exact iff_of_true rfl (equivalence.refl x last)

structure Largest where
  group : Nat
  count : Nat
  deriving DecidableEq, Repr

def larger (best : Largest) (s : Nat × Nat) : Largest := if best.count < s.1 then ⟨s.2, s.1⟩ else best

def largest (sizes : List Nat) : Largest := sizes.zipIdx.foldl larger ⟨0, 0⟩

theorem largestSnoc (sizes : List Nat) (n : Nat) :
    largest (sizes ++ [n]) = larger (largest sizes) (n, sizes.length) := by
  simp [largest, List.zipIdx_append]

theorem largestSpec (sizes : List Nat) :
    (∀ n ∈ sizes, n ≤ (largest sizes).count) ∧
      (0 < (largest sizes).count → sizes[(largest sizes).group]? = some (largest sizes).count ∧
        ∀ j < (largest sizes).group, ∀ n, sizes[j]? = some n → n < (largest sizes).count) := by
  induction sizes using List.reverseRecOn with
  | nil => simp [largest]
  | append_singleton sizes n ih =>
    obtain ⟨upper, first⟩ := ih
    rw [largestSnoc, larger]
    split
    · rename_i more
      refine ⟨fun k member => ?_, fun _ => ⟨by simp, fun j before k found => ?_⟩⟩
      · rcases List.mem_append.mp member with old | last
        · exact le_of_lt (lt_of_le_of_lt (upper k old) more)
        · exact le_of_eq (List.mem_singleton.mp last)
      · rw [List.getElem?_append_left before] at found
        exact lt_of_le_of_lt (upper k (List.mem_of_getElem? found)) more
    · rename_i most
      refine ⟨fun k member => ?_, fun positive => ?_⟩
      · rcases List.mem_append.mp member with old | last
        · exact upper k old
        · cases List.mem_singleton.mp last
          exact Nat.le_of_not_lt most
      · obtain ⟨found, before⟩ := first positive
        obtain ⟨bound, _⟩ := List.getElem?_eq_some_iff.mp found
        refine ⟨by rw [List.getElem?_append_left bound]; exact found, fun j earlier k at_ => ?_⟩
        rw [List.getElem?_append_left (Nat.lt_trans earlier bound)] at at_
        exact before j earlier k at_

theorem largestClass {same : α → α → Bool} {xs : List α} {c : Classes α} (sound : Sound same xs c) :
    (ofClass c (largest c.sizes).group).length = (largest c.sizes).count ∨ (largest c.sizes).count = 0 := by
  rcases Nat.eq_zero_or_pos (largest c.sizes).count with none_ | positive
  · exact Or.inr none_
  · obtain ⟨found, _⟩ := (largestSpec c.sizes).2 positive
    obtain ⟨bound, _⟩ := List.getElem?_eq_some_iff.mp found
    rw [ofClassLength sound bound] at found
    exact Or.inl (Option.some.inj found)

theorem largestLe (same : α → α → Bool) (xs : List α) : (largest (classes same xs).sizes).count ≤ xs.length := by
  have sound := soundClasses same xs
  rcases largestClass sound with size | none_
  · rw [← size]
    exact (ofClassSublist sound _).length_le
  · rw [none_]
    exact Nat.zero_le _

def firstOf (c : Classes α) (g : Nat) : Option α := (c.members.find? fun m => m.2 == g).map Prod.fst

theorem firstOfClass (c : Classes α) (g : Nat) : firstOf c g = (ofClass c g).head? := by
  rw [firstOf, ofClass, List.head?_map, List.head?_filter]

theorem pairOfClass {same : α → α → Bool} {xs : List α} {c : Classes α} (sound : Sound same xs c) {g : Nat}
    (two : 2 ≤ (ofClass c g).length) :
    ∃ first second, firstOf c g = some first ∧ [first, second].Sublist xs ∧ same second first = true := by
  rcases entries : c.members.filter (fun m => m.2 == g) with _ | ⟨m, _ | ⟨e, rest⟩⟩
  · simp [ofClass, entries] at two
  · simp [ofClass, entries] at two
  · obtain ⟨before, after, members, none_, own, tail⟩ := List.filter_eq_cons_iff.mp entries
    obtain ⟨between, last, split, none', own', _⟩ := List.filter_eq_cons_iff.mp tail
    rw [beq_iff_eq] at own own'
    have shape : c.members = (before ++ m :: between) ++ e :: last := by rw [members, split]; simp
    have matched : same e.1 m.1 = true := by
      rcases sound.joined _ e last shape with ⟨x, member, class_, matched⟩ | opened
      · rcases List.mem_append.mp member with early | late
        · exact absurd (by simpa [own'] using class_) (none_ x early)
        · rcases List.mem_cons.mp late with rfl | inner
          · exact matched
          · exact absurd (by simpa [own'] using class_) (none' x inner)
      · have smaller := (opened m (by simp)).1
        rw [own, own'] at smaller
        exact absurd smaller (Nat.lt_irrefl g)
    refine ⟨m.1, e.1, ?_, ?_, matched⟩
    · rw [firstOfClass, ofClass, entries]
      rfl
    · have part := ofClassSublist sound g
      rw [ofClass, entries] at part
      exact (by simp : [m.1, e.1].Sublist (List.map Prod.fst (m :: e :: rest))).trans part

theorem ofClassMatch {same : α → α → Bool} {xs : List α} (equivalence : EquivalenceOn same xs) (g : Nat) :
    ∀ x ∈ ofClass (classes same xs) g, ∀ y ∈ ofClass (classes same xs) g, same x y = true := by
  intro x member y member'
  obtain ⟨m, inside, rfl⟩ := List.mem_map.mp member
  obtain ⟨e, inside', rfl⟩ := List.mem_map.mp member'
  obtain ⟨old, class_⟩ := List.mem_filter.mp inside
  obtain ⟨old', class'⟩ := List.mem_filter.mp inside'
  rw [beq_iff_eq] at class_ class'
  exact (sameClass equivalence m old e old').mp (class_.trans class'.symm)

theorem classesOneGroup {same : α → α → Bool} {x : α} {xs : List α} (matched : ∀ y ∈ xs, same y x = true) :
    (∃ rest, (classes same (x :: xs)).members = (x, 0) :: rest) ∧ (classes same (x :: xs)).sizes = [xs.length + 1] := by
  induction xs using List.reverseRecOn with
  | nil => exact ⟨⟨[], rfl⟩, rfl⟩
  | append_singleton xs y ih =>
    obtain ⟨⟨rest, members⟩, sizes⟩ := ih fun z member => matched z (List.mem_append_left [y] member)
    have joins : (classes same (x :: xs)).members.find? (fun m => same y m.1) = some (x, 0) := by
      rw [members, List.find?_cons, matched y (by simp)]
    obtain ⟨members', sizes'⟩ := placeMember joins
    rw [← List.cons_append, classesSnoc]
    refine ⟨⟨rest ++ [(y, 0)], by rw [members', members]; rfl⟩, ?_⟩
    rw [sizes', sizes, List.length_append]
    rfl

section Plurality
variable [BEq α] [LawfulBEq α]

def Plurality (xs : List α) (v : α) : Prop :=
  v ∈ xs ∧ ∀ w ∈ xs, xs.count w ≤ xs.count v ∧ (xs.count w = xs.count v → xs.idxOf v ≤ xs.idxOf w)

theorem equalEquivalence (xs : List α) : EquivalenceOn (· == ·) xs where
  refl a _ := beq_self_eq_true a
  symm _ _ _ _ equal := BEq.symm equal
  trans _ _ _ _ _ _ first second := BEq.trans first second

theorem classCount {xs : List α} {m : α × Nat} (member : m ∈ (classes (· == ·) xs).members) :
    (classes (· == ·) xs).sizes[m.2]? = some (xs.count m.1) := by
  have sound := soundClasses (· == ·) xs
  rw [sound.sizes m.2 (sound.inside m member)]
  have counts : xs.count m.1 = (classes (· == ·) xs).members.countP fun e => e.1 == m.1 := by
    have values := congrArg (List.countP (· == m.1)) sound.values
    rw [List.countP_map] at values
    rw [List.count, ← values]
    rfl
  rw [counts]
  congr 1
  refine List.countP_congr fun e old => ?_
  rw [beq_iff_eq]
  exact sameClass (equalEquivalence xs) e old m member

theorem countLeLargest (xs : List α) (v : α) : xs.count v ≤ (largest (classes (· == ·) xs).sizes).count := by
  by_cases present : v ∈ xs
  · rw [← (soundClasses (· == ·) xs).values] at present
    obtain ⟨m, member, rfl⟩ := List.mem_map.mp present
    exact (largestSpec _).1 _ (List.mem_of_getElem? (classCount member))
  · rw [List.count_eq_zero_of_not_mem present]
    exact Nat.zero_le _

theorem firstBefore {xs : List α} {v w : α} {g h : Nat} (first : firstOf (classes (· == ·) xs) g = some v)
    (member : (w, h) ∈ (classes (· == ·) xs).members) (order : g ≤ h) : xs.idxOf v ≤ xs.idxOf w := by
  have sound := soundClasses (· == ·) xs
  obtain ⟨m, found, rfl⟩ := Option.map_eq_some_iff.mp first
  obtain ⟨own, before, after, members, none_⟩ := List.find?_eq_some_iff_append.mp found
  rw [beq_iff_eq] at own
  have values := sound.values
  rw [members, List.map_append, List.map_cons] at values
  have class_ : ∀ e ∈ before, e.1 ≠ w := by
    rintro e old rfl
    have old' : e ∈ (classes (· == ·) xs).members := by rw [members]; simp [old]
    have equal : e.2 = h := (sameClass (equalEquivalence xs) e old' (e.1, h) member).mpr (beq_self_eq_true e.1)
    rcases sound.joined before m after members with ⟨x, early, joined, _⟩ | opened
    · have other := none_ x early
      simp [joined, own] at other
    · have smaller := (opened e old).1
      omega
  have opens : m.1 ∉ before.map Prod.fst := by
    intro early
    obtain ⟨e, old, equal⟩ := List.mem_map.mp early
    rcases sound.joined before m after members with ⟨x, early, joined, _⟩ | opened
    · have other := none_ x early
      simp [joined, own] at other
    · have apart := (opened e old).2
      simp [equal] at apart
  have absent : w ∉ before.map Prod.fst := by
    intro early
    obtain ⟨e, old, equal⟩ := List.mem_map.mp early
    exact class_ e old equal
  rw [← values, List.idxOf_append_of_notMem opens, List.idxOf_cons_self, List.idxOf_append_of_notMem absent]
  omega

/- The first entry of the first largest class is the plurality of the list. -/
theorem pluralityOfLargest {xs : List α} (some_ : xs ≠ []) :
    ∃ v, firstOf (classes (· == ·) xs) (largest (classes (· == ·) xs).sizes).group = some v ∧ Plurality xs v ∧
      xs.count v = (largest (classes (· == ·) xs).sizes).count := by
  have sound := soundClasses (· == ·) xs
  obtain ⟨x, present⟩ := List.exists_mem_of_ne_nil xs some_
  have positive : 0 < (largest (classes (· == ·) xs).sizes).count :=
    lt_of_lt_of_le (List.count_pos_iff.mpr present) (countLeLargest xs x)
  obtain ⟨found, before⟩ := (largestSpec (classes (· == ·) xs).sizes).2 positive
  obtain ⟨bound, _⟩ := List.getElem?_eq_some_iff.mp found
  obtain ⟨m, member, own⟩ := sound.opened _ bound
  cases first : firstOf (classes (· == ·) xs) (largest (classes (· == ·) xs).sizes).group with
  | none =>
    rw [firstOf, Option.map_eq_none_iff, List.find?_eq_none] at first
    exact absurd (by simpa using own) (first m member)
  | some v =>
    obtain ⟨e, at_, rfl⟩ := Option.map_eq_some_iff.mp first
    have inside : e ∈ (classes (· == ·) xs).members := List.mem_of_find?_eq_some at_
    have group : e.2 = (largest (classes (· == ·) xs).sizes).group := by simpa using List.find?_some at_
    have count : xs.count e.1 = (largest (classes (· == ·) xs).sizes).count := by
      have size := classCount inside
      rw [group, found] at size
      exact (Option.some.inj size).symm
    refine ⟨e.1, rfl, ⟨?_, fun w present => ?_⟩, count⟩
    · rw [← sound.values]
      exact List.mem_map_of_mem inside
    · rw [← sound.values] at present
      obtain ⟨m, member, rfl⟩ := List.mem_map.mp present
      refine ⟨(countLeLargest xs m.1).trans count.ge, fun equal => firstBefore first member ?_⟩
      by_contra earlier
      have fewer := before m.2 (Nat.lt_of_not_le earlier) _ (classCount member)
      omega

end Plurality
end PlatformRte.FirstMatch
