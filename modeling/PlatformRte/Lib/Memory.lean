import PlatformRte.Lib.Bytes

/-! Memory as a byte for every address, and the regions of it that objects occupy. -/
namespace PlatformRte

abbrev Memory := Nat → UInt8

namespace Memory

structure Region where
  base : Nat
  size : Nat
  deriving DecidableEq, Repr

def Region.Holds (r : Region) (a : Nat) : Prop := r.base ≤ a ∧ a < r.base + r.size

def Apart (r s : Region) : Prop := r.base + r.size ≤ s.base ∨ s.base + s.size ≤ r.base

def read (m : Memory) (base size : Nat) : Bytes := (List.range size).map fun i => m (base + i)

def write (m : Memory) (base : Nat) (raw : Bytes) : Memory :=
  fun a => if base ≤ a then (raw[a - base]?).getD (m a) else m a

def ChangesOnly (regions : List Region) (m m' : Memory) : Prop :=
  ∀ a, (∀ r ∈ regions, ¬r.Holds a) → m' a = m a

theorem ChangesOnly.refl (regions : List Region) (m : Memory) : ChangesOnly regions m m := fun _ _ => rfl

theorem ChangesOnly.cons {r : Region} {regions : List Region} {m m' m'' : Memory} (first : ChangesOnly [r] m m')
    (second : ChangesOnly regions m' m'') : ChangesOnly (r :: regions) m m'' := by
  intro a outside
  rw [second a fun s member => outside s (List.mem_cons_of_mem r member)]
  exact first a fun s member => outside s (List.mem_singleton.mp member ▸ List.mem_cons_self)

@[simp] theorem readLength (m : Memory) (base size : Nat) : (read m base size).length = size := by
  simp [read]

theorem readCongr {m m' : Memory} {base size : Nat} (same : ∀ a, base ≤ a → a < base + size → m' a = m a) :
    read m' base size = read m base size := by
  rw [read, read, List.map_inj_left]
  intro i member
  exact same _ (Nat.le_add_right base i) (Nat.add_lt_add_left (List.mem_range.mp member) base)

theorem readApart {regions : List Region} {m m' : Memory} (changes : ChangesOnly regions m m') {r : Region}
    (apart : ∀ s ∈ regions, Apart r s) : read m' r.base r.size = read m r.base r.size := by
  refine readCongr fun a low high => changes a fun s member held => ?_
  rcases apart s member with before | behind
  · exact Nat.lt_irrefl a (Nat.lt_of_lt_of_le high (before.trans held.1))
  · exact Nat.lt_irrefl a (Nat.lt_of_lt_of_le held.2 (behind.trans low))

theorem writeChanges (m : Memory) (base : Nat) {raw : Bytes} {size : Nat} (short : raw.length ≤ size) :
    ChangesOnly [⟨base, size⟩] m (write m base raw) := by
  intro a outside
  have free := outside ⟨base, size⟩ List.mem_cons_self
  unfold write
  split
  · rename_i low
    have past : raw.length ≤ a - base := by
      have high : ¬a < base + size := fun high => free ⟨low, high⟩
      omega
    rw [List.getElem?_eq_none past, Option.getD_none]
  · rfl

theorem readWrite (m : Memory) (base : Nat) (raw : Bytes) : read (write m base raw) base raw.length = raw := by
  refine List.ext_getElem (readLength _ _ _) fun i left right => ?_
  simp only [read, List.getElem_map, List.getElem_range, write, if_pos (Nat.le_add_right base i),
    Nat.add_sub_cancel_left, List.getElem?_eq_getElem right, Option.getD_some]

end Memory
end PlatformRte
