import Mathlib.Data.List.Count
import PlatformRte.Lib.History
import PlatformRte.Lib.Pair

/-! Two parties and the links between them. The messages of a link are numbered in the
order they were posted, what is heard was posted at the other end, and who acknowledges
a number has heard the message of that number. -/
namespace PlatformRte.Acknowledge
open History

variable {α : Type*}

/- number: the place among the messages of the same link. -/
structure Message (α : Type*) where
  link : Nat
  number : Nat
  content : α

structure Side (α : Type*) where
  posted : List (Message α)
  heard : List (Message α)

def postedOn (i : Nat) (posted : List (Message α)) : Nat := posted.countP fun message => message.link = i

def Placed (posted : List (Message α)) : Prop :=
  Each (fun message earlier => message.number = postedOn message.link earlier) posted

theorem postedOnCons (i : Nat) (message : Message α) (posted : List (Message α)) :
    postedOn i (message :: posted) = postedOn i posted + if message.link = i then 1 else 0 := by
  simp [postedOn, List.countP_cons]

theorem placedBelow {posted : List (Message α)} (placed : Placed posted) {message : Message α}
    (member : message ∈ posted) : message.number < postedOn message.link posted := by
  induction posted with
  | nil => cases member
  | cons newest earlier ih =>
    rw [postedOnCons]
    rcases List.mem_cons.mp member with rfl | old
    · rw [placed.1, if_pos rfl]
      exact Nat.lt_succ_self _
    · exact Nat.lt_add_right _ (ih placed.2 old)

theorem placedUnique {posted : List (Message α)} (placed : Placed posted) {a b : Message α} (left : a ∈ posted)
    (right : b ∈ posted) (link : a.link = b.link) (number : a.number = b.number) : a = b := by
  induction posted with
  | nil => cases left
  | cons newest earlier ih =>
    rcases List.mem_cons.mp left with rfl | before
    · rcases List.mem_cons.mp right with rfl | before
      · rfl
      · have below := placedBelow placed.2 before
        have place : a.number = postedOn a.link earlier := placed.1
        rw [link] at place
        omega
    · rcases List.mem_cons.mp right with rfl | before'
      · have below := placedBelow placed.2 before
        have place : b.number = postedOn b.link earlier := placed.1
        rw [← link] at place
        omega
      · exact ih placed.2 before before'

section Sound
variable (acks : α → Option Nat)

structure Sound (s : Pair (Side α)) : Prop where
  heard : ∀ p, ∀ message ∈ (s.get p).heard, message ∈ (s.get p.other).posted
  honest : ∀ p, ∀ ack ∈ (s.get p).posted, ∀ number, acks ack.content = some number →
    ∃ message ∈ (s.get p).heard, message.link = ack.link ∧ message.number = number

variable {acks} {s : Pair (Side α)}

theorem soundFresh (fresh : ∀ p, s.get p = ⟨[], []⟩) : Sound acks s :=
  ⟨fun p => by simp [fresh p], fun p => by simp [fresh p]⟩

theorem soundMove (sound : Sound acks s) (p : Party) {posted heard : List (Message α)}
    (genuine : ∀ message ∈ heard, message ∈ (s.get p.other).posted)
    (honest : ∀ ack ∈ posted, ∀ number, acks ack.content = some number →
      ∃ message ∈ heard ++ (s.get p).heard, message.link = ack.link ∧ message.number = number) :
    Sound acks (s.set p ⟨posted ++ (s.get p).posted, heard ++ (s.get p).heard⟩) := by
  refine ⟨fun q message member => ?_, fun q ack member number names => ?_⟩
  · rcases Party.eqOrOther p q with rfl | rfl
    · rw [Pair.getSet] at member
      rw [Pair.getSetOther]
      rcases List.mem_append.mp member with new | old
      · exact genuine message new
      · exact sound.heard q message old
    · rw [Pair.getSetOther] at member
      have old := sound.heard p.other message member
      rw [Party.otherOther] at old ⊢
      rw [Pair.getSet]
      exact List.mem_append_right _ old
  · rcases Party.eqOrOther p q with rfl | rfl
    · rw [Pair.getSet] at member ⊢
      rcases List.mem_append.mp member with new | old
      · exact honest ack new number names
      · obtain ⟨message, heard_, link, same⟩ := sound.honest q ack old number names
        exact ⟨message, List.mem_append_right _ heard_, link, same⟩
    · rw [Pair.getSetOther] at member ⊢
      exact sound.honest p.other ack member number names

/- A message whose acknowledgement is heard was heard. -/
theorem acknowledgedHeard (sound : Sound acks s) {p : Party} (placed : Placed (s.get p).posted)
    {message ack : Message α} (posted : message ∈ (s.get p).posted) (heard : ack ∈ (s.get p).heard)
    (link : ack.link = message.link) (names : acks ack.content = some message.number) :
    message ∈ (s.get p.other).heard := by
  have sent := sound.heard p ack heard
  obtain ⟨met, met_, onLink, number⟩ := sound.honest p.other ack sent _ names
  have back := sound.heard p.other met met_
  rw [Party.otherOther] at back
  have same : met = message := placedUnique placed back posted (onLink.trans link) number
  rwa [← same]

end Sound
end PlatformRte.Acknowledge
