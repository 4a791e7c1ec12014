import PlatformRte.Voter.OneLine

/-! Links that lose nothing but are read at different places. A voter cannot tell how far
behind a link is; it sees only that the values differ. -/
namespace PlatformRte.Voter.VotedPair
open Machine FirstMatch

variable {size : Nat}

section OutOfStep
variable {n : Nat}

inductive Lossless (_ : Joined size) : Event size → Prop
  | send {payload : Buffer size} {statuses : Nat → RteStatus} {goes : Nat → Bool} (carried : ∀ i, goes i = true) :
      Lossless _ (.send payload statuses goes)
  | receive {readings : Nat → Reading size} (honest : ∀ i, readings i = .next ∨ ∃ status, readings i = .failed status) :
      Lossless _ (.receive readings)

structure Whole (n : Nat) (s : Joined size) : Prop where
  atSender : AllLive s.sender (Finset.range n)
  sends : Accepted s.sender size
  count : s.receiver.channels.length = n
  atReceiver : AllLive s.receiver (Finset.range n)
  receives : Accepted s.receiver size
  memcmp : s.receiver.config.compare = none

structure AllCarried (n : Nat) (s : Joined size) : Prop where
  whole : Whole n s
  lines : ∀ i < n, (s.lines i).sent = s.sent

def ready (s : Joined size) (n : Nat) (readings : Nat → Reading size) : Finset Nat :=
  (Finset.range n).filter fun i => readings i = .next ∧ (s.lines i).taken < s.sent.length

def readyAt (s : Joined size) (n : Nat) (readings : Nat → Reading size) (place : Nat) : Finset Nat :=
  (ready s n readings).filter fun i => (s.lines i).taken = place

theorem losslessStep {s : Joined size} {e : Event size} (all : AllCarried n s) (lossless : Lossless s e) :
    AllCarried n (step s e) := by
  obtain ⟨whole, lines⟩ := all
  cases lossless with
  | @send payload statuses goes carried =>
    have same := sendSetUp s.sender size statuses
    refine ⟨⟨sameAllLive same whole.atSender, same.accepted.mpr whole.sends, whole.count, whole.atReceiver,
      whole.receives, whole.memcmp⟩, fun i inside => ?_⟩
    have reached := reachesGood whole.sends whole.atSender (Finset.mem_range.mpr inside)
    simp [step, reached, carried i, lines i inside]
  | @receive readings honest =>
    have same := receiveSetUp s.receiver (answersOf s readings)
    refine ⟨⟨whole.atSender, whole.sends, same.count.trans whole.count, sameAllLive same whole.atReceiver,
      same.accepted.mpr whole.receives, ?_⟩, fun i inside => ?_⟩
    · rw [step, same.config]
      exact whole.memcmp
    · simp only [step]
      split
      · exact (readingSent (s.lines i) (readings i)).trans (lines i inside)
      · exact lines i inside

theorem responsesCounted {voter : RteVoter} (count : voter.channels.length = n)
    (all : AllLive voter (Finset.range n)) (answers : Nat → ChannelAnswer size) (kind : Buffer size → Bool) :
    (responses voter answers).countP kind =
      ((Finset.range n).filter fun i => (answers i).status = .ok ∧ kind (answers i).data = true).card := by
  rw [← slotsGood (by rw [count]; exact Finset.filter_subset _ _), responsesIndexed, List.countP_filterMap]
  refine List.countP_congr fun slot member => ?_
  have inside : slot.2 < n := by
    rw [← count]
    exact (List.getElem?_eq_some_iff.mp (List.mem_zipIdx_iff_getElem?.mp member)).1
  have alive := liveSlot all member (Finset.mem_range.mpr inside)
  simp only [Finset.mem_filter, Finset.mem_range, inside, true_and, decide_eq_true_eq]
  by_cases ok : (answers slot.2).status = .ok
  · have given : returned (slot.1, answers slot.2) = some (answers slot.2).data := returnedLive.mpr ⟨alive, ok, rfl⟩
    simp [given, ok]
  · have none_ : returned (slot.1, answers slot.2) = none := by
      cases returned_ : returned (slot.1, answers slot.2) with
      | none => rfl
      | some w => exact absurd (returnedLive.mp returned_).2.1 ok
    simp [none_, ok]

theorem readyAnswer {s : Joined size} {readings : Nat → Reading size} (all : AllCarried n s) {i : Nat} (inside : i < n)
    (honest : readings i = .next ∨ ∃ status, readings i = .failed status) (v : Buffer size) :
    (answersOf s readings i).status = .ok ∧ (answersOf s readings i).data = v ↔
      i ∈ ready s n readings ∧ s.sent[(s.lines i).taken]? = some v := by
  rcases honest with next | ⟨status, failed⟩
  · by_cases waiting : (s.lines i).taken < s.sent.length
    · simp [answersOf, next, answerOf, carried, ready, all.lines i inside, inside, waiting]
    · simp [answersOf, next, answerOf, carried, nothing, ready, all.lines i inside, inside, waiting]
  · have not_ := status.2
    simp [answersOf, failed, answerOf, nothing, ready, not_]

theorem countedAt {s : Joined size} {readings : Nat → Reading size} (all : AllCarried n s)
    (honest : ∀ i, readings i = .next ∨ ∃ status, readings i = .failed status) (distinct : s.sent.Nodup) {place : Nat}
    (inside : place < s.sent.length) :
    (responses s.receiver (answersOf s readings)).count s.sent[place] = (readyAt s n readings place).card := by
  rw [List.count, responsesCounted all.whole.count all.whole.atReceiver]
  congr 1
  ext i
  rw [readyAt, Finset.mem_filter, Finset.mem_filter, Finset.mem_range, beq_iff_eq]
  constructor
  · rintro ⟨among, given⟩
    obtain ⟨isReady, there⟩ := (readyAnswer all among (honest i) _).mp given
    have waiting := (Finset.mem_filter.mp isReady).2.2
    rw [List.getElem?_eq_getElem waiting, Option.some.injEq] at there
    exact ⟨isReady, (distinct.getElem_inj_iff).mp there⟩
  · rintro ⟨isReady, rfl⟩
    have among := Finset.mem_range.mp (Finset.mem_filter.mp isReady).1
    exact ⟨among, (readyAnswer all among (honest i) _).mpr ⟨isReady, List.getElem?_eq_getElem inside⟩⟩

theorem countedReady {s : Joined size} {readings : Nat → Reading size} (all : AllCarried n s)
    (honest : ∀ i, readings i = .next ∨ ∃ status, readings i = .failed status) :
    (responses s.receiver (answersOf s readings)).length = (ready s n readings).card := by
  rw [← List.countP_true, responsesCounted all.whole.count all.whole.atReceiver]
  congr 1
  ext i
  rw [Finset.mem_filter, Finset.mem_range]
  constructor
  · rintro ⟨among, ok, _⟩
    exact ((readyAnswer all among (honest i) _).mp ⟨ok, rfl⟩).1
  · intro isReady
    obtain ⟨among, _, waiting⟩ := Finset.mem_filter.mp isReady
    have inside := Finset.mem_range.mp among
    exact ⟨inside, ((readyAnswer all inside (honest i) _).mpr ⟨isReady, List.getElem?_eq_getElem waiting⟩).1, rfl⟩

theorem quorumPlace {s : Joined size} {readings : Nat → Reading size} {quorum : Nat} (positive : 1 ≤ quorum)
    (all : AllCarried n s) (honest : ∀ i, readings i = .next ∨ ∃ status, readings i = .failed status)
    (distinct : s.sent.Nodup) {v : Buffer size}
    (reached : quorum ≤ (responses s.receiver (answersOf s readings)).count v) :
    ∃ place, quorum ≤ (readyAt s n readings place).card ∧ s.sent[place]? = some v := by
  have occurs : 0 < (responses s.receiver (answersOf s readings)).countP (· == v) := positive.trans reached
  rw [responsesCounted all.whole.count all.whole.atReceiver, Finset.card_pos] at occurs
  obtain ⟨i, among⟩ := occurs
  obtain ⟨inRange, ok, same⟩ := Finset.mem_filter.mp among
  have there := ((readyAnswer all (Finset.mem_range.mp inRange) (honest i) v).mp ⟨ok, beq_iff_eq.mp same⟩).2
  obtain ⟨waiting, rfl⟩ := List.getElem?_eq_some_iff.mp there
  exact ⟨_, by rw [← countedAt all honest distinct waiting]; exact reached, there⟩

theorem placeQuorum {s : Joined size} {readings : Nat → Reading size} {quorum place : Nat} (positive : 1 ≤ quorum)
    (all : AllCarried n s) (honest : ∀ i, readings i = .next ∨ ∃ status, readings i = .failed status)
    (distinct : s.sent.Nodup) (reached : quorum ≤ (readyAt s n readings place).card) :
    ∃ v, quorum ≤ (responses s.receiver (answersOf s readings)).count v := by
  obtain ⟨i, among⟩ := Finset.card_pos.mp (positive.trans reached)
  obtain ⟨isReady, rfl⟩ := Finset.mem_filter.mp among
  have waiting := (Finset.mem_filter.mp isReady).2.2
  exact ⟨_, reached.trans_eq (countedAt all honest distinct waiting).symm⟩

/- With different messages the links agree exactly where a quorum of those ready have been
read equally often. -/
theorem agreesIffEquallyRead {s : Joined size} {events : List (Event size)} {readings : Nat → Reading size}
    (unused : Unused s) (whole : Whole n s) (lossless : Always step Lossless s events)
    (distinct : (run step s events).sent.Nodup)
    (honest : ∀ i, readings i = .next ∨ ∃ status, readings i = .failed status) :
    let t := run step s events
    let out := voterReceive t.receiver size (answersOf t readings)
    let quorum := voterRequiredQuorum t.receiver.config
    (out.result = some .agreed ↔ ∃ place, quorum ≤ (readyAt t n readings place).card) ∧
    (out.result = some .agreed → ∃ place, quorum ≤ (readyAt t n readings place).card ∧ out.data = t.sent[place]?) ∧
    (out.result = some .disagreed ↔ quorum ≤ (ready t n readings).card ∧
      ∀ place, (readyAt t n readings place).card < quorum) := by
  intro t out quorum
  have start : AllCarried n s := ⟨whole, fun i _ => by rw [unused.lines i, unused.sent]; rfl⟩
  have all : AllCarried n t := invariantRun start (fun _ _ => losslessStep) lossless
  have positive := (quorumPositive all.whole.receives.count).1
  have vote := pluralityOfVerdict all.whole.memcmp positive (receiveVerdict all.whole.receives (answersOf t readings))
  refine ⟨?_, fun agreed => ?_, ?_⟩
  · rw [vote.agreed]
    constructor
    · rintro ⟨v, reached⟩
      obtain ⟨place, many, _⟩ := quorumPlace positive all honest distinct reached
      exact ⟨place, many⟩
    · rintro ⟨place, many⟩
      exact placeQuorum positive all honest distinct many
  · obtain ⟨v, written, _⟩ := vote.output agreed
    obtain ⟨place, many, there⟩ := quorumPlace positive all honest distinct (handedOut all.whole.memcmp written)
    exact ⟨place, many, written.trans there.symm⟩
  · rw [vote.disagreed, countedReady all honest]
    refine and_congr_right fun _ => ⟨fun few place => ?_, fun few v => ?_⟩
    · by_contra many
      obtain ⟨v, reached⟩ := placeQuorum positive all honest distinct (Nat.le_of_not_lt many)
      exact Nat.not_le.mpr (few v) reached
    · by_contra reached
      obtain ⟨place, many, _⟩ := quorumPlace positive all honest distinct (Nat.le_of_not_lt reached)
      exact Nat.not_le.mpr (few place) many

theorem missedByte :
    let t := run step bytePair [sendByte 5, .receive (oddReading (.failed ⟨.timeout, by decide⟩)), sendByte 6]
    let out := voterReceive t.receiver 1 (answersOf t fun _ => .next)
    let quorum := voterRequiredQuorum t.receiver.config
    (out.result = some .agreed ↔ ∃ place, quorum ≤ (readyAt t 3 (fun _ => .next) place).card) ∧
    (out.result = some .agreed → ∃ place, quorum ≤ (readyAt t 3 (fun _ => .next) place).card ∧
      out.data = t.sent[place]?) ∧
    (out.result = some .disagreed ↔ quorum ≤ (ready t 3 fun _ => .next).card ∧
      ∀ place, (readyAt t 3 (fun _ => .next) place).card < quorum) := by
  have allLive : AllLive byteVoter (Finset.range 3) := by
    unfold AllLive
    decide
  have whole : Whole 3 bytePair := ⟨allLive, by decide, rfl, allLive, by decide, rfl⟩
  refine agreesIffEquallyRead bytePairUnused whole ?_ (by decide) fun _ => Or.inl rfl
  refine alwaysCons.mpr ⟨.send fun _ => rfl, alwaysCons.mpr ⟨.receive fun i => ?_,
    alwaysCons.mpr ⟨.send fun _ => rfl, alwaysNil _ _ _⟩⟩⟩
  unfold oddReading
  split
  · exact Or.inr ⟨_, rfl⟩
  · exact Or.inl rfl

end OutOfStep
end PlatformRte.Voter.VotedPair
