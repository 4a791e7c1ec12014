import PlatformRte.Voter.Sending
import PlatformRte.Lib.Fifo
import PlatformRte.Lib.Machine
import Mathlib.Data.Finset.Card

/-! Two voters joined by redundant links. A link may be late or repeat what it carried, and
some links may give back what was never sent on them. -/
namespace PlatformRte.Voter.VotedPair
open Machine FirstMatch

variable {size : Nat}

/- sent: what the application sent; received: what receives handed out; both oldest first. -/
structure Joined (size : Nat) where
  sender : RteVoter
  receiver : RteVoter
  lines : Nat → Fifo (Buffer size)
  sent : List (Buffer size)
  received : List (Buffer size)

/- What a receive finds on a link: a failure such as a timeout, the next frame, an earlier or
later one out of turn, or something the link made up. -/
inductive Reading (size : Nat) where
  | failed (status : {status : RteStatus // status ≠ .ok})
  | next
  | outOfTurn (place : Nat)
  | forged (answer : ChannelAnswer size)
  deriving DecidableEq

def nothing (size : Nat) (status : RteStatus) : ChannelAnswer size := ⟨status, Vector.replicate size 0⟩

def carried (line : Fifo (Buffer size)) (place : Nat) : ChannelAnswer size :=
  (line.sent[place]?.map fun m => ⟨.ok, m⟩).getD (nothing size .timeout)

def answerOf (line : Fifo (Buffer size)) : Reading size → ChannelAnswer size
  | .failed status => nothing size status
  | .next => carried line line.taken
  | .outOfTurn place => carried line place
  | .forged answer => answer

def afterReading (line : Fifo (Buffer size)) : Reading size → Fifo (Buffer size)
  | .next => line.move .pull
  | _ => line

/- goes: whether what a transport was given enters its link. -/
inductive Event (size : Nat) where
  | send (payload : Buffer size) (statuses : Nat → RteStatus) (goes : Nat → Bool)
  | receive (readings : Nat → Reading size)
  | setHealthy (atSender : Bool) (channel : Nat) (isHealthy : Bool)

def setHealthyAt (voter : RteVoter) (channel : Nat) (isHealthy : Bool) : RteVoter :=
  { voter with
    channels := voter.channels.modify channel fun c => channelSetHealthy c isHealthy
    channelsFit := by simpa using voter.channelsFit }

def answersOf (s : Joined size) (readings : Nat → Reading size) (i : Nat) : ChannelAnswer size :=
  answerOf (s.lines i) (readings i)

def step (s : Joined size) : Event size → Joined size
  | .send payload statuses goes =>
      { s with
        sender := (voterSend s.sender size statuses).1
        lines := fun i => if reachesTransports s.sender size i && goes i then (s.lines i).move (.push payload) else s.lines i
        sent := s.sent ++ [payload] }
  | .receive readings =>
      let out := voterReceive s.receiver size (answersOf s readings)
      { s with
        receiver := out.voter
        lines := fun i => if polls s.receiver size i then afterReading (s.lines i) (readings i) else s.lines i
        received := s.received ++ out.data.toList }
  | .setHealthy true channel isHealthy => { s with sender := setHealthyAt s.sender channel isHealthy }
  | .setHealthy false channel isHealthy => { s with receiver := setHealthyAt s.receiver channel isHealthy }

structure Unused (s : Joined size) : Prop where
  lines : ∀ i, s.lines i = Fifo.empty
  sent : s.sent = []
  received : s.received = []
  memcmp : s.receiver.config.compare = none

def bytePair : Joined 1 := ⟨byteVoter, byteVoter, fun _ => Fifo.empty, [], []⟩

theorem bytePairUnused : Unused bytePair := ⟨fun _ => rfl, rfl, rfl, rfl⟩

def sendByte (byte : UInt8) : Event 1 := .send (Vector.replicate 1 byte) (fun _ => .ok) fun _ => true

def oddReading (reading : Reading 1) (i : Nat) : Reading 1 := if i = 2 then reading else .next

section Integrity

def ForgedOnly (forging : Finset Nat) (_ : Joined size) : Event size → Prop
  | .receive readings => ∀ i answer, readings i = .forged answer → i ∈ forging
  | _ => True

structure Sound (s : Joined size) : Prop where
  lines : ∀ i, ∀ m ∈ (s.lines i).sent, m ∈ s.sent
  received : ∀ m ∈ s.received, m ∈ s.sent
  memcmp : s.receiver.config.compare = none

theorem readingSent (line : Fifo (Buffer size)) (reading : Reading size) :
    (afterReading line reading).sent = line.sent := by
  cases reading with
  | next =>
    by_cases waiting : line.taken < line.sent.length
    · exact Fifo.pullSent waiting
    · simp [afterReading, Fifo.move, waiting]
  | _ => rfl

theorem answerCarried {line : Fifo (Buffer size)} {reading : Reading size} (honest : ∀ a, reading ≠ .forged a)
    (ok : (answerOf line reading).status = .ok) : (answerOf line reading).data ∈ line.sent := by
  have found (place : Nat) (ok : (carried line place).status = .ok) : (carried line place).data ∈ line.sent := by
    unfold carried at ok ⊢
    cases there : line.sent[place]? with
    | none =>
      rw [there] at ok
      cases ok
    | some m => exact List.mem_of_getElem? there
  cases reading with
  | failed status => exact absurd ok status.2
  | next => exact found line.taken ok
  | outOfTurn place => exact found place ok
  | forged a => exact absurd rfl (honest a)

theorem slotsAmong (channels : List RteChannel) (places : Finset Nat) :
    channels.zipIdx.countP (fun slot => decide (slot.2 ∈ places)) =
      ((Finset.range channels.length).filter (· ∈ places)).card := by
  have numbers : channels.zipIdx.countP (fun slot => decide (slot.2 ∈ places))
      = (List.range channels.length).countP fun i => decide (i ∈ places) := by
    rw [List.range_eq_range', ← List.zipIdx_map_snd 0 channels, List.countP_map]
    rfl
  have once : ((List.range channels.length).filter fun i => decide (i ∈ places)).Nodup :=
    List.nodup_range.filter _
  rw [numbers, List.countP_eq_length_filter, ← List.toFinset_card_of_nodup once]
  congr 1
  ext i
  simp

theorem returnedOutside {voter : RteVoter} {answers : Nat → ChannelAnswer size} {places : Finset Nat} {v : Buffer size}
    (many : places.card < (responses voter answers).count v) :
    ∃ i ∉ places, (answers i).status = .ok ∧ (answers i).data = v := by
  by_contra none_
  have only : ∀ i, (answers i).status = .ok ∧ (answers i).data = v → i ∈ places := fun i holds => by
    by_contra outside
    exact none_ ⟨i, outside, holds⟩
  have few : (responses voter answers).count v ≤ voter.channels.zipIdx.countP fun slot => decide (slot.2 ∈ places) := by
    rw [responsesIndexed, List.count, List.countP_filterMap]
    refine List.countP_mono_left fun slot _ given => ?_
    obtain ⟨w, returned_, same⟩ : ∃ w, returned (slot.1, answers slot.2) = some w ∧ w = v := by
      cases returned_ : returned (slot.1, answers slot.2) with
      | none => simp [returned_] at given
      | some w => exact ⟨w, rfl, by simpa [returned_] using given⟩
    obtain ⟨_, ok, data⟩ := returnedLive.mp returned_
    exact decide_eq_true (only slot.2 ⟨ok, data.trans same⟩)
  have bounded : (voter.channels.zipIdx.countP fun slot => decide (slot.2 ∈ places)) ≤ places.card := by
    rw [slotsAmong]
    exact Finset.card_le_card fun i member => (Finset.mem_filter.mp member).2
  exact Nat.not_le.mpr many (few.trans bounded)

theorem handedOut {voter : RteVoter} {answers : Nat → ChannelAnswer size} {v : Buffer size}
    (memcmp : voter.config.compare = none) (given : (voterReceive voter size answers).data = some v) :
    voterRequiredQuorum voter.config ≤ (responses voter answers).count v := by
  by_cases accepted : Accepted voter size
  · have positive := (quorumPositive accepted.count).1
    have vote := pluralityOfVerdict memcmp positive (receiveVerdict accepted answers)
    have agreed : (voterReceive voter size answers).result = some .agreed := by
      by_contra other
      rw [vote.untouched other] at given
      cases given
    obtain ⟨w, reached⟩ := vote.agreed.mp agreed
    obtain ⟨u, written, _, most⟩ := vote.output agreed
    rw [given] at written
    cases written
    exact reached.trans (most w (List.count_pos_iff.mp (positive.trans reached))).1
  · obtain ⟨status, refused⟩ := receiveRefused accepted answers
    rw [refused] at given
    cases given

theorem soundStep {forging : Finset Nat} {s : Joined size} {e : Event size} (sound : Sound s)
    (few : forging.card < voterRequiredQuorum s.receiver.config) (admitted : ForgedOnly forging s e) :
    Sound (step s e) := by
  cases e with
  | send payload statuses goes =>
    refine ⟨fun i m member => ?_, fun m member => List.mem_append_left _ (sound.received m member), sound.memcmp⟩
    have onLine : m ∈ (s.lines i).sent ∨ m = payload := by
      simp only [step] at member
      split at member
      · simpa using member
      · exact Or.inl member
    rcases onLine with old | rfl
    · exact List.mem_append_left _ (sound.lines i m old)
    · exact List.mem_append_right _ (List.mem_singleton.mpr rfl)
  | receive readings =>
    refine ⟨fun i m member => ?_, fun m member => ?_, ?_⟩
    · simp only [step] at member
      split at member
      · rw [readingSent] at member
        exact sound.lines i m member
      · exact sound.lines i m member
    · rcases List.mem_append.mp member with old | new
      · exact sound.received m old
      · have given := Option.mem_toList.mp new
        have quorum := handedOut sound.memcmp given
        obtain ⟨i, outside, ok, data⟩ := returnedOutside (Nat.lt_of_lt_of_le few quorum)
        have honest : ∀ a, readings i ≠ .forged a := fun a forged => outside (admitted i a forged)
        rw [← data]
        exact sound.lines i _ (answerCarried honest ok)
    · rw [step, (receiveSetUp s.receiver (answersOf s readings)).config]
      exact sound.memcmp
  | setHealthy atSender channel isHealthy =>
    cases atSender <;> exact ⟨sound.lines, sound.received, sound.memcmp⟩

theorem stepConfig (s : Joined size) (e : Event size) : (step s e).receiver.config = s.receiver.config := by
  cases e with
  | send payload statuses goes => rfl
  | receive readings => exact (receiveSetUp s.receiver (answersOf s readings)).config
  | setHealthy atSender channel isHealthy => cases atSender <;> rfl

/- With fewer links than a quorum that make up answers, the receiver is handed nothing that
was not sent, whatever the links lose, delay, repeat or reorder. -/
theorem nothingInvented {s : Joined size} {events : List (Event size)} {forging : Finset Nat} (unused : Unused s)
    (few : forging.card < voterRequiredQuorum s.receiver.config)
    (admitted : Always step (ForgedOnly forging) s events) :
    ∀ m ∈ (run step s events).received, m ∈ (run step s events).sent := by
  let Inv (m : Joined size) : Prop := Sound m ∧ m.receiver.config = s.receiver.config
  have start : Inv s := by
    refine ⟨⟨fun i m member => ?_, fun m member => ?_, unused.memcmp⟩, rfl⟩
    · rw [unused.lines i] at member
      cases member
    · rw [unused.received] at member
      cases member
  have keep : ∀ m e, Inv m → ForgedOnly forging m e → Inv (step m e) := by
    rintro m e ⟨sound, config⟩ ok
    exact ⟨soundStep sound (by rw [config]; exact few) ok, (stepConfig m e).trans config⟩
  have ended : Inv (run step s events) := invariantRun start keep admitted
  exact ended.1.received

theorem forgedByteNotReceived :
    let events := [sendByte 5, .receive (oddReading (.forged (answered .ok 9)))]
    ∀ m ∈ (run step bytePair events).received, m ∈ (run step bytePair events).sent := by
  have few : ({2} : Finset Nat).card < voterRequiredQuorum bytePair.receiver.config := by decide
  refine nothingInvented bytePairUnused few ?_
  refine alwaysCons.mpr ⟨trivial, alwaysCons.mpr ⟨fun i answer forged => ?_, alwaysNil _ _ _⟩⟩
  by_contra outside
  have other : i ≠ 2 := by simpa using outside
  simp [oddReading, other] at forged

end Integrity

end PlatformRte.Voter.VotedPair
