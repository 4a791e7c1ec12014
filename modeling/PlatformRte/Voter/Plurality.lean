import PlatformRte.Voter.Voting

/-! The vote with the byte comparison: the value that most channels returned, the
first one on a tie, if a quorum of them returned it. -/
namespace PlatformRte.Voter
open FirstMatch

variable {size : Nat}

def entersSafestate (events : List (VoterEvent size)) : Prop := ∃ entry, VoterEvent.safestate entry ∈ events

structure PluralityVote (voter : RteVoter) (values : List (Buffer size)) (out : VoterOutcome size) : Prop where
  agreed : out.result = some .agreed ↔ ∃ v, voterRequiredQuorum voter.config ≤ values.count v
  status : out.status = if out.result = some .agreed then .ok else .hardwareFault
  output : out.result = some .agreed → ∃ v, out.data = some v ∧ Plurality values v
  correct : out.result = some .agreed → ∀ right,
    (values.countP fun v => v != right) < voterRequiredQuorum voter.config → out.data = some right
  disagreed : out.result = some .disagreed ↔ voterRequiredQuorum voter.config ≤ values.length ∧
    ∀ v, values.count v < voterRequiredQuorum voter.config
  counted : out.voter.totalDisagreements =
    if out.result = some .disagreed then voter.totalDisagreements + 1 else voter.totalDisagreements
  callbackFirst : out.result = some .disagreed → out.events = disagreementCallback voter.config .disagreed ++
    [.safestate ⟨voter.config.safestateLevel, voter.config.safestateReason⟩]
  noOtherSafestate : out.result ≠ some .disagreed → ¬entersSafestate out.events
  untouched : out.result ≠ some .agreed → out.data = none

theorem bytesCompared {config : VoterConfig} (memcmp : config.compare = none) :
    (voterDataEqual config : Buffer size → Buffer size → Bool) = (· == ·) := by
  funext a b
  simp [voterDataEqual, memcmp]

theorem quietCallback (config : VoterConfig) (result : VotingResult) :
    ¬entersSafestate (disagreementCallback config result : List (VoterEvent size)) := by
  rintro ⟨entry, member⟩
  unfold disagreementCallback at member
  split at member <;> simp at member

theorem quorumCorrect {values : List (Buffer size)} {v right : Buffer size} {quorum : Nat}
    (reached : quorum ≤ values.count v) (few : (values.countP fun w => w != right) < quorum) : v = right := by
  by_contra differs
  have faulty : values.count v ≤ values.countP fun w => w != right := by
    refine List.countP_mono_left fun w _ equal => ?_
    rw [eq_of_beq equal]
    simpa using differs
  omega

theorem pluralityOfVerdict {voter : RteVoter} (memcmp : voter.config.compare = none)
    (positive : 1 ≤ voterRequiredQuorum voter.config) {values : List (Buffer size)} {out : VoterOutcome size}
    (verdict : Verdict voter values out) : PluralityVote voter values out := by
  have silent : ∀ groups : Classes (Buffer size), voterComparisons voter.config groups = [] := by
    simp [voterComparisons, memcmp]
  have most := countLeLargest values
  rw [← bytesCompared memcmp] at most
  cases verdict with
  | agreed quorum status result data bytes events counted =>
    have some_ : values ≠ [] := by
      rintro rfl
      have none_ := largestLe (voterDataEqual voter.config) ([] : List (Buffer size))
      simp only [List.length_nil] at none_
      omega
    have chosen := pluralityOfLargest some_
    rw [← bytesCompared memcmp, ← data] at chosen
    obtain ⟨v, written, plurality, count⟩ := chosen
    rw [← count] at quorum
    refine ⟨by simp [result]; exact ⟨v, quorum⟩, by simp [result, status], fun _ => ⟨v, written, plurality⟩, ?_, ?_,
      by simp [result, counted], by simp [result], ?_, by simp [result]⟩
    · intro _ right few
      rw [written, quorumCorrect quorum few]
    · have reached : ¬∀ w, values.count w < voterRequiredQuorum voter.config := fun all => by
        have less := all v
        omega
      simp [result, reached]
    · rintro _ ⟨entry, member⟩
      rw [events, silent] at member
      cases member
  | disagreed enough split status result data bytes events counted =>
    have fewer : ∀ v, values.count v < voterRequiredQuorum voter.config := fun v => lt_of_le_of_lt (most v) split
    refine ⟨?_, by simp [result, status], by simp [result], by simp [result], by simp [result, enough, fewer],
      by simp [result, counted], ?_, by simp [result], fun _ => data⟩
    · rw [result]
      refine iff_of_false (by simp) ?_
      rintro ⟨v, reached⟩
      exact Nat.not_le.mpr (fewer v) reached
    · rw [events, silent]
      simp
  | @failed few undecided kind status result data bytes events counted =>
    have notAgreed : out.result ≠ some .agreed := by rcases kind with rfl | rfl <;> simp [result]
    have notDisagreed : out.result ≠ some .disagreed := by rcases kind with rfl | rfl <;> simp [result]
    have fewer : ∀ v, values.count v < voterRequiredQuorum voter.config :=
      fun v => lt_of_le_of_lt List.count_le_length few
    refine ⟨?_, by simp [notAgreed, status], fun agreed => absurd agreed notAgreed,
      fun agreed => absurd agreed notAgreed, ?_, by simp [notDisagreed, counted],
      fun disagreed => absurd disagreed notDisagreed, ?_, fun _ => data⟩
    · refine iff_of_false notAgreed ?_
      rintro ⟨v, reached⟩
      exact Nat.not_le.mpr (fewer v) reached
    · refine iff_of_false notDisagreed ?_
      rintro ⟨enough, _⟩
      exact Nat.not_le.mpr few enough
    · rw [events]
      exact fun _ => quietCallback voter.config undecided

/- The vote reports what a plurality of the responses says, whatever the order of the
channels. -/
theorem votesByPlurality {voter : RteVoter} (memcmp : voter.config.compare = none) (accepted : Accepted voter size)
    (answers : Nat → ChannelAnswer size) :
    PluralityVote voter (responses voter answers) (voterReceive voter size answers) ∧
      ∀ (voter' : RteVoter) (answers' : Nat → ChannelAnswer size), voter'.config = voter.config →
        voter'.initialized = true → (voterSlots voter answers).Perm (voterSlots voter' answers') →
        ((voterReceive voter size answers).result = some .agreed ↔
          (voterReceive voter' size answers').result = some .agreed) := by
  have vote := pluralityOfVerdict memcmp (quorumPositive accepted.count).1 (receiveVerdict accepted answers)
  refine ⟨vote, fun voter' answers' config initialized permuted => ?_⟩
  have length : voter'.channels.length = voter.channels.length := by
    simpa [voterSlots] using permuted.length_eq.symm
  have accepted' : Accepted voter' size := by
    refine ⟨accepted.some_, initialized, accepted.fits, ?_⟩
    rw [config, length]
    exact accepted.count
  have memcmp' : voter'.config.compare = none := by rw [config]; exact memcmp
  have vote' := pluralityOfVerdict memcmp' (quorumPositive accepted'.count).1 (receiveVerdict accepted' answers')
  have values : (responses voter answers).Perm (responses voter' answers') := permuted.filterMap returned
  rw [vote.agreed, vote'.agreed, config]
  simp only [values.count_eq]

def byteVoter : RteVoter := liveVoter ⟨.twoOutOfThree, 0, none, .safe, 7, true⟩ 3 threeFit

def answered (status : RteStatus) (byte : UInt8) : ChannelAnswer 1 := ⟨status, #v[byte]⟩

def oneDeviates : Nat → ChannelAnswer 1
  | 0 => answered .ok 9
  | _ => answered .ok 5

theorem oneDeviatesOutvoted :
    (voterReceive byteVoter 1 oneDeviates).data = some #v[5] ∧
      PluralityVote byteVoter (responses byteVoter oneDeviates) (voterReceive byteVoter 1 oneDeviates) :=
  ⟨by decide, (votesByPlurality rfl ⟨by decide, rfl, by decide, by decide⟩ oneDeviates).1⟩

end PlatformRte.Voter
