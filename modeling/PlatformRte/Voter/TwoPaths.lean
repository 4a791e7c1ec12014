import PlatformRte.Voter.Plurality

/-! The two ways to vote: over channels that all answer, and over the same values
collected by the caller. Both bodies end in the same outcome. -/
namespace PlatformRte.Voter
open FirstMatch

variable {size : Nat}

structure SameVote (out out' : VoterOutcome size) : Prop where
  status : out.status = out'.status
  result : out.result = out'.result
  data : out.data = out'.data
  bytes : out.bytes = out'.bytes
  counted : out.voter.totalDisagreements = out'.voter.totalDisagreements
  events : out.events = out'.events

theorem sameVerdict {voter : RteVoter} {values : List (Buffer size)} {out out' : VoterOutcome size}
    (enough : voterRequiredQuorum voter.config ≤ values.length) (verdict : Verdict voter values out)
    (verdict' : Verdict voter values out') : SameVote out out' := by
  cases verdict with
  | agreed quorum status result data bytes events counted =>
    cases verdict' with
    | agreed _ status' result' data' bytes' events' counted' =>
      exact ⟨status.trans status'.symm, result.trans result'.symm, data.trans data'.symm, bytes.trans bytes'.symm,
        counted.trans counted'.symm, events.trans events'.symm⟩
    | disagreed _ split => exact absurd quorum (Nat.not_le.mpr split)
    | failed few => exact absurd enough (Nat.not_le.mpr few)
  | disagreed _ split status result data bytes events counted =>
    cases verdict' with
    | agreed quorum => exact absurd quorum (Nat.not_le.mpr split)
    | disagreed _ _ status' result' data' bytes' events' counted' =>
      exact ⟨status.trans status'.symm, result.trans result'.symm, data.trans data'.symm, bytes.trans bytes'.symm,
        counted.trans counted'.symm, events.trans events'.symm⟩
    | failed few => exact absurd enough (Nat.not_le.mpr few)
  | failed few => exact absurd enough (Nat.not_le.mpr few)

theorem rejectedSame (voter : RteVoter) (status : RteStatus) :
    SameVote (voterRejected voter status : VoterOutcome size) (voterRejected voter status) :=
  ⟨rfl, rfl, rfl, rfl, rfl, rfl⟩

structure AllAnswer (voter : RteVoter) (buffers : List (Buffer size)) (answers : Nat → ChannelAnswer size) : Prop where
  registered : voter.channels.length = buffers.length
  healthy : ∀ c ∈ voter.channels, c.health.isHealthy = true
  received : ∀ c ∈ voter.channels, c.initialized = true
  buffer : ∀ i b, buffers[i]? = some b → answers i = ⟨.ok, b⟩

theorem answersAreBuffers {voter : RteVoter} {buffers : List (Buffer size)} {answers : Nat → ChannelAnswer size}
    (all : AllAnswer voter buffers answers) : responses voter answers = buffers := by
  have each : (voterSlots voter answers).map returned = buffers.map some := by
    refine List.ext_getElem (by simp [voterSlots, all.registered]) fun i _ bound => ?_
    have inside : i < buffers.length := by simpa using bound
    have slot : i < voter.channels.length := by rw [all.registered]; exact inside
    have member : voter.channels[i] ∈ voter.channels := List.getElem_mem slot
    have answer := all.buffer i buffers[i] (List.getElem?_eq_getElem inside)
    simp [voterSlots, returned, all.healthy _ member, all.received _ member, answer]
  have kept := congrArg (List.filterMap id) each
  rw [List.filterMap_map, List.filterMap_map, Function.id_comp, Function.id_comp, List.filterMap_some] at kept
  exact kept

/- The two bodies give the same outcome, whatever the arguments they check. -/
theorem pathsAgree {voter : RteVoter} {buffers : List (Buffer size)} {answers : Nat → ChannelAnswer size}
    (all : AllAnswer voter buffers answers) :
    SameVote (voterReceive voter size answers) (voterVoteBuffers voter size buffers) := by
  have few : buffers.length ≤ voterMaxChannels := by rw [← all.registered]; exact voter.channelsFit
  have room : ¬voterMaxChannels < buffers.length := Nat.not_lt.mpr few
  by_cases some_ : size = 0
  · simp only [voterReceive, voterVoteBuffers, some_, if_true]
    exact rejectedSame voter .invalidParam
  cases initialized : voter.initialized with
  | false =>
    simp only [voterReceive, voterVoteBuffers, some_, initialized, if_false, Bool.not_false, if_true]
    exact rejectedSame voter .notInitialized
  | true =>
    by_cases fits : voterMaxMessageSize < size
    · simp only [voterReceive, voterVoteBuffers, some_, initialized, fits, if_false, Bool.not_true,
        Bool.false_eq_true, if_true]
      exact rejectedSame voter .resourceExhausted
    cases count : voterChannelCountMatchesStrategy voter.config buffers.length with
    | false =>
      simp only [voterReceive, voterVoteBuffers, some_, initialized, fits, room, all.registered, count, if_false,
        Bool.not_true, Bool.not_false, Bool.false_eq_true, if_true]
      exact rejectedSame voter .invalidParam
    | true =>
      have accepted : Accepted voter size := by
        refine ⟨some_, initialized, Nat.le_of_not_lt fits, ?_⟩
        rw [all.registered]
        exact count
      have verdict := receiveVerdict accepted answers
      rw [answersAreBuffers all] at verdict
      exact sameVerdict (quorumPositive count).2 verdict
        (voteBuffersVerdict some_ initialized accepted.fits few count)

theorem bothPathsVote :
    let buffers : List (Buffer 1) := [#v[5], #v[9], #v[5]]
    SameVote (voterReceive byteVoter 1 fun i => ⟨.ok, buffers.getD i #v[0]⟩)
      (voterVoteBuffers byteVoter 1 buffers) := by
  intro buffers
  refine pathsAgree ⟨rfl, by decide, by decide, fun i b found => ?_⟩
  rw [List.getD_eq_getElem?_getD, found]
  rfl

end PlatformRte.Voter
