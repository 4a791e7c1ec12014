import PlatformRte.Voter.Plurality

/-! Sending on a voter: the message goes to every healthy channel. What sends and receives
leave of a voter, and which of its transports they use. -/
namespace PlatformRte.Voter

variable {size : Nat}

def sendChannel (size : Nat) (slot : RteChannel × RteStatus) : RteChannel × Option RteStatus :=
  if !slot.1.health.isHealthy then (slot.1, none)
  else
    let sent := channelSend slot.1 size slot.2
    (sent.1, some sent.2)

def voterSendToHealthyChannels (voter : RteVoter) (size : Nat) (answers : Nat → RteStatus) :
    List (RteChannel × Option RteStatus) :=
  (voter.channels.mapIdx fun i c => (c, answers i)).map (sendChannel size)

def voterSend (voter : RteVoter) (size : Nat) (answers : Nat → RteStatus) : RteVoter × RteStatus :=
  if size = 0 then (voter, .invalidParam)
  else if !voter.initialized then (voter, .notInitialized)
  else if voterMaxMessageSize < size then (voter, .resourceExhausted)
  else if !voterChannelCountMatchesStrategy voter.config voter.channels.length then (voter, .invalidParam)
  else
    let asked := voterSendToHealthyChannels voter size answers
    let statuses := asked.filterMap Prod.snd
    ({ voter with
        channels := asked.map Prod.fst
        channelsFit := by simpa [asked, voterSendToHealthyChannels] using voter.channelsFit },
      if statuses = [] then .hardwareFault
      else if statuses.any (· == .timeout) then .timeout
      else if statuses.any (· != .ok) then .hardwareFault
      else .ok)

def voterDestroy (voter : RteVoter) : RteVoter := { voter with initialized := false }

def voterGetAggregatedHealth (voter : RteVoter) : Nat × UInt32 := (voterCountHealthy voter, voter.totalDisagreements)

instance (voter : RteVoter) (size : Nat) : Decidable (Accepted voter size) :=
  decidable_of_iff (size ≠ 0 ∧ voter.initialized = true ∧ size ≤ voterMaxMessageSize ∧
      voterChannelCountMatchesStrategy voter.config voter.channels.length = true)
    ⟨fun all => ⟨all.1, all.2.1, all.2.2.1, all.2.2.2⟩, fun all => ⟨all.some_, all.initialized, all.fits, all.count⟩⟩

def live (c : RteChannel) : Bool := c.health.isHealthy && c.initialized

def reachesTransports (voter : RteVoter) (size : Nat) (i : Nat) : Bool :=
  decide (Accepted voter size) && (voter.channels[i]?.map live).getD false

def polls (voter : RteVoter) (size : Nat) (i : Nat) : Bool :=
  decide (voterRequiredQuorum voter.config ≤ voterCountHealthy voter) && reachesTransports voter size i

structure SameSetUp (voter voter' : RteVoter) : Prop where
  config : voter'.config = voter.config
  initialized : voter'.initialized = voter.initialized
  channels : voter'.channels.map live = voter.channels.map live

theorem sameSetUpRefl (voter : RteVoter) : SameSetUp voter voter := ⟨rfl, rfl, rfl⟩

theorem receiveLive (c : RteChannel) (size : Nat) (answer : RteStatus) :
    live (channelReceive c size answer).1 = live c := by
  unfold channelReceive
  split
  · rfl
  split
  · rfl
  split <;> rfl

theorem sendLive (c : RteChannel) (size : Nat) (answer : RteStatus) : live (channelSend c size answer).1 = live c := by
  unfold channelSend
  split
  · rfl
  split
  · rfl
  split <;> rfl

theorem polledLive (slot : RteChannel × ChannelAnswer size) : live (pollChannel slot).channel = live slot.1 := by
  unfold pollChannel
  split
  · rfl
  · exact receiveLive slot.1 size slot.2.status

theorem sentLive (slot : RteChannel × RteStatus) : live (sendChannel size slot).1 = live slot.1 := by
  unfold sendChannel
  split
  · rfl
  · exact sendLive slot.1 size slot.2

theorem slotsLive (voter : RteVoter) (answers : Nat → ChannelAnswer size) :
    ((voterReceiveFromHealthyChannels voter answers).map Polled.channel).map live = voter.channels.map live := by
  refine List.ext_getElem (by simp [voterReceiveFromHealthyChannels, voterSlots]) fun i _ _ => ?_
  simp [voterReceiveFromHealthyChannels, voterSlots, polledLive]

theorem receiveSetUp (voter : RteVoter) (answers : Nat → ChannelAnswer size) :
    SameSetUp voter (voterReceive voter size answers).voter := by
  unfold voterReceive
  split
  · exact sameSetUpRefl voter
  split
  · exact sameSetUpRefl voter
  split
  · exact sameSetUpRefl voter
  split
  · exact sameSetUpRefl voter
  dsimp only
  split
  · exact sameSetUpRefl voter
  split
  · exact ⟨rfl, rfl, slotsLive voter answers⟩
  split
  · exact ⟨rfl, rfl, slotsLive voter answers⟩
  split
  · exact ⟨rfl, rfl, slotsLive voter answers⟩
  · exact ⟨rfl, rfl, slotsLive voter answers⟩

theorem sendSetUp (voter : RteVoter) (size : Nat) (answers : Nat → RteStatus) :
    SameSetUp voter (voterSend voter size answers).1 := by
  have asked : ((voterSendToHealthyChannels voter size answers).map Prod.fst).map live = voter.channels.map live := by
    refine List.ext_getElem (by simp [voterSendToHealthyChannels]) fun i _ _ => ?_
    simp [voterSendToHealthyChannels, sentLive]
  unfold voterSend
  split
  · exact sameSetUpRefl voter
  split
  · exact sameSetUpRefl voter
  split
  · exact sameSetUpRefl voter
  split
  · exact sameSetUpRefl voter
  · exact ⟨rfl, rfl, asked⟩

namespace SameSetUp
variable {voter voter' : RteVoter} (same : SameSetUp voter voter')
include same

theorem count : voter'.channels.length = voter.channels.length := by
  simpa using congrArg List.length same.channels

theorem accepted : Accepted voter' size ↔ Accepted voter size := by
  have length := same.count
  constructor
  · rintro ⟨some_, initialized, fits, count⟩
    rw [same.initialized] at initialized
    rw [same.config, length] at count
    exact ⟨some_, initialized, fits, count⟩
  · rintro ⟨some_, initialized, fits, count⟩
    refine ⟨some_, same.initialized.trans initialized, fits, ?_⟩
    rw [same.config, length]
    exact count

theorem reaches (i : Nat) : reachesTransports voter' size i = reachesTransports voter size i := by
  have slot : voter'.channels[i]?.map live = voter.channels[i]?.map live := by
    rw [← List.getElem?_map, ← List.getElem?_map, same.channels]
  rw [reachesTransports, reachesTransports, slot, decide_eq_decide.mpr same.accepted]

end SameSetUp

theorem receiveRefused {voter : RteVoter} (refused : ¬Accepted voter size) (answers : Nat → ChannelAnswer size) :
    ∃ status, voterReceive voter size answers = voterRejected voter status := by
  unfold voterReceive
  split
  · exact ⟨_, rfl⟩
  rename_i some_
  split
  · exact ⟨_, rfl⟩
  rename_i initialized
  split
  · exact ⟨_, rfl⟩
  rename_i fits
  split
  · exact ⟨_, rfl⟩
  rename_i count
  exact absurd ⟨some_, by simpa using initialized, Nat.le_of_not_lt fits, by simpa using count⟩ refused

theorem responsesIndexed (voter : RteVoter) (answers : Nat → ChannelAnswer size) :
    responses voter answers = voter.channels.zipIdx.filterMap fun slot => returned (slot.1, answers slot.2) := by
  rw [responses, voterSlots, List.mapIdx_eq_zipIdx_map, List.filterMap_map]
  rfl

theorem returnedLive {slot : RteChannel × ChannelAnswer size} {v : Buffer size} :
    returned slot = some v ↔ live slot.1 = true ∧ slot.2.status = .ok ∧ slot.2.data = v := by
  unfold returned live
  cases slot.1.health.isHealthy <;> cases slot.1.initialized <;> simp

end PlatformRte.Voter
