import PlatformRte.Dual.Types
import Mathlib.Data.UInt

/-! The start-up negotiator of a dual relationship. A clock reading, the link
status and the beacons a call finds are arguments: rte_timer_now() leaves 0 when
it fails, so a failed reading is the reading 0. -/
namespace PlatformRte.Dual

def negotiatorDecideOnline (ownId : UInt32) (ownTs : UInt64) (peerId : UInt32) (peerTs : UInt64) : Bool :=
  if ownTs ≠ peerTs then decide (ownTs < peerTs) else decide (ownId < peerId)

structure DualNegotiatorConfig where
  ownId : UInt32
  peerId : UInt32
  peerLostTimeoutMs : UInt32
  resumeOwnState : DualState
  resumeOwnStartupTimestampMs : UInt64
  deriving DecidableEq, Repr

structure DualNegotiator where
  ownId : UInt32
  peerId : UInt32
  peerLostTimeoutMs : UInt32
  ownStartupTimestampMs : UInt64
  ownChannelDegraded : Bool
  havePeerStartupTimestamp : Bool
  peerStartupTimestampMs : UInt64
  peerChannelDegraded : Bool
  ownState : DualState
  peerState : DualState
  haveLastPeerSeen : Bool
  lastPeerSeenMs : UInt64
  deriving DecidableEq, Repr

def dualNegotiatorInit (config : DualNegotiatorConfig) (nowMs : UInt64) : DualNegotiator where
  ownId := config.ownId
  peerId := config.peerId
  peerLostTimeoutMs := config.peerLostTimeoutMs
  ownStartupTimestampMs :=
    if config.resumeOwnStartupTimestampMs ≠ 0 then config.resumeOwnStartupTimestampMs else nowMs
  ownChannelDegraded := false
  havePeerStartupTimestamp := false
  peerStartupTimestampMs := 0
  peerChannelDegraded := false
  ownState := config.resumeOwnState
  peerState := .idle
  haveLastPeerSeen := false
  lastPeerSeenMs := 0

def negotiatorProcessPeerFrame (n : DualNegotiator) (frame : DualStateFrame) (nowMs : UInt64) :
    DualNegotiator :=
  { n with
    peerChannelDegraded := frame.channelDegraded != 0
    peerStartupTimestampMs := frame.timestampMs
    havePeerStartupTimestamp := true
    lastPeerSeenMs := nowMs
    haveLastPeerSeen := true }

-- A clock that moved backwards counts as no recent contact.
def peerContactRecent (n : DualNegotiator) (nowMs : UInt64) : Bool :=
  n.haveLastPeerSeen && decide (n.lastPeerSeenMs ≤ nowMs) &&
    decide (nowMs - n.lastPeerSeenMs < n.peerLostTimeoutMs.toUInt64)

def standbyFor (degraded : Bool) : DualState := if degraded then .coldStandby else .hotStandby

def negotiatorUpdateStates (n : DualNegotiator) (nowMs : UInt64) : DualNegotiator :=
  if !n.haveLastPeerSeen then
    { n with peerState := .idle }
  else if !peerContactRecent n nowMs then
    { n with
      peerState := .unknown
      ownState := if n.ownState ≠ .online then .unknown else n.ownState }
  else if n.ownState = .idle ∨ n.ownState = .unknown then
    if negotiatorDecideOnline n.ownId n.ownStartupTimestampMs n.peerId n.peerStartupTimestampMs then
      { n with ownState := .online, peerState := standbyFor n.ownChannelDegraded }
    else
      { n with ownState := standbyFor n.peerChannelDegraded, peerState := .online }
  else if n.ownState = .online then
    { n with peerState := standbyFor n.ownChannelDegraded }
  else
    { n with ownState := standbyFor n.peerChannelDegraded, peerState := .online }

/- The two halves of rte_dual_negotiator_execute(): the beacon goes out first,
then everything pending is processed and the states are recomputed. -/
def negotiatorAnnounce (n : DualNegotiator) (status : DualChannelStatus) : DualNegotiator × DualStateFrame :=
  let n := { n with ownChannelDegraded := decide (status ≠ .full) }
  (n, ⟨n.ownState.toByte, if n.ownChannelDegraded then 1 else 0, n.ownStartupTimestampMs⟩)

/- The beacons in the order the receive and its drain loop returned them, each
with the clock reading taken for it; an empty receive returns none. -/
def negotiatorSettle (n : DualNegotiator) (frames : List (DualStateFrame × UInt64)) (nowMs : UInt64) :
    DualNegotiator :=
  negotiatorUpdateStates
    (frames.foldl (fun n (entry : DualStateFrame × UInt64) => negotiatorProcessPeerFrame n entry.1 entry.2) n) nowMs

structure NegotiatorIo where
  channelStatus : DualChannelStatus
  frames : List (DualStateFrame × UInt64)
  nowMs : UInt64
  deriving DecidableEq, Repr

def dualNegotiatorExecute (n : DualNegotiator) (io : NegotiatorIo) : DualNegotiator :=
  negotiatorSettle (negotiatorAnnounce n io.channelStatus).1 io.frames io.nowMs

structure SameOwn (n m : DualNegotiator) : Prop where
  ownId : m.ownId = n.ownId
  peerId : m.peerId = n.peerId
  ownStartupTimestampMs : m.ownStartupTimestampMs = n.ownStartupTimestampMs

theorem sameOwnRefl (n : DualNegotiator) : SameOwn n n := ⟨rfl, rfl, rfl⟩

theorem sameOwnTrans {n m k : DualNegotiator} (first : SameOwn n m) (second : SameOwn m k) : SameOwn n k :=
  ⟨second.ownId.trans first.ownId, second.peerId.trans first.peerId,
    second.ownStartupTimestampMs.trans first.ownStartupTimestampMs⟩

theorem updateStatesOnly (n : DualNegotiator) (nowMs : UInt64) :
    ∃ own peer, negotiatorUpdateStates n nowMs = { n with ownState := own, peerState := peer } := by
  unfold negotiatorUpdateStates
  repeat' split
  all_goals exact ⟨_, _, rfl⟩

theorem updateSameOwn (n : DualNegotiator) (nowMs : UInt64) : SameOwn n (negotiatorUpdateStates n nowMs) := by
  obtain ⟨own, peer, same⟩ := updateStatesOnly n nowMs
  rw [same]
  exact ⟨rfl, rfl, rfl⟩

theorem standbyNotOnline (degraded : Bool) : standbyFor degraded ≠ .online := by cases degraded <;> decide

theorem updateRecent {n : DualNegotiator} {nowMs : UInt64} (recent : peerContactRecent n nowMs = true) :
    let after := negotiatorUpdateStates n nowMs
    (after.ownState = .online ∧ after.peerState = standbyFor n.ownChannelDegraded ∧ (n.ownState = .online ∨
      negotiatorDecideOnline n.ownId n.ownStartupTimestampMs n.peerId n.peerStartupTimestampMs = true)) ∨
      (n.ownState ≠ .online ∧ after.ownState = standbyFor n.peerChannelDegraded ∧ after.peerState = .online) := by
  have seen : n.haveLastPeerSeen = true := by
    simp only [peerContactRecent, Bool.and_eq_true] at recent
    exact recent.1.1
  simp only [negotiatorUpdateStates, seen, recent, Bool.not_true, Bool.false_eq_true, if_false]
  split
  · rename_i undecided
    split
    · rename_i won
      exact Or.inl ⟨rfl, rfl, Or.inr won⟩
    · refine Or.inr ⟨?_, rfl, rfl⟩
      rcases undecided with idle | unknown
      · rw [idle]; decide
      · rw [unknown]; decide
  split
  · rename_i online
    exact Or.inl ⟨online, rfl, Or.inl online⟩
  · rename_i standby
    exact Or.inr ⟨standby, rfl, rfl⟩

theorem updateStale {n : DualNegotiator} {nowMs : UInt64} (seen : n.haveLastPeerSeen = true)
    (stale : peerContactRecent n nowMs = false) :
    (negotiatorUpdateStates n nowMs).peerState = .unknown ∧
      (negotiatorUpdateStates n nowMs).ownState = if n.ownState = .online then .online else .unknown := by
  simp only [negotiatorUpdateStates, seen, stale, Bool.not_true, Bool.not_false, Bool.false_eq_true, if_false, if_true]
  refine ⟨True.intro, ?_⟩
  by_cases online : n.ownState = .online <;> simp [online]

theorem updateUnseen {n : DualNegotiator} (nowMs : UInt64) (unseen : n.haveLastPeerSeen = false) :
    negotiatorUpdateStates n nowMs = { n with peerState := .idle } := by
  simp [negotiatorUpdateStates, unseen]

theorem updateOnline {n : DualNegotiator} {nowMs : UInt64}
    (online : (negotiatorUpdateStates n nowMs).ownState = .online) :
    n.ownState = .online ∨ n.haveLastPeerSeen = true ∧
      negotiatorDecideOnline n.ownId n.ownStartupTimestampMs n.peerId n.peerStartupTimestampMs = true := by
  by_cases seen : n.haveLastPeerSeen = true
  · by_cases recent : peerContactRecent n nowMs = true
    · rcases updateRecent recent with ⟨_, _, was | won⟩ | ⟨_, standby, _⟩
      · exact Or.inl was
      · exact Or.inr ⟨seen, won⟩
      · exact absurd (standby.symm.trans online) (standbyNotOnline _)
    · rw [(updateStale seen (Bool.eq_false_iff.mpr recent)).2] at online
      by_cases was : n.ownState = .online
      · exact Or.inl was
      · rw [if_neg was] at online
        cases online
  · rw [updateUnseen nowMs (Bool.eq_false_iff.mpr seen)] at online
    exact Or.inl online

theorem updateStaysOnline {n : DualNegotiator} (nowMs : UInt64) (online : n.ownState = .online) :
    (negotiatorUpdateStates n nowMs).ownState = .online := by
  by_cases seen : n.haveLastPeerSeen = true
  · by_cases recent : peerContactRecent n nowMs = true
    · rcases updateRecent recent with ⟨stays, _⟩ | ⟨not_, _⟩
      · exact stays
      · exact absurd online not_
    · rw [(updateStale seen (Bool.eq_false_iff.mpr recent)).2, if_pos online]
  · rw [updateUnseen nowMs (Bool.eq_false_iff.mpr seen)]
    exact online

end PlatformRte.Dual
