import PlatformRte.SiteRole.State

/-! The inter-site link of a channel: opening it, the negotiator over it, the
start-up, and the frames of a cycle. The dual channel is answered from outside;
every status it can give is an argument. -/
namespace PlatformRte.SiteRole
open PlatformRte.Dual

structure OpenAnswer where
  status : RteStatus
  nowMs : UInt64
  deriving DecidableEq, Repr

/- accepted is the answer of receive_state to the state region. -/
structure ReceiveAnswer where
  status : RteStatus
  payload : Bytes
  accepted : Bool
  deriving DecidableEq, Repr

structure StartIo where
  nowMs : UInt64
  siblingFrame : Option SiteRoleSibling
  opens : List RteStatus
  initNowMs : UInt64
  rounds : List NegotiatorIo
  deriving DecidableEq, Repr

def openLinkOnce (rs : RteSiteRole) (timeoutMs : UInt32) (status : RteStatus) : RteSiteRole × RteStatus :=
  ({ rs with link := decide (status = .ok), linkLog := .opened timeoutMs status :: rs.linkLog }, status)

def connectDelay (rs : RteSiteRole) : RteSiteRole :=
  if rs.cfg.delay then { rs with linkLog := .delayed rs.cfg.connectRetryMs :: rs.linkLog } else rs

/- The connect side retries until startup_timeout_ms. The list holds the answers
in order; a loop that would need more of them has not returned. -/
def connectRetry (rs : RteSiteRole) (waitedMs : UInt32) : List RteStatus → Option (RteSiteRole × RteStatus)
  | [] => if waitedMs < rs.cfg.startupTimeoutMs then none else some (rs, .timeout)
  | answer :: rest =>
      if waitedMs < rs.cfg.startupTimeoutMs then
        let opened := (openLinkOnce rs rs.cfg.connectTimeoutMs answer).1
        if answer = .ok then some (opened, .ok)
        else connectRetry (connectDelay opened) (waitedMs + rs.cfg.connectRetryMs) rest
      else some (rs, .timeout)

def openLinkBlocking (rs : RteSiteRole) (answers : List RteStatus) : Option (RteSiteRole × RteStatus) :=
  if rs.cfg.listen then answers.head?.map (openLinkOnce rs rs.cfg.startupTimeoutMs)
  else connectRetry rs 0 answers

/- rte_dual_channel_init() refuses only a missing link handle. -/
def dualChannelInit (link : Bool) : RteStatus := if link then .ok else .invalidParam

def initChannelAndNegotiator (rs : RteSiteRole) (resumeStandby : Bool) (nowMs : UInt64) : RteSiteRole × RteStatus :=
  if dualChannelInit rs.link ≠ .ok then (rs, dualChannelInit rs.link)
  else
    let resume : DualState :=
      if rs.online then .online else if resumeStandby then .hotStandby else .idle
    let negotiator := dualNegotiatorInit
      ⟨rs.cfg.ownId, rs.cfg.peerId, rs.cfg.peerLostTimeoutMs, resume, rs.startupTimestampMs⟩ nowMs
    ({ rs with
        sendMiss := 0
        negotiator := negotiator
        startupTimestampMs :=
          if rs.startupTimestampMs = 0 then negotiator.ownStartupTimestampMs else rs.startupTimestampMs },
      .ok)

def closeLink (rs : RteSiteRole) : RteSiteRole := { rs with link := false }

def reconnect (rs : RteSiteRole) (answer : OpenAnswer) : RteSiteRole × RteStatus :=
  let opened := (openLinkOnce rs rs.cfg.reconnectAttemptMs answer.status).1
  if answer.status ≠ .ok then (opened, answer.status)
  else
    let ready := initChannelAndNegotiator opened false answer.nowMs
    if ready.2 ≠ .ok then (closeLink ready.1, ready.2) else ready

/- sibling_source fills the frame only when one arrived since the last poll. -/
def pollSiblingSource (rs : RteSiteRole) (cycle : UInt32) (frame : Option SiteRoleSibling) : RteSiteRole :=
  let fresh := if rs.cfg.siblingSource then frame else none
  { rs with
    sibling := fresh.getD rs.sibling
    siblingRxCycle := if fresh.isSome then cycle else rs.siblingRxCycle }

def startupRoleFromSibling (rs : RteSiteRole) : RteSiteRole × Bool :=
  if rs.cfg.siblingSource && rs.sibling.known then
    ({ rs with online := rs.sibling.online }, !rs.sibling.online)
  else (rs, false)

def negotiate (rs : RteSiteRole) (io : NegotiatorIo) : RteSiteRole :=
  { rs with negotiator := dualNegotiatorExecute rs.negotiator io }

def negotiateRounds (rs : RteSiteRole) (waitedMs : UInt32) : List NegotiatorIo → Option RteSiteRole
  | [] => none
  | io :: rest =>
      let next := negotiate rs io
      -- only a round that leaves the state IDLE is counted, and only then does the loop go on
      if next.negotiator.ownState = .idle ∧ waitedMs + rs.cfg.linkPollMs < rs.cfg.startupTimeoutMs then
        negotiateRounds next (waitedMs + rs.cfg.linkPollMs) rest
      else some next

def startReset (rs : RteSiteRole) (nowMs : UInt64) : RteSiteRole :=
  { rs with
    standbyHealthy := true
    standbyLastTryCycle := 0
    standbyRxCycle := 0
    standbyWarm := false
    startupTimestampMs := if rs.startupTimestampMs = 0 then nowMs else rs.startupTimestampMs }

def startNegotiation (rs : RteSiteRole) (resumeStandby : Bool) (io : StartIo) : Option (RteSiteRole × RteStatus) := do
  let ready := initChannelAndNegotiator rs resumeStandby io.initNowMs
  if ready.2 ≠ .ok then return (closeLink ready.1, ready.2)
  let rs ← negotiateRounds ready.1 0 io.rounds
  if rs.negotiator.ownState = .idle then return (closeLink rs, .timeout)
  return ({ rs with online := decide (rs.negotiator.ownState = .online) }, .ok)

def siteRoleStart (rs : RteSiteRole) (io : StartIo) : Option (RteSiteRole × RteStatus) := do
  let joined := startupRoleFromSibling (pollSiblingSource (startReset rs io.nowMs) 0 io.siblingFrame)
  let opened ← openLinkBlocking joined.1 io.opens
  if opened.2 ≠ .ok then return opened
  startNegotiation opened.1 joined.2 io

def takeLocal (rs : RteSiteRole) (own : SiteRoleLocal) : RteSiteRole :=
  { rs with localFaulted := own.faulted, localSingleMode := own.singleMode }

def sendFrame (rs : RteSiteRole) (region : Bytes) (status : RteStatus) : Bytes × Bool :=
  (encodeFrame rs.cfg.frameSize rs.localFaulted rs.localSingleMode rs.cycle rs.online region,
    decide (status = .ok))

def decodeFrame (rs : RteSiteRole) : RteSiteRole :=
  let faulted := frameFaulted rs.rxBuf
  let valid := frameValid rs.cfg.frameSize rs.rxBuf
  { rs with
    roleLog := .decoded rs.cycle faulted valid :: rs.roleLog
    peerFaulted := faulted
    peerSingleMode := frameSingleMode rs.rxBuf
    -- the counterpart is talking again, so any confirmation is void
    peerUnresponsive := false
    takeoverConfirmed := false
    peerLastRxCycle := rs.cycle
    peerOnlineNow := valid && !faulted
    peerSnapshotCycle := if valid then frameCycle rs.rxBuf else rs.peerSnapshotCycle
    peerSnapshotValid := valid || rs.peerSnapshotValid
    standbyRxCycle := if valid then rs.cycle else rs.standbyRxCycle }

def buffered (rs : RteSiteRole) (payload : Bytes) : RteSiteRole :=
  { rs with rxBuf := rs.rxBuf.overwrite (payload.take rs.cfg.frameSize) }

-- The cycle field must lie within the frame, and receive_state must take the region.
def decodes (cfg : SiteRoleConfig) (answer : ReceiveAnswer) : Bool :=
  decide (frameStateOffset ≤ cfg.frameSize) && answer.accepted

def receiveFrame (rs : RteSiteRole) (answer : ReceiveAnswer) : RteSiteRole × RteStatus :=
  if answer.status = .ok then
    (if decodes rs.cfg answer then decodeFrame (buffered rs answer.payload) else buffered rs answer.payload, .ok)
  else (rs, answer.status)

def countSendMiss (rs : RteSiteRole) (sendOk : Bool) : RteSiteRole :=
  { rs with sendMiss := if sendOk then 0 else if rs.sendMiss < 255 then rs.sendMiss + 1 else rs.sendMiss }

def linkDead (rs : RteSiteRole) (receiveStatus : RteStatus) : Bool :=
  decide (rs.cfg.sendMissThreshold ≤ rs.sendMiss) ||
    (decide (receiveStatus ≠ .ok) && decide (receiveStatus ≠ .timeout))

def handleSendMissAndLinkTeardown (rs : RteSiteRole) (sendOk : Bool) (receiveStatus : RteStatus) : RteSiteRole :=
  let rs := countSendMiss rs sendOk
  if linkDead rs receiveStatus then
    { closeLink rs with
      lostPeerWhileOnline := rs.online || rs.lostPeerWhileOnline
      peerUnresponsive := (!rs.online && !rs.localFaulted) || rs.peerUnresponsive
      sendMiss := 0 }
  else rs

def updateStandbyWarmth (rs : RteSiteRole) : RteSiteRole :=
  let rs := { rs with
    peerSnapshotValid := rs.peerSnapshotValid &&
      !standbyDataStale rs.cfg.standbySync rs.online rs.peerSnapshotValid rs.cycle rs.standbyRxCycle }
  { rs with standbyWarm := rs.cfg.standbySync && !rs.online && rs.peerSnapshotValid }

open RteSiteRole

theorem reconnectSame (rs : RteSiteRole) (answer : OpenAnswer) :
    Same { rs with link := decide (answer.status = .ok) } (reconnect rs answer).1 ∧
      (reconnect rs answer).2 = answer.status := by
  by_cases opened : answer.status = .ok
  · simp only [reconnect, openLinkOnce, initChannelAndNegotiator, dualChannelInit, opened, decide_true, if_true,
      ne_eq, not_true_eq_false, if_false]
    exact ⟨sameOfEq rfl, trivial⟩
  · simp only [reconnect, openLinkOnce, opened, decide_false, ne_eq, not_false_eq_true, if_true]
    exact ⟨sameOfEq rfl, trivial⟩

theorem connectRetrySame {rs : RteSiteRole} {waitedMs : UInt32} {answers : List RteStatus} {rs' : RteSiteRole}
    {status : RteStatus} (done : connectRetry rs waitedMs answers = some (rs', status)) :
    ∃ up, Same { rs with link := up } rs' ∧ (status = .ok → up = true) ∧ asideOf rs' = asideOf rs := by
  induction answers generalizing rs waitedMs with
  | nil =>
    simp only [connectRetry] at done
    split at done
    · cases done
    · cases done
      exact ⟨rs'.link, sameRefl rs', by simp, rfl⟩
  | cons answer rest ih =>
    simp only [connectRetry] at done
    split at done
    · split at done
      · rename_i opened
        cases done
        exact ⟨true, sameOfEq (by simp [openLinkOnce, opened]; rfl), fun _ => rfl, rfl⟩
      · obtain ⟨up, ⟨kept, equal⟩, ok, same⟩ := ih done
        have delayed :
            asideOf (connectDelay (openLinkOnce rs rs.cfg.connectTimeoutMs answer).1) = asideOf rs := by
          unfold connectDelay
          split <;> rfl
        refine ⟨up, sameOfEq ?_, ok, same.trans delayed⟩
        rw [equal]
        unfold connectDelay
        split <;> rfl
    · cases done
      exact ⟨rs'.link, sameRefl rs', by simp, rfl⟩

theorem openLinkBlockingSame {rs : RteSiteRole} {answers : List RteStatus} {rs' : RteSiteRole} {status : RteStatus}
    (done : openLinkBlocking rs answers = some (rs', status)) :
    ∃ up, Same { rs with link := up } rs' ∧ (status = .ok → up = true) ∧ asideOf rs' = asideOf rs := by
  unfold openLinkBlocking at done
  split at done
  · obtain ⟨answer, _, equal⟩ := Option.map_eq_some_iff.mp done
    cases equal
    exact ⟨decide (status = .ok), sameOfEq rfl, fun ok => decide_eq_true ok, rfl⟩
  · exact connectRetrySame done

theorem initChannelSame (rs : RteSiteRole) (resumeStandby : Bool) (nowMs : UInt64) :
    Same rs (initChannelAndNegotiator rs resumeStandby nowMs).1 := by
  unfold initChannelAndNegotiator
  split
  · exact sameRefl rs
  · exact sameOfEq rfl

theorem initChannelAside (rs : RteSiteRole) (resumeStandby : Bool) (nowMs : UInt64) :
    asideOf (initChannelAndNegotiator rs resumeStandby nowMs).1 = asideOf rs := by
  unfold initChannelAndNegotiator
  split <;> rfl

theorem negotiateRoundsSame {rs : RteSiteRole} {waitedMs : UInt32} {rounds : List NegotiatorIo} {rs' : RteSiteRole}
    (done : negotiateRounds rs waitedMs rounds = some rs') : Same rs rs' ∧ asideOf rs' = asideOf rs := by
  induction rounds generalizing rs waitedMs with
  | nil => cases done
  | cons io rest ih =>
    simp only [negotiateRounds] at done
    split at done
    · obtain ⟨same, aside⟩ := ih done
      exact ⟨sameTrans (sameOfEq rfl) same, aside⟩
    · cases done
      exact ⟨sameOfEq rfl, rfl⟩

theorem startNegotiationSame {rs : RteSiteRole} {resumeStandby : Bool} {io : StartIo} {rs' : RteSiteRole}
    {status : RteStatus} (done : startNegotiation rs resumeStandby io = some (rs', status)) :
    ∃ up online, Same { rs with link := up, online := online } rs' ∧ (status = .ok → up = rs.link) ∧
      asideOf rs' = asideOf rs := by
  obtain ⟨kept, init⟩ := initChannelSame rs resumeStandby io.initNowMs
  have aside := initChannelAside rs resumeStandby io.initNowMs
  unfold startNegotiation at done
  dsimp only at done
  rw [init] at done aside
  split at done
  · rename_i failed
    cases done
    exact ⟨false, rs.online, sameOfEq rfl, fun ok => absurd ok failed, aside⟩
  · obtain ⟨settled, rounds, rest⟩ := Option.bind_eq_some_iff.mp done
    obtain ⟨⟨_, equal⟩, kept_⟩ := negotiateRoundsSame rounds
    rw [equal] at rest kept_
    split at rest
    · cases rest
      exact ⟨false, rs.online, sameOfEq rfl, by simp, kept_.trans aside⟩
    · cases rest
      exact ⟨rs.link, _, sameOfEq rfl, fun _ => rfl, kept_.trans aside⟩

theorem polledSibling (rs : RteSiteRole) (cycle : UInt32) (frame : Option SiteRoleSibling) :
    (pollSiblingSource rs cycle frame).sibling = rs.sibling ∨
      frame = some (pollSiblingSource rs cycle frame).sibling := by
  unfold pollSiblingSource
  cases rs.cfg.siblingSource <;> cases frame <;> simp

theorem joinedSame (rs : RteSiteRole) :
    ∃ online, (startupRoleFromSibling rs).1 = { rs with online := online } := by
  unfold startupRoleFromSibling
  split
  · exact ⟨_, rfl⟩
  · exact ⟨rs.online, rfl⟩

theorem startSame {rs : RteSiteRole} {io : StartIo} {rs' : RteSiteRole} {status : RteStatus}
    (started : siteRoleStart rs io = some (rs', status)) :
    ∃ up online sibling rxCycle,
      Same { rs with link := up, online := online, sibling := sibling, siblingRxCycle := rxCycle, standbyRxCycle := 0 }
        rs' ∧
      (status = .ok → up = true) ∧ (sibling = rs.sibling ∨ io.siblingFrame = some sibling) ∧
      asideOf rs' = asideOf rs := by
  have heard := polledSibling (startReset rs io.nowMs) 0 io.siblingFrame
  obtain ⟨opened, answered, rest⟩ := Option.bind_eq_some_iff.mp started
  obtain ⟨up, ⟨kept, equal⟩, ok, aside⟩ := openLinkBlockingSame answered
  obtain ⟨online, joined⟩ := joinedSame (pollSiblingSource (startReset rs io.nowMs) 0 io.siblingFrame)
  rw [joined] at equal aside
  split at rest
  · rename_i failed
    cases rest
    exact ⟨up, online, _, _, ⟨_, equal.trans rfl⟩, fun succeeded => absurd succeeded failed, heard, aside⟩
  · rename_i succeeded
    obtain ⟨last, role, ⟨_, same⟩, linked, negotiated⟩ := startNegotiationSame rest
    rw [equal] at same linked
    exact ⟨last, role, _, _, ⟨_, same.trans rfl⟩, fun done => (linked done).trans (ok (not_not.mp succeeded)), heard,
      negotiated.trans aside⟩

theorem receiveCases (rs : RteSiteRole) (answer : ReceiveAnswer) :
    (∃ buffer, (receiveFrame rs answer).1 = { rs with rxBuf := buffer }) ∨
      (answer.status = .ok ∧ decodes rs.cfg answer = true ∧
        (receiveFrame rs answer).1 = decodeFrame (buffered rs answer.payload)) := by
  unfold receiveFrame
  split
  · rename_i received
    dsimp only
    split
    · rename_i decoded
      exact Or.inr ⟨received, decoded, rfl⟩
    · exact Or.inl ⟨_, rfl⟩
  · exact Or.inl ⟨rs.rxBuf, rfl⟩

theorem reconnectAside (rs : RteSiteRole) (answer : OpenAnswer) : asideOf (reconnect rs answer).1 = asideOf rs := by
  have ready := initChannelAside (openLinkOnce rs rs.cfg.reconnectAttemptMs answer.status).1 false answer.nowMs
  unfold reconnect
  dsimp only
  split
  · rfl
  split <;> exact ready

theorem receiveAside (rs : RteSiteRole) (answer : ReceiveAnswer) :
    asideOf (receiveFrame rs answer).1 = asideOf rs := by
  rcases receiveCases rs answer with ⟨_, equal⟩ | ⟨_, _, equal⟩ <;> rw [equal] <;> rfl

theorem teardownAside (rs : RteSiteRole) (sendOk : Bool) (status : RteStatus) :
    asideOf (handleSendMissAndLinkTeardown rs sendOk status) = asideOf rs := by
  unfold handleSendMissAndLinkTeardown
  dsimp only
  split <;> rfl

theorem receiveSame {rs rs' : RteSiteRole} (same : Same rs rs') (answer : ReceiveAnswer) :
    Same (receiveFrame rs answer).1 (receiveFrame rs' answer).1 := by
  obtain ⟨kept, rfl⟩ := same
  by_cases received : answer.status = .ok
  · cases decoded : decodes rs.cfg answer <;>
      simp only [receiveFrame, keepingCfg, received, decoded, if_true, Bool.false_eq_true, if_false] <;>
      exact sameOfEq rfl
  · simp only [receiveFrame, received, if_false]
    exact ⟨kept, rfl⟩

structure Listened (rs rs' : RteSiteRole) : Prop where
  cfg : rs'.cfg = rs.cfg
  link : rs'.link = rs.link
  online : rs'.online = rs.online
  localFaulted : rs'.localFaulted = rs.localFaulted
  cycle : rs'.cycle = rs.cycle
  lostPeerWhileOnline : rs'.lostPeerWhileOnline = rs.lostPeerWhileOnline
  takeoverConfirmCycle : rs'.takeoverConfirmCycle = rs.takeoverConfirmCycle
  bothStandbyCycles : rs'.bothStandbyCycles = rs.bothStandbyCycles
  sibling : rs'.sibling = rs.sibling

theorem listenedRefl (rs : RteSiteRole) : Listened rs rs := ⟨rfl, rfl, rfl, rfl, rfl, rfl, rfl, rfl, rfl⟩

theorem receiveListened (rs : RteSiteRole) (answer : ReceiveAnswer) : Listened rs (receiveFrame rs answer).1 := by
  rcases receiveCases rs answer with ⟨buffer, equal⟩ | ⟨_, _, equal⟩ <;> rw [equal]
  · exact ⟨rfl, rfl, rfl, rfl, rfl, rfl, rfl, rfl, rfl⟩
  · exact ⟨rfl, rfl, rfl, rfl, rfl, rfl, rfl, rfl, rfl⟩

def heardFaulted (rs : RteSiteRole) (answer : ReceiveAnswer) : Bool :=
  if answer.status = .ok ∧ decodes rs.cfg answer = true then frameFaulted (buffered rs answer.payload).rxBuf
  else rs.peerFaulted

theorem receiveFaulted (rs : RteSiteRole) (answer : ReceiveAnswer) :
    (receiveFrame rs answer).1.peerFaulted = heardFaulted rs answer := by
  unfold receiveFrame heardFaulted
  by_cases received : answer.status = .ok
  · cases decoded : decodes rs.cfg answer <;> simp [received] <;> rfl
  · simp [received]

theorem receiveStatus (rs : RteSiteRole) (answer : ReceiveAnswer) :
    (receiveFrame rs answer).2 = answer.status := by
  unfold receiveFrame
  split
  · rename_i received; exact received.symm
  · rfl

def tornDown (rs : RteSiteRole) : RteSiteRole :=
  { rs with
    link := false
    lostPeerWhileOnline := rs.online || rs.lostPeerWhileOnline
    peerUnresponsive := (!rs.online && !rs.localFaulted) || rs.peerUnresponsive }

theorem teardownCases (rs : RteSiteRole) (sendOk : Bool) (status : RteStatus) :
    Same rs (handleSendMissAndLinkTeardown rs sendOk status) ∨
      (linkDead (countSendMiss rs sendOk) status = true ∧
        Same (tornDown rs) (handleSendMissAndLinkTeardown rs sendOk status)) := by
  unfold handleSendMissAndLinkTeardown
  dsimp only
  split
  · rename_i dead
    exact Or.inr ⟨dead, sameOfEq rfl⟩
  · exact Or.inl (sameOfEq rfl)

theorem linkDeadSame {rs rs' : RteSiteRole} (cfg : rs'.cfg = rs.cfg) (sendMiss : rs'.sendMiss = rs.sendMiss)
    (sendOk : Bool) (status : RteStatus) :
    linkDead (countSendMiss rs' sendOk) status = linkDead (countSendMiss rs sendOk) status := by
  unfold linkDead countSendMiss
  rw [cfg, sendMiss]

theorem receiveMiss (rs : RteSiteRole) (answer : ReceiveAnswer) :
    (receiveFrame rs answer).1.sendMiss = rs.sendMiss := by
  rcases receiveCases rs answer with ⟨buffer, equal⟩ | ⟨_, _, equal⟩
  · rw [equal]
  · rw [equal]
    rfl

def staleDropped (rs : RteSiteRole) : RteSiteRole :=
  { rs with peerSnapshotValid := rs.peerSnapshotValid &&
      !standbyDataStale rs.cfg.standbySync rs.online rs.peerSnapshotValid rs.cycle rs.standbyRxCycle }

end PlatformRte.SiteRole
