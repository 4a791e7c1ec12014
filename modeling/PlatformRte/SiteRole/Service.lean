import PlatformRte.SiteRole.Decision
import PlatformRte.SiteRole.Confirmation

/-! The calls an application makes on a channel. rte_site_role_execute() is its
first half, up to the frame it sends, followed by the half that receives. -/
namespace PlatformRte.SiteRole
open PlatformRte.Dual

structure ExecuteIo where
  siblingFrame : Option SiteRoleSibling
  draw : Option Bytes
  reopen : OpenAnswer
  negotiator : NegotiatorIo
  region : Bytes
  sendStatus : RteStatus
  receive : ReceiveAnswer
  deriving DecidableEq, Repr

def prepareCycle (rs : RteSiteRole) (cycle : UInt32) (own : SiteRoleLocal) (io : ExecuteIo) : RteSiteRole :=
  refreshChallenge (pollSiblingSource (takeLocal { rs with cycle := cycle } own) cycle io.siblingFrame) cycle io.draw

def ensureLink (rs : RteSiteRole) (answer : OpenAnswer) : RteSiteRole × Bool :=
  if rs.link then (rs, true)
  else
    let opened := reconnect rs answer
    (opened.1, decide (opened.2 = .ok))

/- none: the link could not be re-opened, and only the rules that need no link ran. -/
def siteRoleExecuteBegin (rs : RteSiteRole) (cycle : UInt32) (own : SiteRoleLocal) (io : ExecuteIo) :
    RteSiteRole × Option Bytes :=
  let linked := ensureLink (prepareCycle rs cycle own io) io.reopen
  if linked.2 then
    let rs := negotiate linked.1 io.negotiator
    (rs, some (sendFrame rs io.region io.sendStatus).1)
  else (checkSiblingAfterDecision (runSiteRoleDecision linked.1 own) own, none)

def siteRoleExecuteFinish (rs : RteSiteRole) (own : SiteRoleLocal) (sendOk : Bool) (receive : ReceiveAnswer) :
    RteSiteRole :=
  let received := receiveFrame rs receive
  let decided := runSiteRoleDecision (updateStandbyWarmth received.1) own
  handleSendMissAndLinkTeardown (checkSiblingAfterDecision decided own) sendOk received.2

def siteRoleExecute (rs : RteSiteRole) (cycle : UInt32) (own : SiteRoleLocal) (io : ExecuteIo) : RteSiteRole :=
  let begun := siteRoleExecuteBegin rs cycle own io
  match begun.2 with
  | none => begun.1
  | some _ => siteRoleExecuteFinish begun.1 own (decide (io.sendStatus = .ok)) io.receive

def serviceDrain : Nat := 4

-- The answers in order; a receive without an answer times out.
def drainLink (rs : RteSiteRole) : Nat → List ReceiveAnswer → RteSiteRole
  | 0, _ => rs
  | _ + 1, [] => rs
  | n + 1, answer :: rest =>
      let received := receiveFrame rs answer
      if received.2 = .ok then drainLink received.1 n rest else received.1

def siteRoleServiceLink (rs : RteSiteRole) (cycle : UInt32) (answers : List ReceiveAnswer) : RteSiteRole :=
  if rs.link then drainLink { rs with cycle := cycle } serviceDrain answers else rs

def siteRoleSyncStandby (rs : RteSiteRole) (cycle : UInt32) (own : SiteRoleLocal) (region : Bytes)
    (status : RteStatus) : RteSiteRole × Option Bytes :=
  let rs := takeLocal rs own
  let rs := { rs with
    standbyHealthy := rs.standbyHealthy && !(rs.cfg.standbySync && rs.online && !rs.link) }
  if standbySyncDue rs.cfg.standbySync rs.online rs.link rs.standbyHealthy cycle rs.standbyLastTryCycle then
    let sent := sendFrame rs region status
    ({ rs with
        standbyHealthy := sent.2
        standbyLastTryCycle := if sent.2 then rs.standbyLastTryCycle else cycle },
      some sent.1)
  else (rs, none)

def siteRoleNoteLostContact (rs : RteSiteRole) : RteSiteRole := { rs with lostPeerWhileOnline := true }

/- The final frame before a reboot; the state of the channel is left alone. -/
def siteRoleFlushFaulted (rs : RteSiteRole) (singleMode : Bool) (region : Bytes) : Option Bytes :=
  if rs.link then some (encodeFrame rs.cfg.frameSize true singleMode 0 false region) else none

def siteRoleShutdown (rs : RteSiteRole) : RteSiteRole := closeLink rs

inductive SiteRoleCall where
  | execute (cycle : UInt32) (own : SiteRoleLocal) (io : ExecuteIo)
  | serviceLink (cycle : UInt32) (answers : List ReceiveAnswer)
  | syncStandby (cycle : UInt32) (own : SiteRoleLocal) (region : Bytes) (status : RteStatus)
  | onTakeoverConfirm (cycle : UInt32)
  | onTakeoverToken (cycle : UInt32) (token : Bytes) (draw : Option Bytes)
  | noteLostContact
  | flushFaulted (singleMode : Bool) (region : Bytes)
  | checkSibling (ownSingleMode : Bool) (sibling : SiteRoleSibling)
  | shutdown
  deriving DecidableEq, Repr

def siteRoleCall (rs : RteSiteRole) : SiteRoleCall → RteSiteRole
  | .execute cycle own io =>
      let executed := siteRoleExecute rs cycle own io
      { executed with tokenLog := .executed cycle :: executed.tokenLog }
  | .serviceLink cycle answers => siteRoleServiceLink rs cycle answers
  | .syncStandby cycle own region status => (siteRoleSyncStandby rs cycle own region status).1
  | .onTakeoverConfirm cycle => siteRoleOnTakeoverConfirm rs cycle
  | .onTakeoverToken cycle token draw => (siteRoleOnTakeoverToken rs cycle token draw).1
  | .noteLostContact => siteRoleNoteLostContact rs
  | .flushFaulted _ _ => rs
  | .checkSibling ownSingleMode sibling => (siteRoleCheckSibling rs ownSingleMode sibling).1
  | .shutdown => siteRoleShutdown rs

open RteSiteRole

def opened (rs : RteSiteRole) (cycle : UInt32) (own : SiteRoleLocal) (frame : Option SiteRoleSibling) (up : Bool) :
    RteSiteRole :=
  { pollSiblingSource (takeLocal { rs with cycle := cycle } own) cycle frame with link := up }

theorem ensureSame (rs : RteSiteRole) (answer : OpenAnswer) :
    Same { rs with link := rs.link || decide (answer.status = .ok) } (ensureLink rs answer).1 ∧
      (ensureLink rs answer).2 = (rs.link || decide (answer.status = .ok)) := by
  unfold ensureLink
  cases up : rs.link
  · obtain ⟨same, status⟩ := reconnectSame rs answer
    simp only [Bool.false_eq_true, if_false, Bool.false_or]
    exact ⟨same, by rw [status]⟩
  · simp only [if_true, Bool.true_or, and_true]
    exact sameOfEq (by simp only [← up]; rfl)

theorem ensureAside (rs : RteSiteRole) (answer : OpenAnswer) : asideOf (ensureLink rs answer).1 = asideOf rs := by
  unfold ensureLink
  split
  · rfl
  · exact reconnectAside rs answer

theorem openedSame (rs : RteSiteRole) (cycle : UInt32) (own : SiteRoleLocal) (io : ExecuteIo) :
    Same (opened rs cycle own io.siblingFrame (rs.link || decide (io.reopen.status = .ok)))
      (ensureLink (prepareCycle rs cycle own io) io.reopen).1 ∧
    (ensureLink (prepareCycle rs cycle own io) io.reopen).2 = (rs.link || decide (io.reopen.status = .ok)) := by
  obtain ⟨kept, prepared⟩ :=
    refreshSame (pollSiblingSource (takeLocal { rs with cycle := cycle } own) cycle io.siblingFrame) cycle io.draw
  obtain ⟨same, up⟩ := ensureSame (prepareCycle rs cycle own io) io.reopen
  have link : (prepareCycle rs cycle own io).link = rs.link := by rw [prepareCycle, prepared]; rfl
  rw [link] at same up
  exact ⟨sameTrans ⟨kept, by rw [prepareCycle, prepared]; rfl⟩ same, up⟩

def linkUp (rs : RteSiteRole) (io : ExecuteIo) : Bool := rs.link || decide (io.reopen.status = .ok)

theorem beginClosed {rs : RteSiteRole} {io : ExecuteIo} (cycle : UInt32) (own : SiteRoleLocal)
    (closed : linkUp rs io = false) :
    (siteRoleExecuteBegin rs cycle own io).2 = none ∧
      Decided (opened rs cycle own io.siblingFrame false) own (siteRoleExecuteBegin rs cycle own io).1 := by
  obtain ⟨same, up⟩ := openedSame rs cycle own io
  rw [← linkUp, closed] at same up
  unfold siteRoleExecuteBegin
  simp only [up, Bool.false_eq_true, if_false, true_and]
  exact decidedBetween same (decided _ own) (checkAfterSame _ own)

theorem beginOpen {rs : RteSiteRole} {io : ExecuteIo} (cycle : UInt32) (own : SiteRoleLocal)
    (open_ : linkUp rs io = true) :
    (siteRoleExecuteBegin rs cycle own io).2 = some (encodeFrame rs.cfg.frameSize own.faulted own.singleMode cycle
        rs.online io.region) ∧
      Same (opened rs cycle own io.siblingFrame true) (siteRoleExecuteBegin rs cycle own io).1 := by
  obtain ⟨same, up⟩ := openedSame rs cycle own io
  rw [← linkUp, open_] at same up
  unfold siteRoleExecuteBegin
  simp only [up, if_true]
  obtain ⟨kept, equal⟩ := same
  rw [equal]
  exact ⟨rfl, sameOfEq rfl⟩

theorem receiveRule {P : RteSiteRole → Prop} (received : ∀ s buffer, P s → P { s with rxBuf := buffer })
    (decoded : ∀ s, P s → P (decodeFrame s)) {rs : RteSiteRole} (answer : ReceiveAnswer) (start : P rs) :
    P (receiveFrame rs answer).1 := by
  rcases receiveCases rs answer with ⟨buffer, equal⟩ | ⟨_, _, equal⟩ <;> rw [equal]
  · exact received rs buffer start
  · exact decoded _ (received rs _ start)

theorem finishDecided {rs m : RteSiteRole} (same : Same rs m) (own : SiteRoleLocal) (sendOk : Bool)
    (receive : ReceiveAnswer) :
    ∃ s', Decided (staleDropped (receiveFrame rs receive).1) own s' ∧
      (Same s' (siteRoleExecuteFinish m own sendOk receive) ∨
        (linkDead (countSendMiss m sendOk) receive.status = true ∧
          Same (tornDown s') (siteRoleExecuteFinish m own sendOk receive))) := by
  obtain ⟨kept, equal⟩ := receiveSame same receive
  have warm : Same (staleDropped (receiveFrame rs receive).1) (updateStandbyWarmth (receiveFrame m receive).1) := by
    rw [equal]
    exact sameOfEq rfl
  have ran := decisionMiss (updateStandbyWarmth (receiveFrame m receive).1) own
  have checked := checkAfterMiss (runSiteRoleDecision (updateStandbyWarmth (receiveFrame m receive).1) own) own
  refine ⟨checkSiblingAfterDecision (runSiteRoleDecision (updateStandbyWarmth (receiveFrame m receive).1) own) own,
    decidedBetween warm (decided _ own) (checkAfterSame _ own), ?_⟩
  unfold siteRoleExecuteFinish
  refine (teardownCases _ sendOk (receiveFrame m receive).2).imp_right fun torn => ⟨?_, torn.2⟩
  rw [← receiveStatus m receive]
  refine (linkDeadSame ?_ ?_ sendOk _).symm.trans torn.1
  · exact checked.1.trans (ran.1.trans (receiveListened m receive).cfg)
  · exact checked.2.trans (ran.2.trans (receiveMiss m receive))

def beforeDecision (rs : RteSiteRole) (cycle : UInt32) (own : SiteRoleLocal) (io : ExecuteIo) : RteSiteRole :=
  if linkUp rs io then staleDropped (receiveFrame (opened rs cycle own io.siblingFrame true) io.receive).1
  else opened rs cycle own io.siblingFrame false

theorem beforeRule {P : RteSiteRole → Prop} (received : ∀ s buffer, P s → P { s with rxBuf := buffer })
    (decoded : ∀ s, P s → P (decodeFrame s)) (dropped : ∀ s, P s → P (staleDropped s)) {rs : RteSiteRole}
    {cycle : UInt32} {own : SiteRoleLocal} {io : ExecuteIo} (begun : ∀ up, P (opened rs cycle own io.siblingFrame up)) :
    P (beforeDecision rs cycle own io) := by
  unfold beforeDecision
  split
  · exact dropped _ (receiveRule received decoded io.receive (begun true))
  · exact begun false

theorem beforeListened (rs : RteSiteRole) (cycle : UInt32) (own : SiteRoleLocal) (io : ExecuteIo) :
    Listened (opened rs cycle own io.siblingFrame (linkUp rs io)) (beforeDecision rs cycle own io) := by
  unfold beforeDecision
  cases linkUp rs io
  · exact listenedRefl _
  · obtain ⟨cfg, link, online, faulted, cycles, lost, confirm, counter, sibling⟩ :=
      receiveListened (opened rs cycle own io.siblingFrame true) io.receive
    exact ⟨cfg, link, online, faulted, cycles, lost, confirm, counter, sibling⟩

theorem beforeClosed {rs : RteSiteRole} {io : ExecuteIo} (down : linkUp rs io = false) (cycle : UInt32)
    (own : SiteRoleLocal) : beforeDecision rs cycle own io = opened rs cycle own io.siblingFrame false := by
  rw [beforeDecision, down]
  rfl

theorem executeDecided (rs : RteSiteRole) (cycle : UInt32) (own : SiteRoleLocal) (io : ExecuteIo) :
    ∃ s', Decided (beforeDecision rs cycle own io) own s' ∧ (Same s' (siteRoleExecute rs cycle own io) ∨
      (linkUp rs io = true ∧ Same (tornDown s') (siteRoleExecute rs cycle own io))) := by
  unfold siteRoleExecute beforeDecision
  dsimp only
  cases up : linkUp rs io
  · obtain ⟨sent, step⟩ := beginClosed cycle own up
    rw [sent]
    exact ⟨_, step, Or.inl (sameRefl _)⟩
  · obtain ⟨sent, same⟩ := beginOpen cycle own up
    rw [sent]
    obtain ⟨s', step, last⟩ := finishDecided same own (decide (io.sendStatus = .ok)) io.receive
    exact ⟨s', step, last.imp_right fun torn => ⟨rfl, torn.2⟩⟩

theorem executeLocal (rs : RteSiteRole) (cycle : UInt32) (own : SiteRoleLocal) (io : ExecuteIo) :
    (siteRoleExecute rs cycle own io).localFaulted = own.faulted := by
  obtain ⟨s', step, last⟩ := executeDecided rs cycle own io
  have taken : s'.localFaulted = own.faulted :=
    (decidedUntouched step).localFaulted.trans (beforeListened rs cycle own io).localFaulted
  rcases last with ⟨_, equal⟩ | ⟨_, _, equal⟩ <;> rw [equal] <;> exact taken

theorem drainRule {P : RteSiteRole → Prop} (received : ∀ s buffer, P s → P { s with rxBuf := buffer })
    (decoded : ∀ s, P s → P (decodeFrame s)) (n : Nat) (answers : List ReceiveAnswer) {rs : RteSiteRole}
    (start : P rs) : P (drainLink rs n answers) := by
  induction n generalizing rs answers with
  | zero => simpa [drainLink] using start
  | succ n ih =>
    cases answers with
    | nil => exact start
    | cons answer rest =>
      have arrived := receiveRule received decoded answer start
      simp only [drainLink]
      split
      · exact ih rest arrived
      · exact arrived

theorem drainAside (n : Nat) (answers : List ReceiveAnswer) (rs : RteSiteRole) :
    asideOf (drainLink rs n answers) = asideOf rs :=
  drainRule (P := fun s => asideOf s = asideOf rs) (fun _ _ same => same) (fun _ same => same) n answers rfl

theorem syncSame (rs : RteSiteRole) (cycle : UInt32) (own : SiteRoleLocal) (region : Bytes) (status : RteStatus) :
    Same (takeLocal rs own) (siteRoleSyncStandby rs cycle own region status).1 := by
  unfold siteRoleSyncStandby
  dsimp only
  split <;> exact sameOfEq rfl

structure AsideRule (P : RteSiteRole → Prop) : Prop where
  same : ∀ s s', Same s s' → P s → P s'
  ticked : ∀ s cycle, P s → P { s with cycle := cycle }
  taken : ∀ s own, P s → P (takeLocal s own)
  received : ∀ s buffer, P s → P { s with rxBuf := buffer }
  decoded : ∀ s, P s → P (decodeFrame s)
  confirmed : ∀ s cycle, P s → P (recordTakeoverConfirmation s cycle)
  lost : ∀ s, P s → P (siteRoleNoteLostContact s)
  closed : ∀ s, P s → P (closeLink s)

theorem asideRule {P : RteSiteRole → Prop} (rule : AsideRule P) {rs : RteSiteRole} {call : SiteRoleCall}
    (aside : ∀ cycle own io, call ≠ .execute cycle own io) (start : P rs) : P (siteRoleCall rs call) := by
  cases call with
  | execute cycle own io => exact absurd rfl (aside cycle own io)
  | serviceLink cycle answers =>
    simp only [siteRoleCall, siteRoleServiceLink]
    split
    · exact drainRule rule.received rule.decoded _ _ (rule.ticked _ cycle start)
    · exact start
  | syncStandby cycle own region status =>
    exact rule.same _ _ (syncSame rs cycle own region status) (rule.taken _ own start)
  | onTakeoverConfirm cycle =>
    simp only [siteRoleCall]
    rcases confirmCases rs cycle with equal | ⟨_, _, equal⟩ <;> rw [equal]
    · exact start
    · exact rule.confirmed _ cycle start
  | onTakeoverToken cycle token draw =>
    simp only [siteRoleCall]
    rcases tokenCases rs cycle token draw with equal | ⟨_, _, same⟩
    · rw [equal]; exact start
    · exact rule.same _ _ same (rule.confirmed _ cycle start)
  | noteLostContact => exact rule.lost _ start
  | flushFaulted => exact start
  | checkSibling ownSingleMode sibling => exact rule.same _ _ (checkSiblingSame rs ownSingleMode sibling) start
  | shutdown => exact rule.closed _ start

inductive SetUp : RteSiteRole → Prop where
  | initialized {cfg rs} (init : siteRoleInit cfg = .ok rs) : SetUp rs
  | started {cfg rs io rs' status} (init : siteRoleInit cfg = .ok rs)
      (start : siteRoleStart rs io = some (rs', status)) : SetUp rs'

theorem initRoom {cfg : SiteRoleConfig} {rs : RteSiteRole} (init : siteRoleInit cfg = .ok rs) :
    rs = initialState cfg ∧ frameOverhead < cfg.frameSize := by
  unfold siteRoleInit at init
  split at init
  · cases init
  · rename_i valid
    cases init
    exact ⟨rfl, by omega⟩

def smallSite (isWest : Bool) : SiteRoleConfig where
  ownId := if isWest then 1 else 2
  peerId := if isWest then 2 else 1
  isWest := isWest
  listen := true
  peerHost := none
  peerLostTimeoutMs := 1000
  reconnectAttemptMs := 10
  startupTimeoutMs := 100
  linkPollMs := 10
  connectRetryMs := 10
  connectTimeoutMs := 10
  delay := false
  sendMissThreshold := 3
  standbySync := true
  startupTimestampMs := 5
  frameSize := 8
  rxBuf := []
  verifyMac := none
  channelId := 0
  challengeLifetimeCycles := 0
  siblingSource := false
  siblingReachCycles := 0

theorem smallSiteReady (isWest : Bool) : SetUp (initialState (smallSite isWest)) := by
  have init : siteRoleInit (smallSite isWest) = .ok (initialState (smallSite isWest)) := by
    simp [siteRoleInit, smallSite, frameOverhead]
  exact .initialized init

def olderStart : StartIo := ⟨0, none, [.ok], 0, [⟨.full, [(⟨0, 0, 9⟩, 1)], 1⟩]⟩

def healthy : SiteRoleLocal := ⟨false, false, true, false, false, false⟩

def silentCycle : ExecuteIo where
  siblingFrame := none
  draw := none
  reopen := ⟨.ok, 0⟩
  negotiator := ⟨.full, [], 0⟩
  region := []
  sendStatus := .ok
  receive := ⟨.timeout, [], false⟩

def brokenLink : ExecuteIo := { silentCycle with receive := ⟨.hardwareFault, [], false⟩ }

def noLink : ExecuteIo := { silentCycle with reopen := ⟨.timeout, 0⟩ }

def hearing (frame : Bytes) : ExecuteIo := { silentCycle with receive := ⟨.ok, frame, true⟩ }

theorem setUpSame {rs : RteSiteRole} (setUp : SetUp rs) :
    ∃ cfg up online sibling rxCycle, frameOverhead < cfg.frameSize ∧
      Same { initialState cfg with link := up, online := online, sibling := sibling, siblingRxCycle := rxCycle } rs ∧
      asideOf rs = asideOf (initialState cfg) := by
  cases setUp with
  | @initialized cfg _ init =>
    obtain ⟨rfl, room⟩ := initRoom init
    exact ⟨cfg, false, false, _, _, room, sameOfEq rfl, rfl⟩
  | @started cfg _ _ _ _ init start =>
    obtain ⟨rfl, room⟩ := initRoom init
    obtain ⟨up, online, sibling, rxCycle, ⟨_, equal⟩, _, _, challenge⟩ := startSame start
    exact ⟨cfg, up, online, sibling, rxCycle, room, ⟨_, equal⟩, challenge⟩

end PlatformRte.SiteRole
