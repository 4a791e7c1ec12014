import PlatformRte.SiteRole.Link

/-! The role decision of a cycle: the facts are gathered, the policy is asked once
and its one action is applied. -/
namespace PlatformRte.SiteRole

-- A cycle number that went back makes the sibling's frame stale.
def siblingReachable (rs : RteSiteRole) : Bool :=
  rs.sibling.known && decide (rs.siblingRxCycle ≤ rs.cycle) &&
    decide (rs.cycle - rs.siblingRxCycle ≤ rs.cfg.siblingReachCycles)

def siblingOnlineFact (rs : RteSiteRole) (own : SiteRoleLocal) : Bool :=
  if rs.cfg.siblingSource then rs.sibling.known && rs.sibling.online else own.siblingOnline

def siblingReadyFact (rs : RteSiteRole) (own : SiteRoleLocal) : Bool :=
  if rs.cfg.siblingSource then rs.sibling.known && rs.sibling.ready else own.siblingReady

def siblingReachableFact (rs : RteSiteRole) (own : SiteRoleLocal) : Bool :=
  if rs.cfg.siblingSource then siblingReachable rs else own.siblingReachable

def buildDecisionInput (rs : RteSiteRole) (own : SiteRoleLocal) : SiteRoleInput where
  isOnline := rs.online
  ownFaulted := rs.localFaulted
  isWest := rs.cfg.isWest
  linkUp := rs.link
  peerUnresponsive := rs.peerUnresponsive
  cycle := rs.cycle
  peerLastRxCycle := rs.peerLastRxCycle
  peerOnlineNow := rs.peerOnlineNow
  peerFaulted := rs.peerFaulted
  peerSnapshotValid := rs.peerSnapshotValid
  takeoverConfirmed := rs.takeoverConfirmed
  takeoverConfirmCycle := rs.takeoverConfirmCycle
  lostPeerWhileOnline := rs.lostPeerWhileOnline
  bothStandbyCycles := rs.bothStandbyCycles
  ownReady := own.ownReady
  siblingOnline := siblingOnlineFact rs own
  siblingReady := siblingReadyFact rs own
  siblingReachable := siblingReachableFact rs own

def decision (rs : RteSiteRole) (own : SiteRoleLocal) : SiteRoleDecision :=
  siteRoleDecide (buildDecisionInput rs own)

def reasonChanged (rs : RteSiteRole) (reason : SiteRoleReason) : Bool :=
  !rs.lastReasonSet || decide (rs.lastReason ≠ reason)

def setReason (rs : RteSiteRole) (reason : SiteRoleReason) : RteSiteRole :=
  { rs with lastReason := reason, lastReasonSet := true }

def applyDecision (rs : RteSiteRole) (d : SiteRoleDecision) : RteSiteRole :=
  match d.action with
  | .promote => setReason (promoteToOnline rs d.reason) d.reason
  | .demote => setReason (demoteToStandby rs d.reason) d.reason
  | .renegotiate => setReason (renegotiateFromDeadlock rs d.reason) d.reason
  | .alarm => if reasonChanged rs d.reason then setReason rs d.reason else rs
  | .wait => if reasonChanged rs d.reason then setReason rs d.reason else rs
  | .none => rs

def runSiteRoleDecision (rs : RteSiteRole) (own : SiteRoleLocal) : RteSiteRole :=
  let d := decision rs own
  applyDecision { rs with bothStandbyCycles := d.bothStandbyCycles } d

def siteRoleCheckSibling (rs : RteSiteRole) (ownSingleMode : Bool) (sibling : SiteRoleSibling) :
    RteSiteRole × SiblingVerdict :=
  if !sibling.known then (rs, .unknown)
  else if sibling.online = rs.online ∧ sibling.singleMode = ownSingleMode then
    ({ rs with siblingMismatch := 0 }, .agree)
  else
    let mismatch := if rs.siblingMismatch < 255 then rs.siblingMismatch + 1 else rs.siblingMismatch
    ({ rs with siblingMismatch := mismatch }, if mismatch < siblingMismatchLimit then .pending else .fault)

def checkSiblingAfterDecision (rs : RteSiteRole) (own : SiteRoleLocal) : RteSiteRole :=
  if rs.cfg.siblingSource then
    let checked := siteRoleCheckSibling rs own.singleMode rs.sibling
    { checked.1 with siblingVerdict := checked.2 }
  else rs

open RteSiteRole

theorem checkSiblingSame (rs : RteSiteRole) (ownSingleMode : Bool) (sibling : SiteRoleSibling) :
    Same rs (siteRoleCheckSibling rs ownSingleMode sibling).1 := by
  unfold siteRoleCheckSibling
  split
  · exact sameRefl rs
  split <;> exact sameOfEq rfl

theorem checkAfterSame (rs : RteSiteRole) (own : SiteRoleLocal) : Same rs (checkSiblingAfterDecision rs own) := by
  unfold checkSiblingAfterDecision
  split
  · exact sameTrans (checkSiblingSame rs own.singleMode rs.sibling) (sameOfEq rfl)
  · exact sameRefl rs

def counted (rs : RteSiteRole) (own : SiteRoleLocal) : RteSiteRole :=
  { rs with bothStandbyCycles := (decision rs own).bothStandbyCycles }

inductive Decided (rs : RteSiteRole) (own : SiteRoleLocal) : RteSiteRole → Prop where
  | promoted {rs'} (action : (decision rs own).action = .promote)
      (same : Same (promoteToOnline (counted rs own) (decision rs own).reason) rs') : Decided rs own rs'
  | demoted {rs'} (action : (decision rs own).action = .demote)
      (same : Same (demoteToStandby (counted rs own) (decision rs own).reason) rs') : Decided rs own rs'
  | renegotiated {rs'} (action : (decision rs own).action = .renegotiate)
      (same : Same (renegotiateFromDeadlock (counted rs own) (decision rs own).reason) rs') : Decided rs own rs'
  | kept {rs'} (promote : (decision rs own).action ≠ .promote) (demote : (decision rs own).action ≠ .demote)
      (renegotiate : (decision rs own).action ≠ .renegotiate) (same : Same (counted rs own) rs') : Decided rs own rs'

theorem decided (rs : RteSiteRole) (own : SiteRoleLocal) : Decided rs own (runSiteRoleDecision rs own) := by
  unfold runSiteRoleDecision applyDecision
  dsimp only
  cases action : (decision rs own).action <;> dsimp only
  case promote => exact .promoted action (sameOfEq rfl)
  case demote => exact .demoted action (sameOfEq rfl)
  case renegotiate => exact .renegotiated action (sameOfEq rfl)
  case none => exact .kept (by simp [action]) (by simp [action]) (by simp [action]) (sameRefl _)
  case alarm => exact .kept (by simp [action]) (by simp [action]) (by simp [action]) (by split <;> exact sameOfEq rfl)
  case wait => exact .kept (by simp [action]) (by simp [action]) (by simp [action]) (by split <;> exact sameOfEq rfl)

theorem decisionMiss (rs : RteSiteRole) (own : SiteRoleLocal) :
    (runSiteRoleDecision rs own).cfg = rs.cfg ∧ (runSiteRoleDecision rs own).sendMiss = rs.sendMiss := by
  unfold runSiteRoleDecision applyDecision
  dsimp only
  cases (decision rs own).action <;> dsimp only
  case alarm => split <;> exact ⟨rfl, rfl⟩
  case wait => split <;> exact ⟨rfl, rfl⟩
  all_goals exact ⟨rfl, rfl⟩

theorem decisionAside (rs : RteSiteRole) (own : SiteRoleLocal) : asideOf (runSiteRoleDecision rs own) = asideOf rs := by
  unfold runSiteRoleDecision applyDecision
  dsimp only
  split
  all_goals first | rfl | (split <;> rfl)

theorem checkAfterMiss (rs : RteSiteRole) (own : SiteRoleLocal) :
    (checkSiblingAfterDecision rs own).cfg = rs.cfg ∧ (checkSiblingAfterDecision rs own).sendMiss = rs.sendMiss := by
  unfold checkSiblingAfterDecision siteRoleCheckSibling
  dsimp only
  split
  · split
    · exact ⟨rfl, rfl⟩
    split <;> exact ⟨rfl, rfl⟩
  · exact ⟨rfl, rfl⟩

theorem decidedBetween {rs rs₁ rs₂ rs' own} (before : Same rs rs₁) (step : Decided rs₁ own rs₂)
    (after : Same rs₂ rs') : Decided rs own rs' := by
  obtain ⟨kept, rfl⟩ := before
  cases step with
  | promoted action first => exact .promoted action (sameTrans (sameTrans (sameOfEq rfl) first) after)
  | demoted action first => exact .demoted action (sameTrans (sameTrans (sameOfEq rfl) first) after)
  | renegotiated action first => exact .renegotiated action (sameTrans (sameTrans (sameOfEq rfl) first) after)
  | kept promote demote renegotiate first =>
    exact .kept promote demote renegotiate (sameTrans (sameTrans (sameOfEq rfl) first) after)

structure Untouched (rs rs' : RteSiteRole) : Prop where
  cfg : rs'.cfg = rs.cfg
  link : rs'.link = rs.link
  localFaulted : rs'.localFaulted = rs.localFaulted
  cycle : rs'.cycle = rs.cycle
  peerFaulted : rs'.peerFaulted = rs.peerFaulted
  peerOnlineNow : rs'.peerOnlineNow = rs.peerOnlineNow
  takeoverConfirmCycle : rs'.takeoverConfirmCycle = rs.takeoverConfirmCycle
  sibling : rs'.sibling = rs.sibling

theorem decidedUntouched {rs rs' own} (step : Decided rs own rs') : Untouched rs rs' := by
  cases step with
  | promoted _ same => obtain ⟨_, rfl⟩ := same; exact ⟨rfl, rfl, rfl, rfl, rfl, rfl, rfl, rfl⟩
  | demoted _ same => obtain ⟨_, rfl⟩ := same; exact ⟨rfl, rfl, rfl, rfl, rfl, rfl, rfl, rfl⟩
  | renegotiated _ same => obtain ⟨_, rfl⟩ := same; exact ⟨rfl, rfl, rfl, rfl, rfl, rfl, rfl, rfl⟩
  | kept _ _ _ same => obtain ⟨_, rfl⟩ := same; exact ⟨rfl, rfl, rfl, rfl, rfl, rfl, rfl, rfl⟩

theorem decidedCounter {rs rs' own} (step : Decided rs own rs') :
    rs'.bothStandbyCycles.toNat ≤ rs.bothStandbyCycles.toNat + 1 := by
  have bound := counterBound (buildDecisionInput rs own)
  cases step with
  | promoted _ same => obtain ⟨_, rfl⟩ := same; exact bound
  | demoted _ same => obtain ⟨_, rfl⟩ := same; exact bound
  | renegotiated _ same => obtain ⟨_, rfl⟩ := same; exact bound
  | kept _ _ _ same => obtain ⟨_, rfl⟩ := same; exact bound

end PlatformRte.SiteRole
