import PlatformRte.SiteRole.Service

/-! The point of an execute at which the role is decided: the channel then, and the facts
the policy is asked with. -/
namespace PlatformRte.SiteRole
open RteSiteRole

def decisionState (rs : RteSiteRole) (cycle : UInt32) (own : SiteRoleLocal) (io : ExecuteIo) : RteSiteRole :=
  let linked := ensureLink (prepareCycle rs cycle own io) io.reopen
  if linked.2 then updateStandbyWarmth (receiveFrame (negotiate linked.1 io.negotiator) io.receive).1 else linked.1

def decisionInput (rs : RteSiteRole) (cycle : UInt32) (own : SiteRoleLocal) (io : ExecuteIo) : SiteRoleInput :=
  buildDecisionInput (decisionState rs cycle own io) own

theorem executeDecides (rs : RteSiteRole) (cycle : UInt32) (own : SiteRoleLocal) (io : ExecuteIo) :
    siteRoleExecute rs cycle own io =
      if (ensureLink (prepareCycle rs cycle own io) io.reopen).2 then
        handleSendMissAndLinkTeardown
          (checkSiblingAfterDecision (runSiteRoleDecision (decisionState rs cycle own io) own) own)
          (decide (io.sendStatus = .ok)) io.receive.status
      else checkSiblingAfterDecision (runSiteRoleDecision (decisionState rs cycle own io) own) own := by
  unfold siteRoleExecute siteRoleExecuteBegin decisionState
  cases up : (ensureLink (prepareCycle rs cycle own io) io.reopen).2 <;>
    simp only [up, Bool.false_eq_true, if_false, if_true]
  rw [siteRoleExecuteFinish, receiveStatus]

theorem decisionSame (rs : RteSiteRole) (cycle : UInt32) (own : SiteRoleLocal) (io : ExecuteIo) :
    Same (beforeDecision rs cycle own io) (decisionState rs cycle own io) := by
  obtain ⟨same, up⟩ := openedSame rs cycle own io
  rw [← linkUp] at same up
  unfold decisionState beforeDecision
  dsimp only
  rw [up]
  cases down : linkUp rs io
  · rw [down] at same
    exact same
  · rw [down] at same
    have negotiated : Same (opened rs cycle own io.siblingFrame true)
        (negotiate (ensureLink (prepareCycle rs cycle own io) io.reopen).1 io.negotiator) :=
      sameTrans same (sameOfEq rfl)
    obtain ⟨kept, equal⟩ := receiveSame negotiated io.receive
    simp only [if_true]
    rw [equal]
    exact sameOfEq rfl

theorem sameInput {rs rs' : RteSiteRole} (same : Same rs rs') (own : SiteRoleLocal) :
    buildDecisionInput rs' own = buildDecisionInput rs own := by
  obtain ⟨_, rfl⟩ := same
  rfl

theorem decisionInputIs (rs : RteSiteRole) (cycle : UInt32) (own : SiteRoleLocal) (io : ExecuteIo) :
    decisionInput rs cycle own io = buildDecisionInput (beforeDecision rs cycle own io) own :=
  sameInput (decisionSame rs cycle own io) own

end PlatformRte.SiteRole
