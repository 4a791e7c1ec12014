import PlatformRte.SiteRole.DecisionPoint

/-! The pair a promotion waits for. The gate stands behind every PROMOTE of the policy; the
re-negotiation of two FAULTED sites is not a PROMOTE. -/
namespace PlatformRte.SiteRole.PairReady
open RteSiteRole

def ReadyPair (rs : RteSiteRole) (cycle : UInt32) (own : SiteRoleLocal) (io : ExecuteIo) : Prop :=
  let s := decisionState rs cycle own io
  own.ownReady = true ∧
    (siblingOnlineFact s own = true ∨ siblingReadyFact s own = true ∨ siblingReachableFact s own = false)

instance (rs : RteSiteRole) (cycle : UInt32) (own : SiteRoleLocal) (io : ExecuteIo) :
    Decidable (ReadyPair rs cycle own io) :=
  inferInstanceAs (Decidable (own.ownReady = true ∧ (siblingOnlineFact (decisionState rs cycle own io) own = true ∨
    siblingReadyFact (decisionState rs cycle own io) own = true ∨
    siblingReachableFact (decisionState rs cycle own io) own = false)))

def WestWins (rs : RteSiteRole) (cycle : UInt32) (own : SiteRoleLocal) (io : ExecuteIo) : Prop :=
  rs.cfg.isWest = true ∧ own.faulted = true ∧ (decisionState rs cycle own io).peerFaulted = true

theorem gateIsReadyPair (rs : RteSiteRole) (cycle : UInt32) (own : SiteRoleLocal) (io : ExecuteIo) :
    pairReadyToPromote (decisionInput rs cycle own io) = true ↔ ReadyPair rs cycle own io := by
  simp only [pairReadyToPromote, Bool.and_eq_true, Bool.or_eq_true, Bool.not_eq_true', or_assoc]
  rfl

theorem decidedOnline {s s' : RteSiteRole} {own : SiteRoleLocal} (standby : s.online = false)
    (step : Decided s own s') (turned : s'.online = true) :
    (decision s own).action = .promote ∨ ((decision s own).action = .renegotiate ∧ s.cfg.isWest = true) := by
  cases step with
  | promoted action _ => exact Or.inl action
  | demoted _ same =>
    obtain ⟨_, rfl⟩ := same
    cases turned
  | renegotiated action same =>
    obtain ⟨_, rfl⟩ := same
    exact Or.inr ⟨action, turned⟩
  | kept _ _ _ same =>
    obtain ⟨_, rfl⟩ := same
    exact absurd (turned.symm.trans standby) Bool.true_eq_false.mp

theorem executeOnline {rs : RteSiteRole} {cycle : UInt32} {own : SiteRoleLocal} {io : ExecuteIo}
    (standby : rs.online = false) (turned : (siteRoleExecute rs cycle own io).online = true) :
    (siteRoleDecide (decisionInput rs cycle own io)).action = .promote ∨
      ((siteRoleDecide (decisionInput rs cycle own io)).action = .renegotiate ∧ rs.cfg.isWest = true) := by
  obtain ⟨s', step, last⟩ := executeDecided rs cycle own io
  have listened := beforeListened rs cycle own io
  have online : s'.online = true := by
    rcases last with ⟨_, equal⟩ | ⟨_, _, equal⟩ <;> rw [equal] at turned <;> exact turned
  have decided_ := decidedOnline (listened.online.trans standby) step online
  rw [decision, ← decisionInputIs, listened.cfg] at decided_
  exact decided_

/- A STANDBY channel turns ONLINE over a ready pair, or as the WEST one of two FAULTED sites;
while neither holds it stays STANDBY. -/
theorem readyPairOnline (rs : RteSiteRole) (cycle : UInt32) (own : SiteRoleLocal) (io : ExecuteIo)
    (standby : rs.online = false) :
    ((siteRoleExecute rs cycle own io).online = true → ReadyPair rs cycle own io ∨ WestWins rs cycle own io) ∧
      (¬ReadyPair rs cycle own io → ¬WestWins rs cycle own io → (siteRoleExecute rs cycle own io).online = false) := by
  have turns : (siteRoleExecute rs cycle own io).online = true →
      ReadyPair rs cycle own io ∨ WestWins rs cycle own io := by
    intro turned
    rcases executeOnline standby turned with promoted | ⟨renegotiated, isWest⟩
    · exact Or.inl ((gateIsReadyPair rs cycle own io).mp (promoteReady promoted).1)
    · have both := (renegotiateIff _).mp renegotiated
      simp only [bothFaultedRule, Bool.and_eq_true] at both
      have faulted : (decisionInput rs cycle own io).ownFaulted = own.faulted := by
        rw [decisionInputIs]
        exact (beforeListened rs cycle own io).localFaulted
      exact Or.inr ⟨isWest, faulted ▸ both.1, both.2⟩
  refine ⟨turns, fun notReady notWest => ?_⟩
  cases online : (siteRoleExecute rs cycle own io).online
  · rfl
  · rcases turns online with ready | west
    · exact absurd ready notReady
    · exact absurd west notWest

def faultedUnready : SiteRoleLocal := ⟨true, false, false, false, false, false⟩

def faultedHeard : ExecuteIo := hearing (encodeFrame 8 true false 0 false [])

/- WEST is FAULTED and not ready, hears that EAST is FAULTED too, and goes ONLINE. -/
theorem unreadyWestOnline : ¬∀ rs cycle own io, rs.online = false →
    ((siteRoleExecute rs cycle own io).online = true → ReadyPair rs cycle own io) := by
  intro claimed
  have ready := claimed (initialState (smallSite true)) 5 faultedUnready faultedHeard rfl (by decide)
  exact absurd ready (by decide)

theorem readyWestOnline :
    ((siteRoleExecute (initialState (smallSite true)) 5 healthy faultedHeard).online = true →
      ReadyPair (initialState (smallSite true)) 5 healthy faultedHeard ∨
        WestWins (initialState (smallSite true)) 5 healthy faultedHeard) ∧
    (¬ReadyPair (initialState (smallSite true)) 5 healthy faultedHeard →
      ¬WestWins (initialState (smallSite true)) 5 healthy faultedHeard →
      (siteRoleExecute (initialState (smallSite true)) 5 healthy faultedHeard).online = false) :=
  readyPairOnline _ 5 healthy faultedHeard rfl

end PlatformRte.SiteRole.PairReady
