import PlatformRte.SiteRole.Service

/-! What the calls of a channel do to its link and to its count of misses. -/
namespace PlatformRte.SiteRole
open PlatformRte.Dual Bytes

structure SameLink (rs rs' : RteSiteRole) : Prop where
  cfg : rs'.cfg = rs.cfg
  link : rs'.link = rs.link
  miss : rs'.sendMiss = rs.sendMiss

theorem SameLink.trans {a b c : RteSiteRole} (first : SameLink a b) (second : SameLink b c) : SameLink a c :=
  ⟨second.cfg.trans first.cfg, second.link.trans first.link, second.miss.trans first.miss⟩

theorem drawLink (rs : RteSiteRole) (cycle : UInt32) (draw : Option Bytes) :
    SameLink rs (drawChallenge rs cycle draw) := by
  unfold drawChallenge
  split <;> exact ⟨rfl, rfl, rfl⟩

theorem decisionLink (rs : RteSiteRole) (own : SiteRoleLocal) : SameLink rs (runSiteRoleDecision rs own) :=
  ⟨(decisionMiss rs own).1, (decidedUntouched (decided rs own)).link, (decisionMiss rs own).2⟩

theorem checkAfterLink (rs : RteSiteRole) (own : SiteRoleLocal) : SameLink rs (checkSiblingAfterDecision rs own) := by
  obtain ⟨_, equal⟩ := checkAfterSame rs own
  exact ⟨(checkAfterMiss rs own).1, by rw [equal]; rfl, (checkAfterMiss rs own).2⟩

theorem receiveLink (rs : RteSiteRole) (answer : ReceiveAnswer) : SameLink rs (receiveFrame rs answer).1 :=
  ⟨(receiveListened rs answer).cfg, (receiveListened rs answer).link, receiveMiss rs answer⟩

theorem confirmLink (rs : RteSiteRole) (cycle : UInt32) : SameLink rs (siteRoleOnTakeoverConfirm rs cycle) := by
  rcases confirmCases rs cycle with equal | ⟨_, _, equal⟩ <;> rw [equal] <;> exact ⟨rfl, rfl, rfl⟩

theorem tokenLink (rs : RteSiteRole) (cycle : UInt32) (token : Bytes) (draw : Option Bytes) :
    SameLink rs (siteRoleOnTakeoverToken rs cycle token draw).1 := by
  unfold siteRoleOnTakeoverToken
  split
  · exact ⟨rfl, rfl, rfl⟩
  · dsimp only
    split
    · exact ⟨(drawLink _ cycle draw).cfg, (drawLink _ cycle draw).link, (drawLink _ cycle draw).miss⟩
    · exact ⟨rfl, rfl, rfl⟩

theorem checkSiblingLink (rs : RteSiteRole) (ownSingleMode : Bool) (sibling : SiteRoleSibling) :
    SameLink rs (siteRoleCheckSibling rs ownSingleMode sibling).1 := by
  unfold siteRoleCheckSibling
  split
  · exact ⟨rfl, rfl, rfl⟩
  · split <;> exact ⟨rfl, rfl, rfl⟩

theorem syncLink (rs : RteSiteRole) (cycle : UInt32) (own : SiteRoleLocal) (region : Bytes) (status : RteStatus) :
    SameLink rs (siteRoleSyncStandby rs cycle own region status).1 := by
  unfold siteRoleSyncStandby
  dsimp only
  split <;> exact ⟨rfl, rfl, rfl⟩

theorem syncDue {rs rs' : RteSiteRole} {cycle : UInt32} {own : SiteRoleLocal} {region frame : Bytes}
    {status : RteStatus} (room : frameOverhead < rs.cfg.frameSize)
    (due : siteRoleSyncStandby rs cycle own region status = (rs', some frame)) :
    rs.link = true ∧ frame.length = rs.cfg.frameSize := by
  unfold siteRoleSyncStandby at due
  dsimp only at due
  split at due
  · rename_i sync
    unfold standbySyncDue at sync
    split at sync
    · rename_i facts
      simp only [Bool.and_eq_true] at facts
      cases due
      exact ⟨facts.2, encodedLength _ _ _ _ _ room⟩
    · cases sync
  · cases due

theorem flushDue {rs : RteSiteRole} {singleMode : Bool} {region frame : Bytes} (room : frameOverhead < rs.cfg.frameSize)
    (due : siteRoleFlushFaulted rs singleMode region = some frame) :
    rs.link = true ∧ frame.length = rs.cfg.frameSize := by
  unfold siteRoleFlushFaulted at due
  split at due
  · rename_i up
    cases due
    exact ⟨up, encodedLength _ _ _ _ _ room⟩
  · cases due

theorem finishLink (rs : RteSiteRole) (own : SiteRoleLocal) (answer : ReceiveAnswer) :
    SameLink rs (checkSiblingAfterDecision (runSiteRoleDecision
      (updateStandbyWarmth (receiveFrame rs answer).1) own) own) := by
  have warm : SameLink rs (updateStandbyWarmth (receiveFrame rs answer).1) :=
    (receiveLink rs answer).trans ⟨rfl, rfl, rfl⟩
  exact (warm.trans (decisionLink _ own)).trans (checkAfterLink _ own)

theorem finishKept {rs : RteSiteRole} (own : SiteRoleLocal) {answer : ReceiveAnswer}
    (threshold : 1 ≤ rs.cfg.sendMissThreshold) (sound : answer.status = .ok ∨ answer.status = .timeout) :
    (siteRoleExecuteFinish rs own true answer).cfg = rs.cfg ∧
      (siteRoleExecuteFinish rs own true answer).link = rs.link ∧
      (siteRoleExecuteFinish rs own true answer).sendMiss = 0 := by
  have same := finishLink rs own answer
  unfold siteRoleExecuteFinish handleSendMissAndLinkTeardown
  dsimp only
  generalize checkSiblingAfterDecision (runSiteRoleDecision (updateStandbyWarmth (receiveFrame rs answer).1) own) own =
    decided at same ⊢
  have alive : linkDead (countSendMiss decided true) (receiveFrame rs answer).2 = false := by
    rw [receiveStatus, linkDead, Bool.or_eq_false_iff]
    constructor
    · have above : ¬decided.cfg.sendMissThreshold ≤ 0 := by
        rw [same.cfg]
        intro none_
        exact absurd (UInt8.le_trans threshold none_) (by decide)
      simpa [countSendMiss] using above
    · rcases sound with taken | quiet
      · simp [taken]
      · simp [quiet]
  rw [alive, if_neg Bool.false_ne_true]
  exact ⟨same.cfg, same.link, rfl⟩

theorem missCounted (rs : RteSiteRole) : 0 < (countSendMiss rs false).sendMiss := by
  simp only [countSendMiss, Bool.false_eq_true, if_false]
  split
  · rename_i few
    rw [UInt8.lt_iff_toNat_lt] at few ⊢
    rw [UInt8.toNat_add]
    simp only [UInt8.reduceToNat] at few ⊢
    omega
  · rename_i many
    exact UInt8.lt_of_lt_of_le (by decide) (UInt8.not_lt.mp many)

theorem finishMissed (rs : RteSiteRole) (own : SiteRoleLocal) (answer : ReceiveAnswer)
    (up : (siteRoleExecuteFinish rs own false answer).link = true) :
    0 < (siteRoleExecuteFinish rs own false answer).sendMiss := by
  unfold siteRoleExecuteFinish handleSendMissAndLinkTeardown at up ⊢
  dsimp only at up ⊢
  split at up
  · cases up
  · rename_i alive
    rw [if_neg alive]
    exact missCounted _

theorem reconnectMiss {rs : RteSiteRole} (answer : OpenAnswer) (miss : rs.sendMiss = 0) :
    (reconnect rs answer).1.sendMiss = 0 := by
  by_cases opened : answer.status = .ok
  · simp [reconnect, openLinkOnce, initChannelAndNegotiator, SiteRole.dualChannelInit, opened]
  · simpa [reconnect, openLinkOnce, opened] using miss

theorem ensureLinkMiss {rs : RteSiteRole} (answer : OpenAnswer) (miss : rs.sendMiss = 0) :
    (SiteRole.ensureLink rs answer).1.sendMiss = 0 := by
  unfold SiteRole.ensureLink
  split
  · exact miss
  · exact reconnectMiss answer miss

theorem connectRetryLink {rs rs' : RteSiteRole} {waitedMs : UInt32} {answers : List RteStatus} {status : RteStatus}
    (done : connectRetry rs waitedMs answers = some (rs', status)) : rs'.cfg = rs.cfg ∧ rs'.sendMiss = rs.sendMiss ∧
      (status = .ok → rs'.link = true) ∧ (status ≠ .ok → rs'.link = true → rs.link = true) := by
  induction answers generalizing rs waitedMs with
  | nil =>
    simp only [connectRetry] at done
    split at done
    · cases done
    · cases done
      exact ⟨rfl, rfl, by simp, fun _ up => up⟩
  | cons answer rest ih =>
    simp only [connectRetry] at done
    split at done
    · split at done
      · rename_i opened
        cases done
        exact ⟨rfl, rfl, fun _ => by simp [openLinkOnce, opened], fun failed => absurd rfl failed⟩
      · rename_i failed
        have delayed : (connectDelay (openLinkOnce rs rs.cfg.connectTimeoutMs answer).1).cfg = rs.cfg ∧
            (connectDelay (openLinkOnce rs rs.cfg.connectTimeoutMs answer).1).sendMiss = rs.sendMiss ∧
            (connectDelay (openLinkOnce rs rs.cfg.connectTimeoutMs answer).1).link = false := by
          unfold connectDelay openLinkOnce
          split <;> exact ⟨rfl, rfl, decide_eq_false failed⟩
        obtain ⟨cfg, miss, ok, closed⟩ := ih done
        refine ⟨cfg.trans delayed.1, miss.trans delayed.2.1, ok, fun again up => ?_⟩
        have never := closed again up
        rw [delayed.2.2] at never
        cases never
    · cases done
      exact ⟨rfl, rfl, by simp, fun _ up => up⟩

theorem openBlockingLink {rs rs' : RteSiteRole} {answers : List RteStatus} {status : RteStatus}
    (done : openLinkBlocking rs answers = some (rs', status)) : rs'.cfg = rs.cfg ∧ rs'.sendMiss = rs.sendMiss ∧
      (status = .ok → rs'.link = true) ∧ (status ≠ .ok → rs'.link = true → rs.link = true) := by
  unfold openLinkBlocking at done
  split at done
  · obtain ⟨answer, _, equal⟩ := Option.map_eq_some_iff.mp done
    cases equal
    exact ⟨rfl, rfl, fun ok => decide_eq_true ok, fun failed up => absurd (of_decide_eq_true up) failed⟩
  · exact connectRetryLink done

theorem callCfg (rs : RteSiteRole) (call : SiteRoleCall) : (siteRoleCall rs call).cfg = rs.cfg := by
  by_cases cycled : ∃ cycle own io, call = .execute cycle own io
  · obtain ⟨cycle, own, io, rfl⟩ := cycled
    obtain ⟨s', step, last⟩ := executeDecided rs cycle own io
    have before : s'.cfg = rs.cfg := (decidedUntouched step).cfg.trans (beforeListened rs cycle own io).cfg
    rcases last with ⟨_, equal⟩ | ⟨_, _, equal⟩ <;> simp only [siteRoleCall, equal] <;> exact before
  · refine asideRule (P := fun s => s.cfg = rs.cfg) ⟨?_, fun _ _ => id, fun _ _ => id, fun _ _ => id, fun _ => id,
      fun _ _ => id, fun _ => id, fun _ => id⟩ (fun cycle own io same => cycled ⟨cycle, own, io, same⟩) rfl
    rintro s _ ⟨_, rfl⟩ same
    exact same

theorem startCfg {rs rs' : RteSiteRole} {io : StartIo} {status : RteStatus}
    (started : siteRoleStart rs io = some (rs', status)) : rs'.cfg = rs.cfg := by
  obtain ⟨_, _, _, _, ⟨_, equal⟩, _⟩ := startSame started
  rw [equal]
  rfl

theorem initFrame {cfg : SiteRoleConfig} {rs : RteSiteRole} (init : siteRoleInit cfg = .ok rs) :
    rs.cfg.frameSize = cfg.frameSize ∧ rs.cfg.sendMissThreshold = cfg.sendMissThreshold ∧
      frameOverhead < rs.cfg.frameSize ∧ rs.sendMiss = 0 ∧ rs.link = false := by
  obtain ⟨rfl, room⟩ := initRoom init
  exact ⟨rfl, rfl, room, rfl, rfl⟩

end PlatformRte.SiteRole
