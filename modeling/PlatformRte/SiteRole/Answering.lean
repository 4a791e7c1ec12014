import PlatformRte.SiteRole.DecisionPoint
import PlatformRte.Lib.Machine

/-! Whether a counterpart that is taken to be answering was heard: its frames since the
start or the last renumbering, against the stamp of the newest one. -/
namespace PlatformRte.SiteRole.Answering
open Machine RteSiteRole

structure SiteRoleStatus where
  online : Bool
  linkUp : Bool
  peerAnswering : Bool
  peerOnlineNow : Bool
  peerUnresponsive : Bool
  standbyWarm : Bool
  standbyHealthy : Bool
  lastReason : SiteRoleReason
  deriving DecidableEq, Repr

def siteRoleGetStatus (rs : RteSiteRole) : SiteRoleStatus where
  online := rs.online
  linkUp := rs.link
  peerAnswering := decide (rs.peerLastRxCycle ≤ rs.cycle) && decide (rs.cycle - rs.peerLastRxCycle ≤ 2)
  peerOnlineNow := rs.peerOnlineNow
  peerUnresponsive := rs.peerUnresponsive
  standbyWarm := rs.standbyWarm
  standbyHealthy := rs.standbyHealthy
  lastReason := rs.lastReason

def renumbers (change : SiteRoleChange) : Bool := change.applyState && change.snapshotValid

def heardSince : List RoleEvent → List UInt32
  | [] => []
  | .decoded cycle _ _ :: earlier => cycle :: heardSince earlier
  | .confirmed _ :: earlier => heardSince earlier
  | .changed _ change :: earlier => if renumbers change then [] else heardSince earlier

def HeardBy (cycle : UInt32) (log : List RoleEvent) : Prop :=
  ∃ heard ∈ heardSince log, heard ≤ cycle ∧ cycle.toNat ≤ heard.toNat + 2

def StatusTrue (rs : RteSiteRole) : Prop :=
  (siteRoleGetStatus rs).peerAnswering = true → HeardBy rs.cycle rs.roleLog

def DecisionTrue (rs : RteSiteRole) (cycle : UInt32) (own : SiteRoleLocal) (io : ExecuteIo) : Prop :=
  let input := decisionInput rs cycle own io
  let log := (decisionState rs cycle own io).roleLog
  (peerAnswering input = true → HeardBy cycle log) ∧
    (appliedRule input = .dualOnline ∨ appliedRule input = .bothStandby → HeardBy cycle log)

/- A stamp of 0 stands for a frame of cycle 0 and for no frame at all. -/
def Stamped (rs : RteSiteRole) : Prop := rs.peerLastRxCycle = (heardSince rs.roleLog).headD 0

theorem stampedSame {rs rs' : RteSiteRole} (same : Same rs rs') (stamped : Stamped rs) : Stamped rs' := by
  obtain ⟨_, rfl⟩ := same
  exact stamped

theorem asideStamped : AsideRule Stamped where
  same _ _ := stampedSame
  ticked _ _ stamped := stamped
  taken _ _ stamped := stamped
  received _ _ stamped := stamped
  decoded _ _ := rfl
  confirmed _ _ stamped := stamped
  lost _ stamped := stamped
  closed _ stamped := stamped

theorem beforeStamped {rs : RteSiteRole} (stamped : Stamped rs) (cycle : UInt32) (own : SiteRoleLocal)
    (io : ExecuteIo) : Stamped (beforeDecision rs cycle own io) :=
  beforeRule asideStamped.received asideStamped.decoded (fun _ stamped => stamped) fun _ => stamped

theorem reportStamped {rs : RteSiteRole} (stamped : Stamped rs) (kind : ChangeKind) (reason : SiteRoleReason)
    (applyState : Bool) : Stamped (reportChange rs kind reason applyState) := by
  cases adopted : applyState && rs.peerSnapshotValid <;>
    simp only [Stamped, reportChange, heardSince, renumbers, adopted, if_true, if_false, Bool.false_eq_true]
  · exact stamped
  · rfl

theorem decidedStamped {rs s' : RteSiteRole} {own : SiteRoleLocal} (stamped : Stamped rs) (step : Decided rs own s') :
    Stamped s' := by
  cases step with
  | promoted _ same =>
    refine stampedSame same (reportStamped ?_ .promoted _ true)
    exact stamped
  | demoted _ same =>
    refine stampedSame same (reportStamped ?_ .demoted _ false)
    exact stamped
  | renegotiated _ same =>
    refine stampedSame same (reportStamped ?_ .renegotiated _ _)
    exact stamped
  | kept _ _ _ same => exact stampedSame same stamped

theorem callStamped {rs : RteSiteRole} (call : SiteRoleCall) (stamped : Stamped rs) :
    Stamped (siteRoleCall rs call) := by
  by_cases executes : ∃ cycle own io, call = .execute cycle own io
  · obtain ⟨cycle, own, io, rfl⟩ := executes
    obtain ⟨s', step, last⟩ := executeDecided rs cycle own io
    have settled := decidedStamped (beforeStamped stamped cycle own io) step
    rcases last with ⟨_, equal⟩ | ⟨_, _, equal⟩ <;> simp only [siteRoleCall, equal] <;> exact settled
  · exact asideRule asideStamped (fun cycle own io equal => executes ⟨cycle, own, io, equal⟩) stamped

theorem runStamped {rs : RteSiteRole} (setUp : SetUp rs) (calls : List SiteRoleCall) :
    Stamped (run siteRoleCall rs calls) := by
  obtain ⟨_, _, _, _, _, _, ⟨_, rfl⟩, _⟩ := setUpSame setUp
  exact invariantRun rfl (fun m call inv (_ : True) => callStamped call inv) fun _ _ _ _ => trivial

theorem answeringIff {cycle stamp : UInt32} {log : List RoleEvent} (stamped : stamp = (heardSince log).headD 0) :
    ((decide (stamp ≤ cycle) && decide (cycle - stamp ≤ 2)) = true → HeardBy cycle log) ↔
      heardSince log ≠ [] ∨ 2 < cycle := by
  simp only [Bool.and_eq_true, decide_eq_true_eq]
  cases heard : heardSince log with
  | nil =>
    rw [heard] at stamped
    have nobody : ¬HeardBy cycle log := by
      rintro ⟨_, inside, _⟩
      rw [heard] at inside
      cases inside
    simp only [nobody, imp_false, stamped, List.headD_nil, UInt32.sub_zero, ne_eq, not_true_eq_false, false_or,
      not_and, UInt32.not_le]
    exact ⟨fun late => late UInt32.zero_le, fun late _ => late⟩
  | cons newest _ =>
    rw [heard] at stamped
    simp only [ne_eq, reduceCtorEq, not_false_eq_true, true_or, iff_true]
    rintro ⟨ordered, near⟩
    rw [stamped] at ordered near
    exact ⟨newest, by rw [heard]; exact List.mem_cons_self, ordered, subToNat ordered near⟩

theorem decisionTrueIff {rs : RteSiteRole} (stamped : Stamped rs) (cycle : UInt32) (own : SiteRoleLocal)
    (io : ExecuteIo) : DecisionTrue rs cycle own io ↔
      heardSince (decisionState rs cycle own io).roleLog ≠ [] ∨ 2 < cycle := by
  have settled : Stamped (decisionState rs cycle own io) :=
    stampedSame (decisionSame rs cycle own io) (beforeStamped stamped cycle own io)
  have now : (decisionInput rs cycle own io).cycle = cycle := by
    rw [decisionInputIs]
    exact (beforeListened rs cycle own io).cycle
  have exact_ : (peerAnswering (decisionInput rs cycle own io) = true →
      HeardBy cycle (decisionState rs cycle own io).roleLog) ↔
        heardSince (decisionState rs cycle own io).roleLog ≠ [] ∨ 2 < cycle := by
    rw [peerAnswering, now]
    exact answeringIff settled
  rw [← exact_]
  refine ⟨fun both => both.1, fun answering => ⟨answering, ?_⟩⟩
  rintro (applied | applied)
  · have rule := appliedHolds applied
    simp only [ruleCondition, dualOnlineRule, Bool.and_eq_true] at rule
    exact answering rule.2
  · have rule := appliedHolds applied
    exact answering (bothStandbyFacts rule).2.2.2.1

/- At every point of every run: the status and the decision are right about an answering
counterpart exactly when one was heard, or the cycle number is past 2. -/
theorem answeringHeardIff (rs : RteSiteRole) (setUp : SetUp rs) (calls : List SiteRoleCall) :
    (StatusTrue (run siteRoleCall rs calls) ↔
      heardSince (run siteRoleCall rs calls).roleLog ≠ [] ∨ 2 < (run siteRoleCall rs calls).cycle) ∧
    ∀ cycle own io, DecisionTrue (run siteRoleCall rs calls) cycle own io ↔
      heardSince (decisionState (run siteRoleCall rs calls) cycle own io).roleLog ≠ [] ∨ 2 < cycle := by
  have stamped := runStamped setUp calls
  exact ⟨answeringIff stamped, fun cycle own io => decisionTrueIff stamped cycle own io⟩

def joining : SiteRoleLocal := { healthy with siblingOnline := true }

/- In the first cycle a silent counterpart is taken for one that answers and is STANDBY. -/
theorem unheardAnswers : ¬∀ rs, SetUp rs → ∀ calls cycle own io,
    StatusTrue (run siteRoleCall rs calls) ∧ DecisionTrue (run siteRoleCall rs calls) cycle own io := by
  intro claimed
  have both := (claimed _ (smallSiteReady false) [] 1 joining silentCycle).2
  have applied : appliedRule (decisionInput (initialState (smallSite false)) 1 joining silentCycle) = .bothStandby := by
    decide
  obtain ⟨_, inside, _⟩ := both.2 (Or.inr applied)
  have nobody : heardSince (decisionState (initialState (smallSite false)) 1 joining silentCycle).roleLog = [] := by
    decide
  rw [run, List.foldl_nil, nobody] at inside
  cases inside

def heardInFive : List SiteRoleCall := [.execute 5 healthy (hearing (encodeFrame 8 false false 0 false []))]

theorem heardInFiveAnswers :
    (StatusTrue (run siteRoleCall (initialState (smallSite true)) heardInFive) ↔
      heardSince (run siteRoleCall (initialState (smallSite true)) heardInFive).roleLog ≠ [] ∨
        2 < (run siteRoleCall (initialState (smallSite true)) heardInFive).cycle) ∧
    ∀ cycle own io, DecisionTrue (run siteRoleCall (initialState (smallSite true)) heardInFive) cycle own io ↔
      heardSince (decisionState (run siteRoleCall (initialState (smallSite true)) heardInFive) cycle own io).roleLog ≠
        [] ∨ 2 < cycle :=
  answeringHeardIff _ (smallSiteReady true) heardInFive

end PlatformRte.SiteRole.Answering
