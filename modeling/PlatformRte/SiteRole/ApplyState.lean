import PlatformRte.SiteRole.Service
import PlatformRte.Lib.Machine
import PlatformRte.Lib.History

/-! Role changes that tell the application to adopt the counterpart's snapshot, and
whether the channel was serving with a live state of its own at that moment. -/
namespace PlatformRte.SiteRole.ApplyState
open Machine History RteSiteRole

def roleAfter (start : Bool) : List RoleEvent → Bool
  | [] => start
  | .changed _ change :: _ => change.online
  | _ :: earlier => roleAfter start earlier

def FromStandby (start : Bool) : RoleEvent → List RoleEvent → Prop
  | .changed _ change, earlier => change.applyState = true → roleAfter start earlier = false
  | _, _ => True

instance : ∀ start entry earlier, Decidable (FromStandby start entry earlier)
  | start, .changed _ change, earlier =>
      inferInstanceAs (Decidable (change.applyState = true → roleAfter start earlier = false))
  | _, .decoded .., _ => isTrue True.intro
  | _, .confirmed _, _ => isTrue True.intro

def LiveStateKept (start : Bool) (rs : RteSiteRole) : Prop := Each (FromStandby start) rs.roleLog

def reportedFaulted (rs : RteSiteRole) (io : ExecuteIo) : Bool :=
  if linkUp rs io then heardFaulted rs io.receive else rs.peerFaulted

/- The both-FAULTED rule does not meet a WEST channel that is ONLINE already. -/
def NotRenegotiatedOnline (rs : RteSiteRole) : SiteRoleCall → Prop
  | .execute _ own io =>
      ¬(rs.cfg.isWest = true ∧ rs.online = true ∧ own.faulted = true ∧ reportedFaulted rs io = true)
  | _ => True

def RoleTold (start : Bool) (rs : RteSiteRole) : Prop := rs.online = roleAfter start rs.roleLog

structure Untold (start : Bool) (rs rs' : RteSiteRole) : Prop where
  online : rs'.online = rs.online
  told : roleAfter start rs'.roleLog = roleAfter start rs.roleLog
  kept : LiveStateKept start rs' ↔ LiveStateKept start rs

theorem untoldSame {start : Bool} {rs s s' : RteSiteRole} (untold : Untold start rs s) (same : Same s s') :
    Untold start rs s' := by
  obtain ⟨_, rfl⟩ := same
  exact ⟨untold.online, untold.told, untold.kept⟩

theorem untoldRefl (start : Bool) (rs : RteSiteRole) : Untold start rs rs := ⟨rfl, rfl, Iff.rfl⟩

theorem decodeUntold {start : Bool} {rs s : RteSiteRole} (untold : Untold start rs s) :
    Untold start rs (decodeFrame s) :=
  ⟨untold.online, untold.told, by
    rw [← untold.kept]
    exact and_iff_right True.intro⟩

theorem bufferUntold {start : Bool} {rs s : RteSiteRole} (buffer : Bytes) (untold : Untold start rs s) :
    Untold start rs { s with rxBuf := buffer } := ⟨untold.online, untold.told, untold.kept⟩

theorem beforeUntold (start : Bool) (rs : RteSiteRole) (cycle : UInt32) (own : SiteRoleLocal) (io : ExecuteIo) :
    Untold start rs (beforeDecision rs cycle own io) := by
  have begun (up : Bool) : Untold start rs (opened rs cycle own io.siblingFrame up) := ⟨rfl, rfl, Iff.rfl⟩
  have dropped (s : RteSiteRole) (untold : Untold start rs s) : Untold start rs (staleDropped s) :=
    ⟨untold.online, untold.told, untold.kept⟩
  exact beforeRule (P := Untold start rs) (fun _ => bufferUntold) (fun _ => decodeUntold) dropped begun

theorem beforeFaulted (rs : RteSiteRole) (cycle : UInt32) (own : SiteRoleLocal) (io : ExecuteIo) :
    (beforeDecision rs cycle own io).peerFaulted = reportedFaulted rs io := by
  unfold beforeDecision reportedFaulted
  cases linkUp rs io
  · rfl
  · exact receiveFaulted (opened rs cycle own io.siblingFrame true) io.receive

theorem decidedExact {start : Bool} {rs s s' : RteSiteRole} {own : SiteRoleLocal} (told : RoleTold start rs)
    (untold : Untold start rs s) (step : Decided s own s') :
    RoleTold start s' ∧ (LiveStateKept start s' ↔ LiveStateKept start rs ∧
      ¬(s.cfg.isWest = true ∧ rs.online = true ∧ s.localFaulted = true ∧ s.peerFaulted = true)) := by
  have standing : roleAfter start s.roleLog = rs.online := untold.told.trans told.symm
  have deadlock : (decision s own).action = .renegotiate ↔ s.localFaulted = true ∧ s.peerFaulted = true := by
    rw [decision, renegotiateIff]
    simp [bothFaultedRule, buildDecisionInput]
  cases step with
  | promoted action same =>
    obtain ⟨kept, rfl⟩ := same
    have standby : rs.online = false := by rw [← untold.online]; exact (promoteStandby action).1
    refine ⟨rfl, ?_⟩
    have before : roleAfter start s.roleLog = false := standing.trans standby
    change FromStandby _ _ _ ∧ LiveStateKept start s ↔ _
    rw [untold.kept, standby]
    simp only [Bool.false_eq_true, false_and, and_false, not_false_eq_true, and_true]
    exact and_iff_right fun _ => before
  | demoted action same =>
    obtain ⟨kept, rfl⟩ := same
    refine ⟨rfl, ?_⟩
    change FromStandby _ _ _ ∧ LiveStateKept start s ↔ _
    have quiet : ¬(s.localFaulted = true ∧ s.peerFaulted = true) := fun both => by
      have renegotiates := deadlock.mpr both
      rw [action] at renegotiates
      cases renegotiates
    rw [untold.kept]
    simp only [FromStandby, Bool.false_eq_true, false_implies, true_and]
    tauto
  | renegotiated action same =>
    obtain ⟨kept, rfl⟩ := same
    refine ⟨rfl, ?_⟩
    change FromStandby _ _ _ ∧ LiveStateKept start s ↔ _
    have both := deadlock.mp action
    rw [untold.kept]
    simp only [FromStandby]
    change (s.cfg.isWest = true → roleAfter start s.roleLog = false) ∧ _ ↔ _
    rw [standing, ← Bool.not_eq_true]
    tauto
  | kept _ _ renegotiate same =>
    obtain ⟨kept, rfl⟩ := same
    have quiet : ¬(s.localFaulted = true ∧ s.peerFaulted = true) := fun both => renegotiate (deadlock.mpr both)
    refine ⟨?_, ?_⟩
    · exact untold.online.trans standing.symm
    · change LiveStateKept start s ↔ _
      rw [untold.kept]
      tauto

theorem asideUntold (start : Bool) (rs : RteSiteRole) : AsideRule (Untold start rs) where
  same _ _ same untold := untoldSame untold same
  ticked _ _ untold := ⟨untold.online, untold.told, untold.kept⟩
  taken _ _ untold := ⟨untold.online, untold.told, untold.kept⟩
  received _ := bufferUntold
  decoded _ := decodeUntold
  confirmed _ _ untold := ⟨untold.online, untold.told, (and_iff_right True.intro).trans untold.kept⟩
  lost _ untold := ⟨untold.online, untold.told, untold.kept⟩
  closed _ untold := ⟨untold.online, untold.told, untold.kept⟩

theorem callExact {start : Bool} {rs : RteSiteRole} (call : SiteRoleCall) (told : RoleTold start rs) :
    RoleTold start (siteRoleCall rs call) ∧
      (LiveStateKept start (siteRoleCall rs call) ↔ LiveStateKept start rs ∧ NotRenegotiatedOnline rs call) := by
  by_cases executes : ∃ cycle own io, call = .execute cycle own io
  · obtain ⟨cycle, own, io, rfl⟩ := executes
    obtain ⟨s', step, last⟩ := executeDecided rs cycle own io
    have settled := decidedExact told (beforeUntold start rs cycle own io) step
    have listened := beforeListened rs cycle own io
    rw [listened.cfg, listened.localFaulted, beforeFaulted] at settled
    rcases last with ⟨_, equal⟩ | ⟨_, _, equal⟩ <;> simp only [siteRoleCall, equal] <;> exact settled
  · have untold : Untold start rs (siteRoleCall rs call) :=
      asideRule (asideUntold start rs) (fun cycle own io equal => executes ⟨cycle, own, io, equal⟩)
        (untoldRefl start rs)
    have free : NotRenegotiatedOnline rs call := by
      cases call with
      | execute cycle own io => exact absurd ⟨cycle, own, io, rfl⟩ executes
      | _ => exact True.intro
    exact ⟨untold.online.trans (told.trans untold.told.symm), untold.kept.trans (and_iff_left free).symm⟩

/- Over whole runs: apply_state stays away from a live channel exactly when the
both-FAULTED rule never meets a WEST channel that is ONLINE already. -/
theorem liveStateKeptIff (rs : RteSiteRole) (setUp : SetUp rs) (calls : List SiteRoleCall) :
    LiveStateKept rs.online (run siteRoleCall rs calls) ↔ Always siteRoleCall NotRenegotiatedOnline rs calls := by
  have fresh : rs.roleLog = [] := by
    obtain ⟨_, _, _, _, _, _, ⟨_, rfl⟩, _⟩ := setUpSame setUp
    rfl
  have told : RoleTold rs.online rs := by rw [RoleTold, fresh]; rfl
  have kept : LiveStateKept rs.online rs := by rw [LiveStateKept, fresh]; exact True.intro
  exact runIff told kept (fun m call inv => (callExact call inv).1) (fun m call inv => (callExact call inv).2)

def faultedNow : SiteRoleLocal := { healthy with faulted := true }

def faultedForTwoCycles : List SiteRoleCall :=
  [.execute 1 healthy (hearing (encodeFrame 8 false false 1 true [42])),
    .execute 2 faultedNow (hearing (encodeFrame 8 true false 0 false [])),
    .execute 3 faultedNow silentCycle]

theorem renegotiatedTwice :
    ¬LiveStateKept false (run siteRoleCall (initialState (smallSite true)) faultedForTwoCycles) := by
  unfold LiveStateKept
  decide

theorem oneFaultedCycleKept :
    LiveStateKept false (run siteRoleCall (initialState (smallSite true)) (faultedForTwoCycles.take 2)) ↔
      Always siteRoleCall NotRenegotiatedOnline (initialState (smallSite true)) (faultedForTwoCycles.take 2) :=
  liveStateKeptIff _ (smallSiteReady true) _

end PlatformRte.SiteRole.ApplyState
