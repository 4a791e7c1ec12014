import PlatformRte.SiteRole.Service
import PlatformRte.Lib.Machine
import PlatformRte.Lib.History

/-! The age of the snapshot a promotion hands to the application. It is aged in the
cycles that exchange frames, and a promotion may also come over a closed link. -/
namespace PlatformRte.SiteRole.Snapshot
open Machine History RteSiteRole

def lastSnapshot : List RoleEvent → Option UInt32
  | [] => none
  | .decoded cycle _ true :: _ => some cycle
  | _ :: earlier => lastSnapshot earlier

def RecentAt (cycle : UInt32) (log : List RoleEvent) : Prop :=
  ∃ received, lastSnapshot log = some received ∧
    cycle.toNat ≤ received.toNat + standbyDataTimeoutCycles.toNat

instance (cycle : UInt32) (log : List RoleEvent) : Decidable (RecentAt cycle log) :=
  decidable_of_iff ((lastSnapshot log).any
    (fun received => decide (cycle.toNat ≤ received.toNat + standbyDataTimeoutCycles.toNat)) = true)
    (by simp [RecentAt, Option.any_eq_true])

def PresentedRecent : RoleEvent → List RoleEvent → Prop
  | .changed cycle change, earlier =>
      change.kind = .promoted → change.snapshotValid = true → RecentAt cycle earlier
  | _, _ => True

instance : ∀ entry earlier, Decidable (PresentedRecent entry earlier)
  | .changed cycle change, earlier => inferInstanceAs (Decidable
      (change.kind = .promoted → change.snapshotValid = true → RecentAt cycle earlier))
  | .decoded .., _ => isTrue True.intro
  | .confirmed _, _ => isTrue True.intro

def SnapshotsRecent (rs : RteSiteRole) : Prop := Each PresentedRecent rs.roleLog

/- No promotion over a link that stayed closed while an older snapshot was held. -/
def NoStaleTakeover (rs : RteSiteRole) : SiteRoleCall → Prop
  | .execute cycle own io =>
      linkUp rs io = false → (decision (opened rs cycle own io.siblingFrame false) own).action = .promote →
        rs.peerSnapshotValid = true → RecentAt cycle rs.roleLog
  | _ => True

structure Stamped (rs : RteSiteRole) : Prop where
  enabled : rs.cfg.standbySync = true
  held : rs.peerSnapshotValid = true → ∃ received, lastSnapshot rs.roleLog = some received ∧
    (rs.standbyRxCycle = received ∨ rs.standbyRxCycle = 0)

structure Aside (rs rs' : RteSiteRole) : Prop where
  stamped : Stamped rs'
  kept : SnapshotsRecent rs' ↔ SnapshotsRecent rs

theorem asideDecode {rs s : RteSiteRole} (aside : Aside rs s) : Aside rs (decodeFrame s) := by
  obtain ⟨⟨enabled, held⟩, kept⟩ := aside
  refine ⟨⟨enabled, ?_⟩, (and_iff_right True.intro).trans kept⟩
  unfold decodeFrame
  dsimp only
  cases frameValid s.cfg.frameSize s.rxBuf
  · simpa [lastSnapshot] using held
  · exact fun _ => ⟨s.cycle, rfl, Or.inl rfl⟩

theorem asideRules (rs : RteSiteRole) : AsideRule (Aside rs) where
  same _ _ same aside := by
    obtain ⟨_, rfl⟩ := same
    exact ⟨⟨aside.stamped.enabled, aside.stamped.held⟩, aside.kept⟩
  ticked _ _ aside := ⟨⟨aside.stamped.enabled, aside.stamped.held⟩, aside.kept⟩
  taken _ _ aside := ⟨⟨aside.stamped.enabled, aside.stamped.held⟩, aside.kept⟩
  received _ _ aside := ⟨⟨aside.stamped.enabled, aside.stamped.held⟩, aside.kept⟩
  decoded _ := asideDecode
  confirmed _ _ aside :=
    ⟨⟨aside.stamped.enabled, aside.stamped.held⟩, (and_iff_right True.intro).trans aside.kept⟩
  lost _ aside := ⟨⟨aside.stamped.enabled, aside.stamped.held⟩, aside.kept⟩
  closed _ aside := ⟨⟨aside.stamped.enabled, aside.stamped.held⟩, aside.kept⟩

theorem notStaleRecent {s : RteSiteRole} (stamped : Stamped s) (standby : s.online = false)
    (held : (staleDropped s).peerSnapshotValid = true) : RecentAt s.cycle s.roleLog := by
  simp only [staleDropped, Bool.and_eq_true, Bool.not_eq_true'] at held
  obtain ⟨valid, fresh⟩ := held
  obtain ⟨received, last, stamp⟩ := stamped.held valid
  simp only [standbyDataStale, stamped.enabled, standby, valid, Bool.not_false, Bool.and_true, if_true,
    Bool.or_eq_false_iff, decide_eq_false_iff_not, UInt32.not_lt] at fresh
  obtain ⟨ordered, near⟩ := fresh
  have gap := UInt32.le_iff_toNat_le.mp near
  rw [UInt32.toNat_sub_of_le _ _ ordered] at gap
  refine ⟨received, last, ?_⟩
  rcases stamp with same | dropped
  · rw [same] at gap
    omega
  · rw [dropped, UInt32.toNat_zero] at gap
    omega

theorem beforeAside {rs : RteSiteRole} (stamped : Stamped rs) (cycle : UInt32) (own : SiteRoleLocal)
    (io : ExecuteIo) : Aside rs (beforeDecision rs cycle own io) ∧
      (linkUp rs io = true → (beforeDecision rs cycle own io).online = false →
        (beforeDecision rs cycle own io).peerSnapshotValid = true →
          RecentAt (beforeDecision rs cycle own io).cycle (beforeDecision rs cycle own io).roleLog) := by
  have begun (up : Bool) : Aside rs (opened rs cycle own io.siblingFrame up) :=
    ⟨⟨stamped.enabled, stamped.held⟩, Iff.rfl⟩
  unfold beforeDecision
  cases up : linkUp rs io
  · exact ⟨begun false, fun open_ => by cases open_⟩
  · have received : Aside rs (receiveFrame (opened rs cycle own io.siblingFrame true) io.receive).1 :=
      receiveRule (P := Aside rs) (asideRules rs).received (asideRules rs).decoded io.receive (begun true)
    have recent := notStaleRecent received.stamped
    simp only [if_true]
    refine ⟨⟨⟨received.stamped.enabled, fun valid => ?_⟩, received.kept⟩, fun _ standby valid => recent standby valid⟩
    rw [staleDropped, Bool.and_eq_true] at valid
    exact received.stamped.held valid.1

theorem reportedStamped {s s' : RteSiteRole} {own : SiteRoleLocal} (stamped : Stamped s) (step : Decided s own s') :
    Stamped s' := by
  have reported (kind : ChangeKind) (reason : SiteRoleReason) (apply : Bool) (r : RteSiteRole)
      (same : r.cfg = s.cfg ∧ r.peerSnapshotValid = s.peerSnapshotValid ∧ r.roleLog = s.roleLog ∧
        r.standbyRxCycle = s.standbyRxCycle) : Stamped (reportChange r kind reason apply) := by
    obtain ⟨cfg, valid, log, stamp⟩ := same
    refine ⟨by rw [reportChange, cfg]; exact stamped.enabled, fun held => ?_⟩
    obtain ⟨received, last, is⟩ := stamped.held (valid ▸ held)
    refine ⟨received, by rw [← last, ← log]; rfl, ?_⟩
    simp only [reportChange, stamp]
    split
    · exact Or.inr rfl
    · exact is
  cases step with
  | promoted _ same =>
    obtain ⟨_, rfl⟩ := same
    obtain ⟨enabled, held⟩ := reported .promoted (decision s own).reason true
      { counted s own with online := true, peerUnresponsive := false, takeoverConfirmed := false } ⟨rfl, rfl, rfl, rfl⟩
    exact ⟨enabled, held⟩
  | demoted _ same =>
    obtain ⟨_, rfl⟩ := same
    obtain ⟨enabled, held⟩ := reported .demoted (decision s own).reason false
      { counted s own with online := false, lostPeerWhileOnline := false } ⟨rfl, rfl, rfl, rfl⟩
    exact ⟨enabled, held⟩
  | renegotiated _ same =>
    obtain ⟨_, rfl⟩ := same
    obtain ⟨enabled, held⟩ := reported .renegotiated (decision s own).reason s.cfg.isWest
      { counted s own with online := s.cfg.isWest } ⟨rfl, rfl, rfl, rfl⟩
    exact ⟨enabled, held⟩
  | kept _ _ _ same =>
    obtain ⟨_, rfl⟩ := same
    exact ⟨stamped.enabled, stamped.held⟩

theorem decidedPresents {s s' : RteSiteRole} {own : SiteRoleLocal} (step : Decided s own s') :
    SnapshotsRecent s' ↔ SnapshotsRecent s ∧ ((decision s own).action = .promote →
      s.peerSnapshotValid = true → RecentAt s.cycle s.roleLog) := by
  cases step with
  | promoted action same =>
    obtain ⟨_, rfl⟩ := same
    change (ChangeKind.promoted = .promoted → s.peerSnapshotValid = true → RecentAt s.cycle s.roleLog) ∧
      SnapshotsRecent s ↔ _
    simp only [action, true_implies]
    exact and_comm
  | demoted action same =>
    obtain ⟨_, rfl⟩ := same
    change (ChangeKind.demoted = .promoted → s.peerSnapshotValid = true → RecentAt s.cycle s.roleLog) ∧
      SnapshotsRecent s ↔ _
    simp [action]
  | renegotiated action same =>
    obtain ⟨_, rfl⟩ := same
    change (ChangeKind.renegotiated = .promoted → s.peerSnapshotValid = true → RecentAt s.cycle s.roleLog) ∧
      SnapshotsRecent s ↔ _
    simp [action]
  | kept promote _ _ same =>
    obtain ⟨_, rfl⟩ := same
    exact (and_iff_left fun action => absurd action promote).symm

theorem callExact {rs : RteSiteRole} (call : SiteRoleCall) (stamped : Stamped rs) :
    Stamped (siteRoleCall rs call) ∧
      (SnapshotsRecent (siteRoleCall rs call) ↔ SnapshotsRecent rs ∧ NoStaleTakeover rs call) := by
  by_cases executes : ∃ cycle own io, call = .execute cycle own io
  · obtain ⟨cycle, own, io, rfl⟩ := executes
    obtain ⟨s', step, last⟩ := executeDecided rs cycle own io
    obtain ⟨aside, recent⟩ := beforeAside stamped cycle own io
    have settled := reportedStamped aside.stamped step
    have presents := decidedPresents step
    rw [aside.kept] at presents
    have exact_ : SnapshotsRecent s' ↔ SnapshotsRecent rs ∧ NoStaleTakeover rs (.execute cycle own io) := by
      rw [presents]
      apply and_congr_right
      intro _
      simp only [NoStaleTakeover]
      cases up : linkUp rs io
      · simp [beforeDecision, up]
        rfl
      · simp only [Bool.true_eq_false, false_implies, iff_true]
        exact fun action valid => recent up (promoteStandby action).1 valid
    rcases last with ⟨_, equal⟩ | ⟨_, _, equal⟩ <;> simp only [siteRoleCall, equal] <;>
      exact ⟨⟨settled.enabled, settled.held⟩, exact_⟩
  · have aside : Aside rs (siteRoleCall rs call) :=
      asideRule (asideRules rs) (fun cycle own io equal => executes ⟨cycle, own, io, equal⟩) ⟨stamped, Iff.rfl⟩
    have free : NoStaleTakeover rs call := by
      cases call with
      | execute cycle own io => exact absurd ⟨cycle, own, io, rfl⟩ executes
      | _ => exact True.intro
    exact ⟨aside.stamped, aside.kept.trans (and_iff_left free).symm⟩

/- Over whole runs: no snapshot is presented too late exactly when no promotion
comes over a closed link with an old snapshot held. -/
theorem snapshotsRecentIff (rs : RteSiteRole) (setUp : SetUp rs) (enabled : rs.cfg.standbySync = true)
    (calls : List SiteRoleCall) :
    SnapshotsRecent (run siteRoleCall rs calls) ↔ Always siteRoleCall NoStaleTakeover rs calls := by
  have fresh : rs.roleLog = [] ∧ rs.peerSnapshotValid = false := by
    obtain ⟨_, _, _, _, _, _, ⟨_, rfl⟩, _⟩ := setUpSame setUp
    exact ⟨rfl, rfl⟩
  have stamped : Stamped rs := ⟨enabled, fun held => by rw [fresh.2] at held; cases held⟩
  have recent : SnapshotsRecent rs := by rw [SnapshotsRecent, fresh.1]; exact True.intro
  exact runIff stamped recent (fun m call inv => (callExact call inv).1) (fun m call inv => (callExact call inv).2)

def lateTakeover : List SiteRoleCall :=
  [.execute 1 healthy (hearing (encodeFrame 8 false false 1 true [42])), .execute 2 healthy brokenLink,
    .execute 3 healthy noLink, .onTakeoverConfirm 50, .execute 51 healthy noLink]

theorem staleSnapshotPresented :
    ¬SnapshotsRecent (run siteRoleCall (initialState (smallSite true)) lateTakeover) := by
  unfold SnapshotsRecent
  decide

def soonTakeover : List SiteRoleCall :=
  [.execute 1 healthy (hearing (encodeFrame 8 false false 1 true [42])), .execute 2 healthy brokenLink,
    .onTakeoverConfirm 2, .execute 3 healthy noLink]

theorem recentSnapshotPresented :
    (SnapshotsRecent (run siteRoleCall (initialState (smallSite true)) soonTakeover) ↔
      Always siteRoleCall NoStaleTakeover (initialState (smallSite true)) soonTakeover) ∧
    ∃ change, change.kind = .promoted ∧ change.snapshotValid = true ∧ change.snapshotCycle = 1 ∧
      (run siteRoleCall (initialState (smallSite true)) soonTakeover).roleLog.head? = some (.changed 3 change) := by
  refine ⟨snapshotsRecentIff _ (smallSiteReady true) rfl _, ?_⟩
  exact ⟨_, by decide, by decide, by decide, rfl⟩

end PlatformRte.SiteRole.Snapshot
