import PlatformRte.SiteRole.Service
import PlatformRte.Lib.Machine

/-! Whether a STANDBY channel with a closed link still takes a dispatcher's word. The
mark that lets it is set by the tear-down of the link, and a cycle that cannot
re-open the link decides the role without a tear-down. -/
namespace PlatformRte.SiteRole.Takeover
open Machine RteSiteRole

def ConfirmationPromotes (rs : RteSiteRole) : Prop :=
  ∀ confirmCycle cycle own io, own.faulted = false → io.reopen.status ≠ .ok → confirmCycle ≤ cycle →
    cycle - confirmCycle ≤ takeoverConfirmValidCycles →
    pairReadyToPromote (buildDecisionInput (opened rs cycle own io.siblingFrame false) own) = true →
    (siteRoleExecute (recordTakeoverConfirmation rs confirmCycle) cycle own io).online = true

def TakeoverOpen (rs : RteSiteRole) : SiteRoleCall → Prop
  | .execute cycle own io =>
      let after := siteRoleExecute rs cycle own io
      after.link = false → after.online = false → after.localFaulted = false →
        after.peerUnresponsive = true ∧ ConfirmationPromotes after
  | _ => True

/- In a cycle whose link stays closed, a channel that is neither faulted nor marked
must not yield, and must be promoted if it is STANDBY. -/
def NotStranded (rs : RteSiteRole) : SiteRoleCall → Prop
  | .execute cycle own io =>
      linkUp rs io = false → own.faulted = false → rs.peerUnresponsive = false →
        if rs.online = true then (decision (opened rs cycle own io.siblingFrame false) own).action ≠ .demote
        else (decision (opened rs cycle own io.siblingFrame false) own).action = .promote
  | _ => True

theorem confirmationPromotes {rs : RteSiteRole} (closed : rs.link = false) (standby : rs.online = false)
    (marked : rs.peerUnresponsive = true) : ConfirmationPromotes rs := by
  intro confirmCycle cycle own io sound failed ordered fresh ready
  obtain ⟨s', step, last⟩ := executeDecided (recordTakeoverConfirmation rs confirmCycle) cycle own io
  have down : linkUp (recordTakeoverConfirmation rs confirmCycle) io = false := by
    simp [linkUp, recordTakeoverConfirmation, closed, failed]
  have promotes : (decision (opened (recordTakeoverConfirmation rs confirmCycle) cycle own io.siblingFrame false)
      own).action = .promote := by
    refine takeoverPromotes sound ?_ ready
    simp [takeoverRule, takeoverAllowed, buildDecisionInput, opened, pollSiblingSource, takeLocal,
      recordTakeoverConfirmation, standby, sound, marked, ordered, fresh]
  have online : s'.online = true := by
    rw [beforeClosed down] at step
    cases step with
    | promoted _ same => obtain ⟨_, rfl⟩ := same; rfl
    | demoted action _ => exact absurd (promotes.symm.trans action) (by simp)
    | renegotiated action _ => exact absurd (promotes.symm.trans action) (by simp)
    | kept other _ _ _ => exact absurd promotes other
  rcases last with ⟨_, equal⟩ | ⟨up, _⟩
  · rw [equal]
    exact online
  · rw [down] at up
    cases up

theorem openCycleMarks {rs : RteSiteRole} {cycle : UInt32} {own : SiteRoleLocal} {io : ExecuteIo}
    (up : linkUp rs io = true) (closed : (siteRoleExecute rs cycle own io).link = false)
    (standby : (siteRoleExecute rs cycle own io).online = false)
    (sound : (siteRoleExecute rs cycle own io).localFaulted = false) :
    (siteRoleExecute rs cycle own io).peerUnresponsive = true := by
  obtain ⟨s', step, last⟩ := executeDecided rs cycle own io
  have still : s'.link = true :=
    (decidedUntouched step).link.trans ((beforeListened rs cycle own io).link.trans up)
  rcases last with ⟨_, equal⟩ | ⟨_, _, equal⟩ <;> rw [equal] at closed standby sound ⊢
  · exact absurd (still.symm.trans closed) (by simp)
  · have idle : s'.online = false := standby
    have whole : s'.localFaulted = false := sound
    change ((!s'.online && !s'.localFaulted) || s'.peerUnresponsive) = true
    rw [idle, whole]
    rfl

theorem closedCycle {rs : RteSiteRole} {own : SiteRoleLocal} {io : ExecuteIo} (cycle : UInt32)
    (down : linkUp rs io = false) (sound : own.faulted = false) :
    ((siteRoleExecute rs cycle own io).online = true ↔
        if rs.online = true then (decision (opened rs cycle own io.siblingFrame false) own).action ≠ .demote
        else (decision (opened rs cycle own io.siblingFrame false) own).action = .promote) ∧
      ((siteRoleExecute rs cycle own io).online = false →
        (siteRoleExecute rs cycle own io).peerUnresponsive = rs.peerUnresponsive) ∧
      (siteRoleExecute rs cycle own io).link = false := by
  obtain ⟨s', step, ⟨_, equal⟩ | ⟨up, _⟩⟩ := executeDecided rs cycle own io
  · have link := (decidedUntouched step).link
    rw [beforeClosed down] at step link
    rw [equal]
    cases step with
    | promoted action same =>
      obtain ⟨_, rfl⟩ := same
      have standby : rs.online = false := (promoteStandby action).1
      rw [standby]
      refine ⟨iff_of_true rfl action, ?_, link⟩
      intro demoted
      cases (show true = false from demoted)
    | demoted action same =>
      obtain ⟨_, rfl⟩ := same
      refine ⟨iff_of_false Bool.false_ne_true ?_, fun _ => rfl, link⟩
      split <;> simp [action]
    | renegotiated action _ =>
      rw [decision, renegotiateIff] at action
      simp [bothFaultedRule, buildDecisionInput, opened, pollSiblingSource, takeLocal, sound] at action
    | kept promote demote _ same =>
      obtain ⟨_, rfl⟩ := same
      refine ⟨?_, fun _ => rfl, link⟩
      change rs.online = true ↔ _
      cases rs.online <;> simp [promote, demote]
  · rw [down] at up
    cases up

theorem takeoverOpenStep (rs : RteSiteRole) (call : SiteRoleCall) : TakeoverOpen rs call ↔ NotStranded rs call := by
  cases call with
  | execute cycle own io =>
    simp only [TakeoverOpen, NotStranded]
    rw [executeLocal]
    cases up : linkUp rs io
    · cases sound : own.faulted
      · obtain ⟨online, mark, closed⟩ := closedCycle cycle up sound
        rw [← online]
        constructor
        · intro opens _ _ unmarked
          by_contra standby
          rw [Bool.not_eq_true] at standby
          have marked := (opens closed standby rfl).1
          rw [mark standby, unmarked] at marked
          cases marked
        · intro kept _ standby _
          have marked : (siteRoleExecute rs cycle own io).peerUnresponsive = true := by
            rw [mark standby]
            by_contra unmarked
            rw [Bool.not_eq_true] at unmarked
            rw [kept rfl rfl unmarked] at standby
            cases standby
          exact ⟨marked, confirmationPromotes closed standby marked⟩
      · simp
    · simp only [Bool.true_eq_false, false_implies, iff_true]
      intro closed standby sound
      have marked := openCycleMarks up closed standby ((executeLocal rs cycle own io).trans sound)
      exact ⟨marked, confirmationPromotes closed standby marked⟩
  | _ => exact Iff.rfl

/- Over whole runs: the takeover stays open after every execute exactly when no cycle
with a closed link strands the channel. -/
theorem takeoverOpenIff (rs : RteSiteRole) (calls : List SiteRoleCall) :
    Always siteRoleCall TakeoverOpen rs calls ↔ Always siteRoleCall NotStranded rs calls :=
  alwaysCongr takeoverOpenStep

def unacknowledged (frame : Bytes) : ExecuteIo := { hearing frame with sendStatus := .timeout }

def yieldOverClosedLink : List SiteRoleCall :=
  [.execute 1 healthy { silentCycle with sendStatus := .timeout },
    .execute 2 healthy { silentCycle with sendStatus := .timeout },
    .execute 3 healthy (unacknowledged (encodeFrame 8 false false 3 true [42])),
    .execute 4 healthy noLink]

theorem strandedAfterYield :
    ∃ rs, siteRoleStart (initialState (smallSite true)) olderStart = some (rs, .ok) ∧
      ¬Always siteRoleCall TakeoverOpen rs yieldOverClosedLink ∧
      (run siteRoleCall rs (yieldOverClosedLink ++ [.onTakeoverConfirm 5,
        .execute 6 healthy noLink])).online = false := by
  refine ⟨_, rfl, fun always => ?_, by decide⟩
  have last := always (yieldOverClosedLink.take 3) _ [] rfl
  have marked := (last (by decide) (by decide) (by decide)).1
  exact absurd marked (by decide)

end PlatformRte.SiteRole.Takeover
