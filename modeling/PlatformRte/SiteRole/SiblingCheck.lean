import PlatformRte.SiteRole.DecisionPoint
import PlatformRte.Lib.History
import PlatformRte.Lib.Machine
import PlatformRte.Lib.Streak

/-! The check of the sibling over whole runs: it faults exactly on a disagreement that
persists, however long the run is and whatever becomes of the role in between. -/
namespace PlatformRte.SiteRole
open RteSiteRole History Streak PlatformRte.Dual

-- No frame is the NULL pointer.
def rteSiteRoleCheckSibling (rs : RteSiteRole) (ownSingleMode : Bool) (sibling : Option SiteRoleSibling) :
    RteSiteRole × SiblingVerdict :=
  match sibling with
  | none => (rs, .unknown)
  | some sibling => siteRoleCheckSibling rs ownSingleMode sibling

structure SiblingCheck where
  online : Bool
  ownSingleMode : Bool
  sibling : Option SiteRoleSibling
  verdict : SiblingVerdict
  deriving DecidableEq, Repr

namespace SiblingCheck

def known (check : SiblingCheck) : Bool := check.sibling.any fun frame => frame.known

def agrees (check : SiblingCheck) : Bool :=
  check.sibling.any fun frame => decide (frame.online = check.online ∧ frame.singleMode = check.ownSingleMode)

def mark (check : SiblingCheck) : Mark :=
  if !check.known then .passes else if check.agrees then .resets else .counts

end SiblingCheck

def disagreements (checks : List SiblingCheck) : Nat := streak SiblingCheck.mark checks

structure VerdictExact (check : SiblingCheck) (earlier : List SiblingCheck) : Prop where
  fault : check.verdict = .fault ↔
    check.known = true ∧ check.agrees = false ∧ siblingMismatchLimit.toNat ≤ disagreements (check :: earlier)
  pending : check.verdict = .pending ↔
    check.known = true ∧ check.agrees = false ∧ disagreements (check :: earlier) < siblingMismatchLimit.toNat
  agree : check.verdict = .agree ↔ check.known = true ∧ check.agrees = true
  unknown : check.verdict = .unknown ↔ check.known = false

def checkMade (rs : RteSiteRole) (ownSingleMode : Bool) (sibling : Option SiteRoleSibling) : SiblingCheck :=
  ⟨rs.online, ownSingleMode, sibling, (rteSiteRoleCheckSibling rs ownSingleMode sibling).2⟩

inductive SiblingEvent where
  | check (ownSingleMode : Bool) (sibling : Option SiteRoleSibling)
  | roleChanged (online : Bool)
  | called (call : SiteRoleCall)

def checkedState (rs : RteSiteRole) (cycle : UInt32) (own : SiteRoleLocal) (io : ExecuteIo) : RteSiteRole :=
  runSiteRoleDecision (decisionState rs cycle own io) own

def checksOf (rs : RteSiteRole) : SiteRoleCall → List SiblingCheck
  | .execute cycle own io =>
    let decided := checkedState rs cycle own io
    if decided.cfg.siblingSource then [checkMade decided own.singleMode (some decided.sibling)] else []
  | .checkSibling ownSingleMode sibling => [checkMade rs ownSingleMode (some sibling)]
  | _ => []

structure Watched where
  rs : RteSiteRole
  checks : List SiblingCheck

def watchStep (w : Watched) : SiblingEvent → Watched
  | .check ownSingleMode sibling =>
    ⟨(rteSiteRoleCheckSibling w.rs ownSingleMode sibling).1, checkMade w.rs ownSingleMode sibling :: w.checks⟩
  | .roleChanged online => ⟨{ w.rs with online := online }, w.checks⟩
  | .called call => ⟨siteRoleCall w.rs call, checksOf w.rs call ++ w.checks⟩

def Counts (rs : RteSiteRole) (checks : List SiblingCheck) : Prop :=
  follows 255 rs.siblingMismatch.toNat (disagreements checks)

section Check
variable {rs : RteSiteRole} {checks : List SiblingCheck}

theorem countsSame {rs' : RteSiteRole} (same : rs'.siblingMismatch = rs.siblingMismatch) (counts : Counts rs checks) :
    Counts rs' checks := by
  rw [Counts, same]
  exact counts

theorem mismatchBumped (mismatch : UInt8) :
    (if mismatch < 255 then mismatch + 1 else mismatch).toNat =
      if mismatch.toNat < 255 then mismatch.toNat + 1 else mismatch.toNat := by
  by_cases few : mismatch < 255
  · have below : mismatch.toNat < 255 := UInt8.lt_iff_toNat_lt.mp few
    rw [if_pos few, if_pos below, UInt8.toNat_add]
    exact Nat.mod_eq_of_lt (Nat.succ_lt_succ below)
  · have atCap : ¬mismatch.toNat < 255 := fun below => few (UInt8.lt_iff_toNat_lt.mpr below)
    rw [if_neg few, if_neg atCap]

def bumped (rs : RteSiteRole) : RteSiteRole :=
  { rs with siblingMismatch := if rs.siblingMismatch < 255 then rs.siblingMismatch + 1 else rs.siblingMismatch }

theorem checkCases (rs : RteSiteRole) (ownSingleMode : Bool) (sibling : Option SiteRoleSibling) :
    let check := checkMade rs ownSingleMode sibling
    let after := (rteSiteRoleCheckSibling rs ownSingleMode sibling).1
    (check.known = false ∧ after = rs ∧ check.verdict = .unknown) ∨
      (check.known = true ∧ check.agrees = true ∧ after = { rs with siblingMismatch := 0 } ∧ check.verdict = .agree) ∨
      (check.known = true ∧ check.agrees = false ∧ after = bumped rs ∧
        check.verdict = if (bumped rs).siblingMismatch < siblingMismatchLimit then .pending else .fault) := by
  cases sibling with
  | none => exact Or.inl ⟨rfl, rfl, rfl⟩
  | some frame =>
    dsimp only [checkMade, rteSiteRoleCheckSibling, SiblingCheck.known, SiblingCheck.agrees, Option.any]
    rw [siteRoleCheckSibling]
    cases known : frame.known with
    | false => exact Or.inl ⟨rfl, rfl, rfl⟩
    | true =>
      rw [if_neg (by decide)]
      by_cases agrees : frame.online = rs.online ∧ frame.singleMode = ownSingleMode
      · rw [if_pos agrees]
        exact Or.inr (Or.inl ⟨rfl, decide_eq_true agrees, rfl, rfl⟩)
      · rw [if_neg agrees]
        exact Or.inr (Or.inr ⟨rfl, decide_eq_false agrees, rfl, rfl⟩)

theorem limitReached (counts : follows 255 rs.siblingMismatch.toNat (disagreements checks)) :
    rs.siblingMismatch < siblingMismatchLimit ↔ disagreements checks < siblingMismatchLimit.toNat := by
  rw [UInt8.lt_iff_toNat_lt, ← Nat.not_le, ← Nat.not_le]
  exact not_congr (followsReaches counts (by decide))

theorem checkCounts (counts : Counts rs checks) (ownSingleMode : Bool) (sibling : Option SiteRoleSibling) :
    Counts (rteSiteRoleCheckSibling rs ownSingleMode sibling).1 (checkMade rs ownSingleMode sibling :: checks) ∧
      VerdictExact (checkMade rs ownSingleMode sibling) checks := by
  have cases_ := checkCases rs ownSingleMode sibling
  dsimp only at cases_
  generalize checkMade rs ownSingleMode sibling = check at cases_ ⊢
  generalize (rteSiteRoleCheckSibling rs ownSingleMode sibling).1 = after at cases_ ⊢
  rcases cases_ with ⟨known, rfl, verdict⟩ | ⟨known, agrees, rfl, verdict⟩ | ⟨known, agrees, rfl, verdict⟩
  · have mark : check.mark = .passes := by simp [SiblingCheck.mark, known]
    refine ⟨?_, by constructor <;> simp [known, verdict]⟩
    rw [Counts, disagreements, streakPasses mark]
    exact counts
  · have mark : check.mark = .resets := by simp [SiblingCheck.mark, known, agrees]
    refine ⟨?_, by constructor <;> simp [known, agrees, verdict]⟩
    rw [Counts, disagreements, streakResets mark]
    exact followsZero 255
  · have mark : check.mark = .counts := by simp [SiblingCheck.mark, known, agrees]
    have now : Counts (bumped rs) (check :: checks) := by
      rw [Counts, disagreements, streakCounts mark, bumped, mismatchBumped]
      exact followsBump counts
    refine ⟨now, ?_⟩
    rw [if_congr (limitReached now) rfl rfl] at verdict
    by_cases few : disagreements (check :: checks) < siblingMismatchLimit.toNat
    · rw [if_pos few] at verdict
      constructor <;> simp [known, agrees, verdict, few]
    · rw [if_neg few] at verdict
      constructor <;> simp [known, agrees, verdict, few, Nat.not_lt.mp few]

end Check

section Calls
variable (rs : RteSiteRole)

theorem drawCheck (cycle : UInt32) (draw : Option Bytes) :
    siblingCheckOf (drawChallenge rs cycle draw) = siblingCheckOf rs := by
  unfold drawChallenge
  split <;> rfl

theorem prepareCheck (cycle : UInt32) (own : SiteRoleLocal) (io : ExecuteIo) :
    siblingCheckOf (prepareCycle rs cycle own io) = siblingCheckOf rs := by
  unfold prepareCycle refreshChallenge
  split
  · exact drawCheck _ cycle io.draw
  · rfl

theorem checkedStateCheck (cycle : UInt32) (own : SiteRoleLocal) (io : ExecuteIo) :
    siblingCheckOf (checkedState rs cycle own io) = siblingCheckOf rs := by
  have ensured := congrArg Prod.snd (ensureAside (prepareCycle rs cycle own io) io.reopen)
  have linked := ensured.trans (prepareCheck rs cycle own io)
  have decided := congrArg Prod.snd (decisionAside (decisionState rs cycle own io) own)
  refine Eq.trans decided ?_
  rw [decisionState]
  split
  · have received := congrArg Prod.snd (receiveAside (negotiate (ensureLink (prepareCycle rs cycle own io) io.reopen).1
      io.negotiator) io.receive)
    exact received.trans linked
  · exact linked

theorem executeCheck (cycle : UInt32) (own : SiteRoleLocal) (io : ExecuteIo) :
    siblingCheckOf (siteRoleExecute rs cycle own io) =
      siblingCheckOf (checkSiblingAfterDecision (checkedState rs cycle own io) own) := by
  rw [executeDecides, ← checkedState]
  split
  · exact congrArg Prod.snd (teardownAside _ _ _)
  · rfl

theorem syncCheck (cycle : UInt32) (own : SiteRoleLocal) (region : Bytes) (status : RteStatus) :
    siblingCheckOf (siteRoleSyncStandby rs cycle own region status).1 = siblingCheckOf rs := by
  unfold siteRoleSyncStandby
  dsimp only
  split <;> rfl

theorem confirmCheck (cycle : UInt32) : siblingCheckOf (siteRoleOnTakeoverConfirm rs cycle) = siblingCheckOf rs := by
  rcases confirmCases rs cycle with equal | ⟨_, _, equal⟩ <;> rw [equal]
  rfl

theorem tokenCheck (cycle : UInt32) (token : Bytes) (draw : Option Bytes) :
    siblingCheckOf (siteRoleOnTakeoverToken rs cycle token draw).1 = siblingCheckOf rs := by
  unfold siteRoleOnTakeoverToken
  split
  · rfl
  · dsimp only
    split
    · exact drawCheck _ cycle draw
    · rfl

theorem serviceCheck (cycle : UInt32) (answers : List ReceiveAnswer) :
    siblingCheckOf (siteRoleServiceLink rs cycle answers) = siblingCheckOf rs := by
  unfold siteRoleServiceLink
  split
  · exact congrArg Prod.snd (drainAside serviceDrain answers { rs with cycle := cycle })
  · rfl

end Calls

section Runs
variable {rs : RteSiteRole} {checks : List SiblingCheck}

theorem countsOf {rs' : RteSiteRole} (same : siblingCheckOf rs' = siblingCheckOf rs) (counts : Counts rs checks) :
    Counts rs' checks :=
  countsSame (congrArg Prod.fst same) counts

structure Followed (w : Watched) : Prop where
  counts : Counts w.rs w.checks
  exact_ : Each VerdictExact w.checks

theorem followedCheck (followed : Followed ⟨rs, checks⟩) (ownSingleMode : Bool) (sibling : Option SiteRoleSibling) :
    Followed ⟨(rteSiteRoleCheckSibling rs ownSingleMode sibling).1, checkMade rs ownSingleMode sibling :: checks⟩ := by
  obtain ⟨counts, verdict⟩ := checkCounts followed.counts ownSingleMode sibling
  exact ⟨counts, verdict, followed.exact_⟩

theorem followedAside {rs' : RteSiteRole} (followed : Followed ⟨rs, checks⟩)
    (same : siblingCheckOf rs' = siblingCheckOf rs) : Followed ⟨rs', checks⟩ :=
  ⟨countsOf same followed.counts, followed.exact_⟩

theorem followedExecute (followed : Followed ⟨rs, checks⟩) (cycle : UInt32) (own : SiteRoleLocal) (io : ExecuteIo) :
    Followed ⟨siteRoleExecute rs cycle own io, checksOf rs (.execute cycle own io) ++ checks⟩ := by
  have decided := followedAside followed (checkedStateCheck rs cycle own io)
  have last := executeCheck rs cycle own io
  rw [checkSiblingAfterDecision] at last
  rw [checksOf]
  split
  · rename_i source
    rw [if_pos source] at last
    obtain ⟨counts, verdicts⟩ := followedCheck decided own.singleMode (some (checkedState rs cycle own io).sibling)
    exact ⟨countsSame (congrArg Prod.fst last) counts, verdicts⟩
  · rename_i source
    rw [if_neg source] at last
    exact followedAside decided last

/- The verdict that can be read after an execute is that of its own check. -/
theorem executeVerdict (cycle : UInt32) (own : SiteRoleLocal) (io : ExecuteIo) {check : SiblingCheck}
    (made : check ∈ checksOf rs (.execute cycle own io)) :
    (siteRoleExecute rs cycle own io).siblingVerdict = check.verdict := by
  have last := congrArg Prod.snd (executeCheck rs cycle own io)
  rw [checksOf] at made
  split at made
  · rename_i source
    rw [checkSiblingAfterDecision, if_pos source] at last
    rw [List.mem_singleton.mp made]
    exact last
  · cases made

theorem followedStep (w : Watched) (event : SiblingEvent) (followed : Followed w) : Followed (watchStep w event) := by
  cases event with
  | check ownSingleMode sibling => exact followedCheck followed ownSingleMode sibling
  | roleChanged online => exact followedAside followed rfl
  | called call =>
    cases call with
    | execute cycle own io => exact followedAside (followedExecute followed cycle own io) rfl
    | serviceLink cycle answers => exact followedAside followed (serviceCheck w.rs cycle answers)
    | syncStandby cycle own region status => exact followedAside followed (syncCheck w.rs cycle own region status)
    | onTakeoverConfirm cycle => exact followedAside followed (confirmCheck w.rs cycle)
    | onTakeoverToken cycle token draw => exact followedAside followed (tokenCheck w.rs cycle token draw)
    | noteLostContact => exact followedAside followed rfl
    | flushFaulted singleMode region => exact followed
    | checkSibling ownSingleMode sibling => exact followedCheck followed ownSingleMode (some sibling)
    | shutdown => exact followedAside followed rfl

theorem setUpFollowed (setUp : SetUp rs) : Followed ⟨rs, []⟩ := by
  obtain ⟨cfg, _, _, _, _, _, _, aside⟩ := setUpSame setUp
  have clear : siblingCheckOf rs = siblingCheckOf (initialState cfg) := congrArg Prod.snd aside
  exact ⟨countsOf clear (followsZero 255), True.intro⟩

/- However the role changes and whatever else is called in between, every check of the
sibling gives exactly the verdict of its history, and the counter never wraps. -/
theorem siblingFaultsExactly (rs : RteSiteRole) (setUp : SetUp rs) (events : List SiblingEvent) :
    let watched := Machine.run watchStep ⟨rs, []⟩ events
    Each VerdictExact watched.checks ∧
      watched.rs.siblingMismatch.toNat = min 255 (disagreements watched.checks) := by
  have followed : Followed (Machine.run watchStep ⟨rs, []⟩ events) :=
    Machine.invariantRun (P := fun _ _ => True) (setUpFollowed setUp) (fun w event kept _ => followedStep w event kept)
      fun _ _ _ _ => trivial
  exact ⟨followed.exact_, followed.counts⟩

end Runs

def partedThenJoined : List SiblingEvent :=
  let sibling : Option SiteRoleSibling := some ⟨true, true, false, true⟩
  [.check false sibling, .check false none, .check false sibling, .check false sibling, .roleChanged true,
    .check false sibling]

theorem siblingFaultsExactlyParted :
    let watched := Machine.run watchStep ⟨initialState (smallSite true), []⟩ partedThenJoined
    Each VerdictExact watched.checks ∧
      watched.rs.siblingMismatch.toNat = min 255 (disagreements watched.checks) :=
  siblingFaultsExactly _ (smallSiteReady true) partedThenJoined

example : (Machine.run watchStep ⟨initialState (smallSite true), []⟩ partedThenJoined).checks.map SiblingCheck.verdict =
    [.agree, .fault, .pending, .unknown, .pending] := by decide

end PlatformRte.SiteRole
