import PlatformRte.SiteRole.Policy
import PlatformRte.Lib.Machine

/-! The tie-break counter over a sequence of decisions. Each call is given the
counter the call before it returned, 0 at first; the facts are arbitrary. -/
namespace PlatformRte.SiteRole.TieBreak
open Machine

-- The inputs already decided are kept newest first.
structure State where
  counter : UInt32
  past : List SiteRoleInput
  deriving DecidableEq, Repr

def start : State := ⟨0, []⟩

def asked (s : State) (i : SiteRoleInput) : SiteRoleInput := { i with bothStandbyCycles := s.counter }

def step (s : State) (i : SiteRoleInput) : State :=
  ⟨(siteRoleDecide (asked s i)).bothStandbyCycles, asked s i :: s.past⟩

def streak (p : SiteRoleInput → Bool) (inputs : List SiteRoleInput) : Nat := (inputs.takeWhile p).length

def applies (r : Rule) (i : SiteRoleInput) : Bool := decide (appliedRule i = r)

/- The evidence a call must rest on: six consecutive both-standby cycles for the
WEST tie-break, two consecutive ONLINE reports for following the sibling, and for
both rules no cycle counted that another rule contributed. -/
structure Evidence (s : State) (i : SiteRoleInput) : Prop where
  west : (siteRoleDecide (asked s i)).action = .promote →
    (siteRoleDecide (asked s i)).reason = .bothStandbyWest →
    requiredStandbyCycles.toNat ≤ streak bothStandbyRule (asked s i :: s.past)
  sibling : (siteRoleDecide (asked s i)).action = .promote → appliedRule (asked s i) = .followSibling →
    2 ≤ streak SiteRoleInput.siblingOnline (asked s i :: s.past)
  counted : ∀ r, r = .bothStandby ∨ r = .followSibling → appliedRule (asked s i) = r →
    s.counter.toNat + 1 ≤ streak (applies r) (asked s i :: s.past)

/- A call that one of the two counting rules applies to takes over a running count
only from a call that the same rule applied to. -/
def OwnCount (s : State) (i : SiteRoleInput) : Prop :=
  s.counter ≠ 0 → ∀ r, r = .bothStandby ∨ r = .followSibling → appliedRule (asked s i) = r →
    1 ≤ streak (applies r) s.past

theorem streakMono {p q : SiteRoleInput → Bool} (imp : ∀ i, p i = true → q i = true)
    (inputs : List SiteRoleInput) : streak p inputs ≤ streak q inputs := by
  induction inputs with
  | nil => exact Nat.le_refl _
  | cons i rest ih =>
    unfold streak at ih ⊢
    cases hp : p i with
    | false => simp [List.takeWhile_cons, hp]
    | true => simpa [List.takeWhile_cons, hp, imp i hp] using ih

theorem streakCons {p : SiteRoleInput → Bool} {i : SiteRoleInput} (holds : p i = true)
    (inputs : List SiteRoleInput) : streak p (i :: inputs) = streak p inputs + 1 := by
  simp [streak, holds]

theorem appliesSelf {i : SiteRoleInput} {r : Rule} (applied : appliedRule i = r) : applies r i = true :=
  decide_eq_true applied

def Counted (s : State) : Prop :=
  ∀ r, r = .bothStandby ∨ r = .followSibling → 1 ≤ streak (applies r) s.past →
    s.counter.toNat ≤ streak (applies r) s.past

theorem countedNext {s : State} {i : SiteRoleInput} (counted : Counted s) (own : OwnCount s i)
    {r : Rule} (counting : r = .bothStandby ∨ r = .followSibling) (applied : appliedRule (asked s i) = r) :
    s.counter.toNat + 1 ≤ streak (applies r) (asked s i :: s.past) := by
  rw [streakCons (appliesSelf applied)]
  by_cases zero : s.counter = 0
  · rw [zero]
    exact Nat.succ_le_succ (Nat.zero_le _)
  · exact Nat.succ_le_succ (counted r counting (own zero r counting applied))

theorem countedStep (s : State) (i : SiteRoleInput) (counted : Counted s) (own : OwnCount s i) :
    Counted (step s i) := by
  intro r counting streaked
  change 1 ≤ streak (applies r) (asked s i :: s.past) at streaked
  change _ ≤ streak (applies r) (asked s i :: s.past)
  by_cases applied : appliedRule (asked s i) = r
  · exact Nat.le_trans (counterBound (asked s i)) (countedNext counted own counting applied)
  · simp [streak, applies, applied] at streaked

theorem westRule {i : SiteRoleInput} (promoted : (siteRoleDecide i).action = .promote)
    (reason : (siteRoleDecide i).reason = .bothStandbyWest) :
    appliedRule i = .bothStandby ∧ requiredStandbyCycles.toNat ≤ i.bothStandbyCycles.toNat + 1 := by
  obtain ⟨_, same⟩ := promoteReady promoted
  rw [same] at promoted reason
  cases applied : appliedRule i <;> simp only [applied, ruleDecision] at promoted reason
  · cases reason
  · cases reason
  · cases reason
  · cases reason
  · split at reason <;> cases reason
  · split at reason
    · rename_i tie
      cases sibling : i.siblingOnline with
      | true => simp [sibling] at reason
      | false =>
        simp only [bothStandbyTiebreak, sibling, Bool.false_and, Bool.false_or, Bool.and_eq_true,
          decide_eq_true_eq] at tie
        exact ⟨rfl, Nat.le_trans (UInt32.le_iff_toNat_le.mp tie.2) (succToNat _)⟩
    · cases reason
  · split at reason <;> cases reason
  · cases reason

theorem followRule {i : SiteRoleInput} (promoted : (siteRoleDecide i).action = .promote)
    (applied : appliedRule i = .followSibling) : 2 ≤ i.bothStandbyCycles.toNat + 1 := by
  obtain ⟨_, same⟩ := promoteReady promoted
  rw [same, applied] at promoted
  simp only [ruleDecision] at promoted
  split at promoted
  · rename_i two
    exact Nat.le_trans (UInt32.le_iff_toNat_le.mp two) (succToNat _)
  · cases promoted

theorem evidenceOfCounted {s : State} {i : SiteRoleInput} (counted : Counted s) (own : OwnCount s i) :
    Evidence s i := by
  refine ⟨fun promoted reason => ?_, fun promoted applied => ?_, fun r => countedNext counted own⟩
  · obtain ⟨applied, enough⟩ := westRule promoted reason
    have held := countedNext counted own (Or.inl rfl) applied
    have condition : ∀ j, applies .bothStandby j = true → bothStandbyRule j = true :=
      fun j same => appliedHolds (of_decide_eq_true same)
    exact Nat.le_trans enough (Nat.le_trans held (streakMono condition _))
  · have held := countedNext counted own (Or.inr rfl) applied
    have condition : ∀ j, applies .followSibling j = true → j.siblingOnline = true := by
      intro j same
      have holds := appliedHolds (of_decide_eq_true same)
      simp only [ruleCondition, followSiblingRule, Bool.and_eq_true] at holds
      exact holds.1.1.2
    exact Nat.le_trans (followRule promoted applied) (Nat.le_trans held (streakMono condition _))

theorem ownCountOfEvidence (s : State) (i : SiteRoleInput) (evidence : Evidence s i) : OwnCount s i := by
  intro nonzero r counting applied
  have held := evidence.counted r counting applied
  rw [streakCons (appliesSelf applied)] at held
  have positive : s.counter.toNat ≠ 0 := fun zero => nonzero (UInt32.toNat_inj.mp zero)
  omega

theorem consecutiveEvidence (inputs : List SiteRoleInput) :
    Always step Evidence start inputs ↔ Always step OwnCount start inputs := by
  constructor
  · exact alwaysMono ownCountOfEvidence
  · have first : Counted start := by
      intro r _ streaked
      simp [start, streak] at streaked
    exact alwaysOfInvariant first countedStep (fun s i => evidenceOfCounted)

def standbyWest : SiteRoleInput where
  isOnline := false
  ownFaulted := false
  isWest := true
  linkUp := true
  peerUnresponsive := false
  cycle := 10
  peerLastRxCycle := 10
  peerOnlineNow := false
  peerFaulted := false
  peerSnapshotValid := false
  siblingOnline := false
  takeoverConfirmed := false
  takeoverConfirmCycle := 0
  lostPeerWhileOnline := false
  bothStandbyCycles := 0
  ownReady := true
  siblingReady := false
  siblingReachable := false

def waitingTakeover : SiteRoleInput :=
  { standbyWest with
    peerUnresponsive := true
    peerLastRxCycle := 0
    takeoverConfirmed := true
    takeoverConfirmCycle := 10
    ownReady := false }

theorem waitingCountsTowardsTieBreak :
    ¬ Always step Evidence start (List.replicate 5 waitingTakeover ++ [standbyWest]) := by
  intro always
  have last := (alwaysSnoc.mp always).2.west (by decide) (by decide)
  exact absurd last (by decide)

end PlatformRte.SiteRole.TieBreak
