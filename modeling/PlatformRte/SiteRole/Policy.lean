import Mathlib.Data.UInt

/-! The site-role policy: one pure decision per cycle over the facts the service
gathered, and the timing predicates it uses. Cycle numbers are 32 bits wide. -/
namespace PlatformRte.SiteRole

def standbyDataTimeoutCycles : UInt32 := 3
def standbySyncRetryCycles : UInt32 := 10
def takeoverConfirmValidCycles : UInt32 := 120
def requiredStandbyCycles : UInt32 := 6

inductive SiteRoleAction where
  | none | promote | demote | renegotiate | alarm | wait
  deriving DecidableEq, Repr

inductive SiteRoleReason where
  | none | bothFaulted | peerFaulted | recovered | dispatcherConfirmed | bothStandbyWest
  | bothStandbySibling | yieldToTakeover | dualOnline | waitingReady
  deriving DecidableEq, Repr

structure SiteRoleInput where
  isOnline : Bool
  ownFaulted : Bool
  isWest : Bool
  linkUp : Bool
  peerUnresponsive : Bool
  cycle : UInt32
  peerLastRxCycle : UInt32
  peerOnlineNow : Bool
  peerFaulted : Bool
  peerSnapshotValid : Bool
  siblingOnline : Bool
  takeoverConfirmed : Bool
  takeoverConfirmCycle : UInt32
  lostPeerWhileOnline : Bool
  bothStandbyCycles : UInt32
  ownReady : Bool
  siblingReady : Bool
  siblingReachable : Bool
  deriving DecidableEq, Repr

structure SiteRoleDecision where
  action : SiteRoleAction
  reason : SiteRoleReason
  bothStandbyCycles : UInt32
  deriving DecidableEq, Repr

def peerAnswering (i : SiteRoleInput) : Bool :=
  decide (i.peerLastRxCycle ≤ i.cycle) && decide (i.cycle - i.peerLastRxCycle ≤ 2)

def pairReadyToPromote (i : SiteRoleInput) : Bool :=
  i.ownReady && (i.siblingOnline || i.siblingReady || !i.siblingReachable)

def standbySyncDue (syncEnabled isOnline linkUp healthy : Bool) (cycle lastTry : UInt32) : Bool :=
  if syncEnabled && isOnline && linkUp then
    healthy || (decide (cycle < lastTry) || decide (standbySyncRetryCycles ≤ cycle - lastTry))
  else false

def standbyDataStale (syncEnabled isOnline haveSnapshot : Bool) (cycle lastRxCycle : UInt32) : Bool :=
  if syncEnabled && !isOnline && haveSnapshot then
    decide (cycle < lastRxCycle) || decide (standbyDataTimeoutCycles < cycle - lastRxCycle)
  else false

def takeoverAllowed (isOnline ownFaulted peerUnresponsive confirmed : Bool) (cycle confirmCycle : UInt32) : Bool :=
  if !isOnline && !ownFaulted && peerUnresponsive && confirmed then
    decide (confirmCycle ≤ cycle) && decide (cycle - confirmCycle ≤ takeoverConfirmValidCycles)
  else false

def bothStandbyTiebreak (cycles : UInt32) (isWest siblingOnline : Bool) : Bool :=
  (siblingOnline && decide (1 ≤ cycles)) || (isWest && decide (requiredStandbyCycles ≤ cycles))

-- The conditions of the seven rules, in the order in which they are tried.
def bothFaultedRule (i : SiteRoleInput) : Bool := i.ownFaulted && i.peerFaulted

def peerFaultedRule (i : SiteRoleInput) : Bool := !i.ownFaulted && !i.isOnline && i.peerFaulted

def recoveredRule (i : SiteRoleInput) : Bool := i.ownFaulted && i.peerSnapshotValid && !i.peerFaulted

def takeoverRule (i : SiteRoleInput) : Bool :=
  takeoverAllowed i.isOnline i.ownFaulted i.peerUnresponsive i.takeoverConfirmed i.cycle i.takeoverConfirmCycle

def dualOnlineRule (i : SiteRoleInput) : Bool :=
  i.isOnline && !i.ownFaulted && !i.peerFaulted && i.peerOnlineNow && peerAnswering i

def bothStandbyRule (i : SiteRoleInput) : Bool :=
  !i.isOnline && !i.ownFaulted && i.linkUp && !i.peerUnresponsive && peerAnswering i &&
    !i.peerOnlineNow && !i.peerFaulted

def followSiblingRule (i : SiteRoleInput) : Bool :=
  !i.isOnline && !i.ownFaulted && i.siblingOnline && !i.peerFaulted && !(i.peerOnlineNow && peerAnswering i)

/- The first rule that applies wins; readiness is looked at afterwards. -/
def firstRule (i : SiteRoleInput) : SiteRoleDecision :=
  if bothFaultedRule i then ⟨.renegotiate, .bothFaulted, 0⟩
  else if peerFaultedRule i then ⟨.promote, .peerFaulted, 0⟩
  else if recoveredRule i then ⟨.demote, .recovered, 0⟩
  else if takeoverRule i then ⟨.promote, .dispatcherConfirmed, 0⟩
  else if dualOnlineRule i then
    if i.lostPeerWhileOnline then ⟨.demote, .yieldToTakeover, 0⟩ else ⟨.alarm, .dualOnline, 0⟩
  else if bothStandbyRule i then
    if bothStandbyTiebreak (i.bothStandbyCycles + 1) i.isWest i.siblingOnline then
      ⟨.promote, if i.siblingOnline then .bothStandbySibling else .bothStandbyWest, 0⟩
    else ⟨.none, .none, i.bothStandbyCycles + 1⟩
  else if followSiblingRule i then
    if 2 ≤ i.bothStandbyCycles + 1 then ⟨.promote, .bothStandbySibling, 0⟩
    else ⟨.none, .none, i.bothStandbyCycles + 1⟩
  else ⟨.none, .none, 0⟩

def siteRoleDecide (i : SiteRoleInput) : SiteRoleDecision :=
  let d := firstRule i
  -- keep the tie-break condition counting while a promotion is held back
  if d.action = .promote ∧ pairReadyToPromote i = false then ⟨.wait, .waitingReady, i.bothStandbyCycles + 1⟩
  else d

inductive Rule where
  | bothFaulted | peerFaulted | recovered | takeover | dualOnline | bothStandby | followSibling | none
  deriving DecidableEq, Repr

def ruleCondition (i : SiteRoleInput) : Rule → Bool
  | .bothFaulted => bothFaultedRule i
  | .peerFaulted => peerFaultedRule i
  | .recovered => recoveredRule i
  | .takeover => takeoverRule i
  | .dualOnline => dualOnlineRule i
  | .bothStandby => bothStandbyRule i
  | .followSibling => followSiblingRule i
  | .none => true

def appliedRule (i : SiteRoleInput) : Rule :=
  if bothFaultedRule i then .bothFaulted
  else if peerFaultedRule i then .peerFaulted
  else if recoveredRule i then .recovered
  else if takeoverRule i then .takeover
  else if dualOnlineRule i then .dualOnline
  else if bothStandbyRule i then .bothStandby
  else if followSiblingRule i then .followSibling
  else .none

def ruleDecision (i : SiteRoleInput) : Rule → SiteRoleDecision
  | .bothFaulted => ⟨.renegotiate, .bothFaulted, 0⟩
  | .peerFaulted => ⟨.promote, .peerFaulted, 0⟩
  | .recovered => ⟨.demote, .recovered, 0⟩
  | .takeover => ⟨.promote, .dispatcherConfirmed, 0⟩
  | .dualOnline => if i.lostPeerWhileOnline then ⟨.demote, .yieldToTakeover, 0⟩ else ⟨.alarm, .dualOnline, 0⟩
  | .bothStandby =>
      if bothStandbyTiebreak (i.bothStandbyCycles + 1) i.isWest i.siblingOnline then
        ⟨.promote, if i.siblingOnline then .bothStandbySibling else .bothStandbyWest, 0⟩
      else ⟨.none, .none, i.bothStandbyCycles + 1⟩
  | .followSibling =>
      if 2 ≤ i.bothStandbyCycles + 1 then ⟨.promote, .bothStandbySibling, 0⟩
      else ⟨.none, .none, i.bothStandbyCycles + 1⟩
  | .none => ⟨.none, .none, 0⟩

theorem firstRuleByRule (i : SiteRoleInput) : firstRule i = ruleDecision i (appliedRule i) := by
  unfold firstRule appliedRule
  split
  · rfl
  split
  · rfl
  split
  · rfl
  split
  · rfl
  split
  · rfl
  split
  · rfl
  split <;> rfl

theorem appliedCondition (i : SiteRoleInput) : ruleCondition i (appliedRule i) = true := by
  unfold appliedRule
  repeat' split
  all_goals first | assumption | rfl

theorem appliedHolds {i : SiteRoleInput} {r : Rule} (applied : appliedRule i = r) : ruleCondition i r = true :=
  applied ▸ appliedCondition i

theorem promoteReady {i : SiteRoleInput} (promoted : (siteRoleDecide i).action = .promote) :
    pairReadyToPromote i = true ∧ siteRoleDecide i = ruleDecision i (appliedRule i) := by
  unfold siteRoleDecide at promoted ⊢
  rw [firstRuleByRule] at promoted ⊢
  dsimp only at promoted ⊢
  split at promoted
  · cases promoted
  · rename_i gate
    cases ready : pairReadyToPromote i
    · exact absurd ⟨promoted, ready⟩ gate
    · simp

theorem succToNat (c : UInt32) : (c + 1).toNat ≤ c.toNat + 1 := by
  rw [UInt32.toNat_add]
  exact Nat.mod_le _ _

theorem ruleCounter (i : SiteRoleInput) (r : Rule) :
    (ruleDecision i r).bothStandbyCycles = 0 ∨ (ruleDecision i r).bothStandbyCycles = i.bothStandbyCycles + 1 := by
  cases r <;> simp only [ruleDecision, true_or]
  all_goals split <;> simp

theorem counterStep (i : SiteRoleInput) :
    (siteRoleDecide i).bothStandbyCycles = 0 ∨ (siteRoleDecide i).bothStandbyCycles = i.bothStandbyCycles + 1 := by
  unfold siteRoleDecide
  rw [firstRuleByRule]
  dsimp only
  split
  · exact Or.inr rfl
  · exact ruleCounter i _

theorem counterBound (i : SiteRoleInput) :
    (siteRoleDecide i).bothStandbyCycles.toNat ≤ i.bothStandbyCycles.toNat + 1 := by
  rcases counterStep i with zero | next
  · rw [zero]; exact Nat.zero_le _
  · rw [next]; exact succToNat _

theorem subToNat {a b bound : UInt32} (ordered : b ≤ a) (near : a - b ≤ bound) :
    a.toNat ≤ b.toNat + bound.toNat := by
  have gap := UInt32.le_iff_toNat_le.mp near
  rw [UInt32.toNat_sub_of_le _ _ ordered] at gap
  omega

theorem answeringFacts {i : SiteRoleInput} (answering : peerAnswering i = true) :
    i.peerLastRxCycle ≤ i.cycle ∧ i.cycle.toNat ≤ i.peerLastRxCycle.toNat + 2 := by
  simp only [peerAnswering, Bool.and_eq_true, decide_eq_true_eq] at answering
  exact ⟨answering.1, subToNat answering.1 answering.2⟩

theorem bothStandbyFacts {i : SiteRoleInput} (rule : bothStandbyRule i = true) :
    i.isOnline = false ∧ i.ownFaulted = false ∧ i.linkUp = true ∧ peerAnswering i = true ∧
      i.peerOnlineNow = false ∧ i.peerFaulted = false := by
  simp only [bothStandbyRule, Bool.and_eq_true, Bool.not_eq_true'] at rule
  exact ⟨rule.1.1.1.1.1.1, rule.1.1.1.1.1.2, rule.1.1.1.1.2, rule.1.1.2, rule.1.2, rule.2⟩

theorem tiebreakFacts {c : UInt32} {isWest : Bool} (won : bothStandbyTiebreak (c + 1) isWest false = true) :
    isWest = true ∧ 5 ≤ c.toNat := by
  simp only [bothStandbyTiebreak, Bool.false_and, Bool.false_or, Bool.and_eq_true, decide_eq_true_eq] at won
  have six : 6 ≤ (c + 1).toNat := UInt32.le_iff_toNat_le.mp won.2
  have next := succToNat c
  exact ⟨won.1, by omega⟩

theorem promoteCases {i : SiteRoleInput} (promoted : (siteRoleDecide i).action = .promote) :
    peerFaultedRule i = true ∨ takeoverRule i = true ∨
      (bothStandbyRule i = true ∧ bothStandbyTiebreak (i.bothStandbyCycles + 1) i.isWest i.siblingOnline = true) ∨
      followSiblingRule i = true := by
  obtain ⟨_, same⟩ := promoteReady promoted
  rw [same] at promoted
  have holds := appliedCondition i
  cases applied : appliedRule i <;> rw [applied] at promoted holds <;> simp only [ruleCondition] at holds <;>
    simp only [ruleDecision, reduceCtorEq] at promoted
  case peerFaulted => exact Or.inl holds
  case takeover => exact Or.inr (Or.inl holds)
  case dualOnline => split at promoted <;> simp at promoted
  case bothStandby =>
    split at promoted
    · exact Or.inr (Or.inr (Or.inl ⟨holds, by assumption⟩))
    · simp at promoted
  case followSibling => exact Or.inr (Or.inr (Or.inr holds))

theorem confirmedReason {i : SiteRoleInput} (promoted : (siteRoleDecide i).action = .promote)
    (reason : (siteRoleDecide i).reason = .dispatcherConfirmed) : takeoverRule i = true := by
  obtain ⟨_, same⟩ := promoteReady promoted
  rw [same] at promoted reason
  have holds := appliedCondition i
  cases applied : appliedRule i <;> rw [applied] at promoted reason holds <;>
    simp only [ruleDecision, reduceCtorEq] at promoted reason
  case takeover => exact holds
  case dualOnline => split at promoted <;> simp at promoted
  case bothStandby =>
    split at reason
    · cases sibling : i.siblingOnline <;> simp [sibling] at reason
    · simp at reason
  case followSibling => split at reason <;> simp at reason

theorem takeoverFacts {i : SiteRoleInput} (rule : takeoverRule i = true) :
    i.isOnline = false ∧ i.ownFaulted = false ∧ i.peerUnresponsive = true ∧ i.takeoverConfirmed = true ∧
      i.takeoverConfirmCycle ≤ i.cycle ∧
      i.cycle.toNat ≤ i.takeoverConfirmCycle.toNat + takeoverConfirmValidCycles.toNat := by
  unfold takeoverRule takeoverAllowed at rule
  split at rule
  · rename_i facts
    simp only [Bool.and_eq_true, Bool.not_eq_true', decide_eq_true_eq] at facts rule
    exact ⟨facts.1.1.1, facts.1.1.2, facts.1.2, facts.2, rule.1, subToNat rule.1 rule.2⟩
  · cases rule

theorem promoteStandby {i : SiteRoleInput} (promoted : (siteRoleDecide i).action = .promote) :
    i.isOnline = false ∧ i.ownFaulted = false := by
  rcases promoteCases promoted with rule | rule | ⟨rule, _⟩ | rule
  · simp only [peerFaultedRule, Bool.and_eq_true, Bool.not_eq_true'] at rule
    exact ⟨rule.1.2, rule.1.1⟩
  · obtain ⟨standby, sound, _⟩ := takeoverFacts rule
    exact ⟨standby, sound⟩
  · obtain ⟨standby, sound, _⟩ := bothStandbyFacts rule
    exact ⟨standby, sound⟩
  · simp only [followSiblingRule, Bool.and_eq_true, Bool.not_eq_true'] at rule
    exact rule.1.1.1

theorem takeoverPromotes {i : SiteRoleInput} (sound : i.ownFaulted = false) (allowed : takeoverRule i = true)
    (ready : pairReadyToPromote i = true) : (siteRoleDecide i).action = .promote := by
  unfold siteRoleDecide
  rw [ready]
  simp only [Bool.true_eq_false, and_false, if_false, firstRule, bothFaultedRule, recoveredRule, sound,
    Bool.false_and, Bool.false_eq_true, allowed, if_true]
  split <;> rfl

theorem demoteCases {i : SiteRoleInput} (demoted : (siteRoleDecide i).action = .demote) :
    (recoveredRule i = true ∧ (siteRoleDecide i).reason = .recovered) ∨
      (dualOnlineRule i = true ∧ i.lostPeerWhileOnline = true ∧
        (siteRoleDecide i).reason = .yieldToTakeover) := by
  have same : siteRoleDecide i = ruleDecision i (appliedRule i) := by
    unfold siteRoleDecide at demoted ⊢
    rw [firstRuleByRule] at demoted ⊢
    dsimp only at demoted ⊢
    split at demoted
    · cases demoted
    · rename_i gate
      exact if_neg gate
  rw [same] at demoted ⊢
  have holds := appliedCondition i
  cases applied : appliedRule i <;> rw [applied] at demoted holds <;> simp only [ruleCondition] at holds <;>
    simp only [ruleDecision, reduceCtorEq] at demoted ⊢
  case recovered => exact Or.inl ⟨holds, trivial⟩
  case dualOnline =>
    cases lost : i.lostPeerWhileOnline <;> simp [lost] at demoted ⊢
    exact holds
  case bothStandby => split at demoted <;> simp at demoted
  case followSibling => split at demoted <;> simp at demoted

theorem renegotiateIff (i : SiteRoleInput) :
    (siteRoleDecide i).action = .renegotiate ↔ bothFaultedRule i = true := by
  cases both : bothFaultedRule i
  · have other : appliedRule i ≠ .bothFaulted := by
      intro applied
      have holds := appliedHolds applied
      rw [ruleCondition, both] at holds
      cases holds
    have action : (ruleDecision i (appliedRule i)).action ≠ .renegotiate := by
      cases applied : appliedRule i <;> simp only [ruleDecision]
      case bothFaulted => exact absurd applied other
      all_goals (try split) <;> simp
    unfold siteRoleDecide
    rw [firstRuleByRule]
    dsimp only
    split <;> simp [action]
  · simp [siteRoleDecide, firstRule, both]

end PlatformRte.SiteRole
