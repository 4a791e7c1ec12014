import PlatformRte.SiteRole.Service
import PlatformRte.Lib.Machine
import PlatformRte.Lib.History

/-! What a promotion rests on when the A/B sibling is never ONLINE: a counterpart that
was heard to be FAULTED, one heard just now, or a dispatcher's confirmation. -/
namespace PlatformRte.SiteRole.Silence
open Machine History RteSiteRole

structure Session where
  rs : RteSiteRole
  lastCycle : Option UInt32

def step (s : Session) (call : SiteRoleCall) : Session where
  rs := siteRoleCall s.rs call
  lastCycle := match call with
    | .execute cycle _ _ => some cycle
    | _ => s.lastCycle

def Admitted (s : Session) : SiteRoleCall → Prop
  | .execute cycle own io =>
      (∀ last ∈ s.lastCycle, last < cycle) ∧ own.siblingOnline = false ∧
        ∀ frame ∈ io.siblingFrame, frame.online = false
  | _ => True

instance : ∀ s call, Decidable (Admitted s call)
  | s, .execute cycle own io =>
      -- the search over one optional cycle, not over all of them
      have : Decidable (∀ last ∈ s.lastCycle, last < cycle) := Option.decidableForallMem s.lastCycle
      inferInstanceAs (Decidable ((∀ last ∈ s.lastCycle, last < cycle) ∧
        own.siblingOnline = false ∧ ∀ frame ∈ io.siblingFrame, frame.online = false))
  | _, .serviceLink .. | _, .syncStandby .. | _, .onTakeoverConfirm .. | _, .onTakeoverToken .. | _, .noteLostContact
  | _, .flushFaulted .. | _, .checkSibling .. | _, .shutdown => isTrue True.intro

def lastFaulted : List RoleEvent → Bool
  | [] => false
  | .decoded _ faulted _ :: _ => faulted
  | _ :: earlier => lastFaulted earlier

def HeardWithin (cycle : UInt32) (log : List RoleEvent) : Prop :=
  ∃ heard faulted valid, .decoded heard faulted valid ∈ log ∧ heard ≤ cycle ∧ cycle.toNat ≤ heard.toNat + 2

def isPromotion : RoleEvent → Bool
  | .changed _ change => decide (change.kind = .promoted)
  | _ => false

def isDecoded : RoleEvent → Bool
  | .decoded .. => true
  | _ => false

def ConfirmedSince (stamp : UInt32) (log : List RoleEvent) : Prop :=
  ∃ since before, log = since ++ .confirmed stamp :: before ∧
    ∀ entry ∈ since, isDecoded entry = false ∧ isPromotion entry = false

def Confirmed (cycle : UInt32) (log : List RoleEvent) : Prop :=
  ∃ stamp, ConfirmedSince stamp log ∧ stamp ≤ cycle ∧
    cycle.toNat ≤ stamp.toNat + takeoverConfirmValidCycles.toNat

def Justified : RoleEvent → List RoleEvent → Prop
  | .changed cycle change, earlier => change.kind = .promoted →
      (lastFaulted earlier = true ∨ HeardWithin cycle earlier ∨ Confirmed cycle earlier) ∧
        (change.reason = .dispatcherConfirmed → Confirmed cycle earlier)
  | _, _ => True

def ConfirmedOnce (log : List RoleEvent) : Prop :=
  ∀ later cycle change between first earlier,
    log = later ++ .changed cycle change :: (between ++ first :: earlier) →
    change.kind = .promoted → change.reason = .dispatcherConfirmed → isPromotion first = true →
    ∃ stamp, .confirmed stamp ∈ between

def pending : List RoleEvent → Option UInt32
  | [] => none
  | .decoded .. :: _ => none
  | .confirmed stamp :: _ => some stamp
  | .changed _ change :: earlier => if change.kind = .promoted then none else pending earlier

theorem pendingSince {log : List RoleEvent} {stamp : UInt32} (open_ : pending log = some stamp) :
    ConfirmedSince stamp log := by
  induction log with
  | nil => cases open_
  | cons entry earlier ih =>
    cases entry with
    | decoded => cases open_
    | confirmed =>
      cases open_
      exact ⟨[], earlier, rfl, fun _ none => absurd none List.not_mem_nil⟩
    | changed cycle change =>
      simp only [pending] at open_
      split at open_
      · cases open_
      · rename_i other
        obtain ⟨since, before, rfl, quiet⟩ := ih open_
        refine ⟨.changed cycle change :: since, before, rfl, fun e mem => ?_⟩
        rcases List.mem_cons.mp mem with rfl | old
        · exact ⟨rfl, decide_eq_false other⟩
        · exact quiet e old

theorem sinceBetween {log between earlier : List RoleEvent} {first : RoleEvent} {stamp : UInt32}
    (since : ConfirmedSince stamp log) (split : log = between ++ first :: earlier)
    (promotion : isPromotion first = true) : .confirmed stamp ∈ between := by
  obtain ⟨quiet, before, same, allQuiet⟩ := since
  rw [split] at same
  rcases List.append_eq_append_iff.mp same with ⟨rest, rfl, tail⟩ | ⟨rest, rfl, tail⟩
  · cases rest with
    | nil =>
      cases tail
      cases promotion
    | cons entry rest =>
      obtain ⟨rfl, _⟩ := List.cons.inj tail
      have none := (allQuiet first (by simp)).2
      rw [promotion] at none
      cases none
  · cases rest with
    | nil =>
      cases tail
      cases promotion
    | cons entry rest =>
      obtain ⟨rfl, _⟩ := List.cons.inj tail
      simp

theorem confirmedOnce {log : List RoleEvent} (justified : Each Justified log) : ConfirmedOnce log := by
  intro later cycle change between first earlier split promoted reason promotion
  rw [split] at justified
  obtain ⟨stamp, since, _⟩ := ((eachEntry justified) promoted).2 reason
  exact ⟨stamp, sinceBetween since rfl promotion⟩

structure Told (rs : RteSiteRole) : Prop where
  sibling : rs.sibling.online = false
  faulted : rs.peerFaulted = lastFaulted rs.roleLog
  stamp : rs.peerLastRxCycle = 0 ∨ ∃ faulted valid, .decoded rs.peerLastRxCycle faulted valid ∈ rs.roleLog
  confirmed : rs.takeoverConfirmed = true → pending rs.roleLog = some rs.takeoverConfirmCycle
  justified : Each Justified rs.roleLog

structure Aside (counter : UInt32) (rs : RteSiteRole) : Prop where
  told : Told rs
  counter : rs.bothStandbyCycles = counter

def toldFacts (rs : RteSiteRole) :=
  (rs.sibling, rs.peerFaulted, rs.peerLastRxCycle, rs.takeoverConfirmed, rs.takeoverConfirmCycle, rs.roleLog)

theorem toldOf {rs rs' : RteSiteRole} (told : Told rs) (same : toldFacts rs' = toldFacts rs) : Told rs' := by
  simp only [toldFacts, Prod.mk.injEq] at same
  obtain ⟨sibling, faulted, stamp, confirmed, cycle, log⟩ := same
  constructor
  · rw [sibling]; exact told.sibling
  · rw [faulted, log]; exact told.faulted
  · rw [stamp, log]; exact told.stamp
  · rw [confirmed, cycle, log]; exact told.confirmed
  · rw [log]; exact told.justified

theorem toldSame {rs rs' : RteSiteRole} (same : Same rs rs') (told : Told rs) : Told rs' := by
  obtain ⟨_, rfl⟩ := same
  exact toldOf told rfl

theorem toldDecode {rs : RteSiteRole} (told : Told rs) : Told (decodeFrame rs) where
  sibling := told.sibling
  faulted := rfl
  stamp := Or.inr ⟨_, _, List.mem_cons_self⟩
  confirmed := fun void => by cases void
  justified := ⟨True.intro, told.justified⟩

theorem toldConfirmed {rs : RteSiteRole} (cycle : UInt32) (told : Told rs) :
    Told (recordTakeoverConfirmation rs cycle) where
  sibling := told.sibling
  faulted := told.faulted
  stamp := told.stamp.imp_right fun ⟨faulted, valid, mem⟩ => ⟨faulted, valid, List.mem_cons_of_mem _ mem⟩
  confirmed := fun _ => rfl
  justified := ⟨True.intro, told.justified⟩

theorem asideRules (counter : UInt32) : AsideRule (Aside counter) where
  same _ _ same aside := by
    obtain ⟨_, rfl⟩ := same
    exact ⟨toldSame ⟨_, rfl⟩ aside.told, aside.counter⟩
  ticked _ _ aside := ⟨toldOf aside.told rfl, aside.counter⟩
  taken _ _ aside := ⟨toldOf aside.told rfl, aside.counter⟩
  received _ _ aside := ⟨toldOf aside.told rfl, aside.counter⟩
  decoded _ aside := ⟨toldDecode aside.told, aside.counter⟩
  confirmed _ cycle aside := ⟨toldConfirmed cycle aside.told, aside.counter⟩
  lost _ aside := ⟨toldOf aside.told rfl, aside.counter⟩
  closed _ aside := ⟨toldOf aside.told rfl, aside.counter⟩

def CounterBound (s : Session) : Prop :=
  match s.lastCycle with
  | none => s.rs.bothStandbyCycles = 0
  | some last => s.rs.bothStandbyCycles.toNat ≤ last.toNat + 1

theorem counterBefore {s : Session} {cycle : UInt32} (bound : CounterBound s)
    (later : ∀ last ∈ s.lastCycle, last < cycle) : s.rs.bothStandbyCycles.toNat ≤ cycle.toNat := by
  unfold CounterBound at bound
  cases last : s.lastCycle with
  | none =>
    rw [last] at bound
    rw [bound]
    exact Nat.zero_le _
  | some last_ =>
    rw [last] at bound
    have before := UInt32.lt_iff_toNat_lt.mp (later last_ last)
    omega

theorem promotionJustified {rs : RteSiteRole} {own : SiteRoleLocal} (told : Told rs)
    (counter : rs.bothStandbyCycles.toNat ≤ rs.cycle.toNat) (alone : siblingOnlineFact rs own = false)
    (promoted : (decision rs own).action = .promote) :
    (lastFaulted rs.roleLog = true ∨ HeardWithin rs.cycle rs.roleLog ∨ Confirmed rs.cycle rs.roleLog) ∧
      ((decision rs own).reason = .dispatcherConfirmed → Confirmed rs.cycle rs.roleLog) := by
  have byConfirmation (rule : takeoverRule (buildDecisionInput rs own) = true) : Confirmed rs.cycle rs.roleLog := by
    obtain ⟨_, _, _, confirmed, ordered, fresh⟩ := takeoverFacts rule
    exact ⟨rs.takeoverConfirmCycle, pendingSince (told.confirmed confirmed), ordered, fresh⟩
  refine ⟨?_, fun reason => byConfirmation (confirmedReason promoted reason)⟩
  rcases promoteCases promoted with rule | rule | ⟨rule, tiebreak⟩ | rule
  · simp only [peerFaultedRule, Bool.and_eq_true] at rule
    exact Or.inl (told.faulted.symm.trans rule.2)
  · exact Or.inr (Or.inr (byConfirmation rule))
  · obtain ⟨_, _, _, answering, _⟩ := bothStandbyFacts rule
    obtain ⟨ordered, near⟩ := answeringFacts answering
    rcases told.stamp with unheard | ⟨faulted, valid, mem⟩
    · rw [show (buildDecisionInput rs own).siblingOnline = false from alone] at tiebreak
      have counted : 5 ≤ rs.bothStandbyCycles.toNat := (tiebreakFacts tiebreak).2
      have early : rs.cycle.toNat ≤ rs.peerLastRxCycle.toNat + 2 := near
      rw [unheard, UInt32.toNat_zero] at early
      omega
    · exact Or.inr (Or.inl ⟨_, faulted, valid, mem, ordered, near⟩)
  · simp [followSiblingRule, buildDecisionInput, alone] at rule

theorem reportedTold {rs r : RteSiteRole} {kind : ChangeKind} {reason : SiteRoleReason} {apply : Bool}
    (same : Same (reportChange r kind reason apply) rs) (told : Told r)
    (spent : kind = .promoted → r.takeoverConfirmed = false)
    (justified : Justified (.changed r.cycle ⟨kind, reason, r.online, apply, r.peerSnapshotValid, r.peerSnapshotCycle⟩)
      r.roleLog) : Told rs := by
  apply toldSame same
  refine ⟨told.sibling, told.faulted, ?_, fun confirmed => ?_, ⟨justified, told.justified⟩⟩
  · simp only [reportChange]
    split
    · exact Or.inl rfl
    · exact told.stamp.imp_right fun ⟨faulted, valid, mem⟩ => ⟨faulted, valid, List.mem_cons_of_mem _ mem⟩
  · have other : kind ≠ .promoted := fun promoted => by
      rw [show r.takeoverConfirmed = true from confirmed] at spent
      cases spent promoted
    change (if kind = .promoted then none else pending r.roleLog) = _
    rw [if_neg other]
    exact told.confirmed confirmed

theorem toldDecided {rs rs' : RteSiteRole} {own : SiteRoleLocal} (told : Told rs)
    (counter : rs.bothStandbyCycles.toNat ≤ rs.cycle.toNat) (alone : siblingOnlineFact rs own = false)
    (step : Decided rs own rs') : Told rs' := by
  obtain ⟨sibling, faulted, stamp, confirmed, justified⟩ := told
  cases step with
  | promoted action same =>
    have grounds := promotionJustified ⟨sibling, faulted, stamp, confirmed, justified⟩ counter alone action
    refine reportedTold same ⟨sibling, faulted, stamp, ?_, justified⟩ (fun _ => rfl) (fun _ => grounds)
    intro void
    cases void
  | demoted _ same =>
    refine reportedTold same ⟨sibling, faulted, stamp, confirmed, justified⟩ ?_ ?_
    · intro other
      cases other
    · intro other
      cases other
  | renegotiated _ same =>
    refine reportedTold same ⟨sibling, faulted, stamp, confirmed, justified⟩ ?_ ?_
    · intro other
      cases other
    · intro other
      cases other
  | kept _ _ _ same => exact toldSame same ⟨sibling, faulted, stamp, confirmed, justified⟩

theorem beforeTold {rs : RteSiteRole} (told : Told rs) (cycle : UInt32) (own : SiteRoleLocal) {io : ExecuteIo}
    (quiet : ∀ frame ∈ io.siblingFrame, frame.online = false) : Told (beforeDecision rs cycle own io) := by
  have polled := polledSibling (takeLocal { rs with cycle := cycle } own) cycle io.siblingFrame
  have begun (up : Bool) : Told (opened rs cycle own io.siblingFrame up) := by
    refine ⟨?_, told.faulted, told.stamp, told.confirmed, told.justified⟩
    rcases polled with old | fresh
    · exact (congrArg SiteRoleSibling.online old).trans told.sibling
    · exact quiet _ fresh
  exact beforeRule (fun _ _ told => toldOf told rfl) (fun _ => toldDecode) (fun _ told => toldOf told rfl) begun

structure Inv (s : Session) : Prop where
  told : Told s.rs
  counter : CounterBound s

theorem invStep {s : Session} {call : SiteRoleCall} (inv : Inv s) (admitted : Admitted s call) : Inv (step s call) := by
  by_cases executes : ∃ cycle own io, call = .execute cycle own io
  · obtain ⟨cycle, own, io, rfl⟩ := executes
    obtain ⟨later, lonely, quiet⟩ := admitted
    obtain ⟨s', decided_, last⟩ := executeDecided s.rs cycle own io
    have told := beforeTold inv.told cycle own quiet
    have listened := beforeListened s.rs cycle own io
    have at_ : (beforeDecision s.rs cycle own io).cycle = cycle := listened.cycle
    have counter : (beforeDecision s.rs cycle own io).bothStandbyCycles.toNat ≤ cycle.toNat := by
      rw [listened.bothStandbyCycles]
      exact counterBefore inv.counter later
    have alone : siblingOnlineFact (beforeDecision s.rs cycle own io) own = false := by
      unfold siblingOnlineFact
      split
      · rw [told.sibling, Bool.and_false]
      · exact lonely
    have next := toldDecided told (by rw [at_]; exact counter) alone decided_
    have count := decidedCounter decided_
    rcases last with ⟨_, equal⟩ | ⟨_, _, equal⟩ <;> refine ⟨?_, ?_⟩ <;>
      simp only [step, siteRoleCall, CounterBound, equal]
    · exact ⟨next.sibling, next.faulted, next.stamp, next.confirmed, next.justified⟩
    · exact le_trans count (Nat.succ_le_succ counter)
    · exact ⟨next.sibling, next.faulted, next.stamp, next.confirmed, next.justified⟩
    · exact le_trans count (Nat.succ_le_succ counter)
  · have aside : Aside s.rs.bothStandbyCycles (siteRoleCall s.rs call) :=
      asideRule (asideRules s.rs.bothStandbyCycles) (fun cycle own io equal => executes ⟨cycle, own, io, equal⟩)
        ⟨inv.told, rfl⟩
    have kept : (step s call).lastCycle = s.lastCycle := by
      cases call with
      | execute cycle own io => exact absurd ⟨cycle, own, io, rfl⟩ executes
      | _ => rfl
    refine ⟨aside.told, ?_⟩
    have bound := inv.counter
    unfold CounterBound at bound ⊢
    rw [kept, show (step s call).rs.bothStandbyCycles = s.rs.bothStandbyCycles from aside.counter]
    exact bound

/- REQ-SITEROLE-003 over every run of one channel. -/
theorem silenceNeverPromotes (rs : RteSiteRole) (setUp : SetUp rs) (alone : rs.sibling.online = false)
    (calls : List SiteRoleCall) (admitted : Always step Admitted ⟨rs, none⟩ calls) :
    Each Justified (run step ⟨rs, none⟩ calls).rs.roleLog ∧
      ConfirmedOnce (run step ⟨rs, none⟩ calls).rs.roleLog := by
  have start : Inv ⟨rs, none⟩ := by
    obtain ⟨_, _, _, _, _, _, ⟨_, rfl⟩, _⟩ := setUpSame setUp
    exact ⟨⟨alone, rfl, Or.inl rfl, fun void => (by cases void), True.intro⟩, rfl⟩
  have inv := invariantRun start (fun _ _ => invStep) admitted
  exact ⟨inv.told.justified, confirmedOnce inv.told.justified⟩

def confirmedTakeover : List SiteRoleCall :=
  [.execute 1 healthy brokenLink, .execute 2 healthy noLink, .onTakeoverConfirm 2, .execute 3 healthy noLink]

theorem confirmedTakeoverJustified :
    Each Justified (run step ⟨initialState (smallSite true), none⟩ confirmedTakeover).rs.roleLog ∧
      ConfirmedOnce (run step ⟨initialState (smallSite true), none⟩ confirmedTakeover).rs.roleLog :=
  silenceNeverPromotes _ (smallSiteReady true) rfl confirmedTakeover (by decide)

example : (run step ⟨initialState (smallSite true), none⟩ confirmedTakeover).rs.online = true := by decide

end PlatformRte.SiteRole.Silence
