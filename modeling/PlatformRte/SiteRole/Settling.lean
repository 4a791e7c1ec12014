import PlatformRte.SiteRole.TwoSite
import PlatformRte.SiteRole.FrameTrip

/-! What a pair of sites comes to in rounds in which nothing fails: each site makes one
cycle, and receives the frame the other one sent in the same round. The pair may start in
any state, reached or not. -/
namespace PlatformRte.SiteRole.Settling
open Machine RteSiteRole TwoSite

structure Turn where
  cycle : UInt32
  own : SiteRoleLocal
  io : ExecuteIo

/- Both sites send before either of them receives; who is the first in each half is open. -/
structure Round where
  turn : Party → Turn
  sends : Party
  receives : Party

def beginOf (r : Round) (p : Party) : Party × Action :=
  (p, .begin (r.turn p).cycle (r.turn p).own (r.turn p).io)

def finishOf (s : Sites) (p : Party) : Party × Action := (p, .finish (.frame (s.get p).inbox.length true))

def round (s : Sites) (r : Round) : Sites :=
  run step s [beginOf r r.sends, beginOf r r.sends.other, finishOf s r.receives, finishOf s r.receives.other]

/- One channel at each site, WEST is party one, and no call is half done. -/
structure Linked (s : Sites) : Prop where
  idle : ∀ p, (s.get p).pending = none
  west : (s.get .one).rs.cfg.isWest = true
  east : (s.get .two).rs.cfg.isWest = false
  room : ∀ p, frameOverhead < (s.get p).rs.cfg.frameSize
  frameSize : ∀ p, (s.get p.other).rs.cfg.frameSize = (s.get p).rs.cfg.frameSize
  alone : ∀ p, (s.get p).rs.cfg.siblingSource = false
  patient : ∀ p, (s.get p).rs.cfg.sendMissThreshold ≠ 0

structure Clean (faults : Party → Bool) (s : Sites) (r : Round) : Prop where
  link : ∀ p, linkUp (s.get p).rs (r.turn p).io = true
  sent : ∀ p, (r.turn p).io.sendStatus = .ok
  faulted : ∀ p, (r.turn p).own.faulted = faults p
  ready : ∀ p, (r.turn p).own.ownReady = true
  alone : ∀ p, Alone (r.turn p).own

structure Wired (s : Sites) : Prop where
  idle : ∀ p, (s.get p).pending = none
  room : ∀ p, frameOverhead < (s.get p).rs.cfg.frameSize
  frameSize : ∀ p, (s.get p.other).rs.cfg.frameSize = (s.get p).rs.cfg.frameSize
  patient : ∀ p, (s.get p).rs.cfg.sendMissThreshold ≠ 0

structure Unbroken (faults : Party → Bool) (s : Sites) (r : Round) : Prop where
  link : ∀ p, linkUp (s.get p).rs (r.turn p).io = true
  sent : ∀ p, (r.turn p).io.sendStatus = .ok
  faulted : ∀ p, (r.turn p).own.faulted = faults p

theorem Linked.wired {s : Sites} (linked : Linked s) : Wired s :=
  ⟨linked.idle, linked.room, linked.frameSize, linked.patient⟩

theorem Clean.unbroken {faults : Party → Bool} {s : Sites} {r : Round} (clean : Clean faults s r) :
    Unbroken faults s r :=
  ⟨clean.link, clean.sent, clean.faulted⟩

section Role

structure Role where
  online : Bool
  lost : Bool
  standbyCycles : UInt32
  deriving DecidableEq, Repr

def roleOf (rs : RteSiteRole) : Role := ⟨rs.online, rs.lostPeerWhileOnline, rs.bothStandbyCycles⟩

structure Facts where
  isWest : Bool
  ownFaulted : Bool
  peerOnline : Bool
  peerFaulted : Bool
  snapshot : Bool

def Role.next (r : Role) (f : Facts) : Role :=
  if f.peerFaulted then ⟨if f.ownFaulted then f.isWest else true, r.lost, 0⟩
  else if f.ownFaulted then if f.snapshot then ⟨false, false, 0⟩ else ⟨r.online, r.lost, 0⟩
  else if r.online then if f.peerOnline && r.lost then ⟨false, false, 0⟩ else ⟨true, r.lost, 0⟩
  else if f.peerOnline then ⟨false, r.lost, 0⟩
  else if f.isWest && decide (requiredStandbyCycles ≤ r.standbyCycles + 1) then ⟨true, r.lost, 0⟩
  else ⟨false, r.lost, r.standbyCycles + 1⟩

def Role.nextBeside (r : Role) (f : Facts) (siblingOnline : Bool) : Role :=
  if f.peerFaulted then ⟨if f.ownFaulted then f.isWest else true, r.lost, 0⟩
  else if f.ownFaulted then if f.snapshot then ⟨false, false, 0⟩ else ⟨r.online, r.lost, 0⟩
  else if r.online then if f.peerOnline && r.lost then ⟨false, false, 0⟩ else ⟨true, r.lost, 0⟩
  else if f.peerOnline then ⟨false, r.lost, 0⟩
  else if bothStandbyTiebreak (r.standbyCycles + 1) f.isWest siblingOnline then ⟨true, r.lost, 0⟩
  else ⟨false, r.lost, r.standbyCycles + 1⟩

theorem nextAlone (r : Role) (f : Facts) : r.nextBeside f false = r.next f := by
  simp only [Role.nextBeside, Role.next, bothStandbyTiebreak, Bool.false_and, Bool.false_or]

theorem sameRole {rs rs' : RteSiteRole} (same : Same rs rs') : roleOf rs' = roleOf rs := by
  obtain ⟨_, rfl⟩ := same
  rfl

def Role.applied (r : Role) (isWest : Bool) (d : SiteRoleDecision) : Role :=
  match d.action with
  | .promote => ⟨true, r.lost, d.bothStandbyCycles⟩
  | .demote => ⟨false, false, d.bothStandbyCycles⟩
  | .renegotiate => ⟨isWest, r.lost, d.bothStandbyCycles⟩
  | _ => ⟨r.online, r.lost, d.bothStandbyCycles⟩

theorem decidedRole {rs rs' : RteSiteRole} {own : SiteRoleLocal} (step : Decided rs own rs') :
    roleOf rs' = (roleOf rs).applied rs.cfg.isWest (decision rs own) := by
  cases step with
  | promoted action same =>
    rw [sameRole same, Role.applied, action]
    rfl
  | demoted action same =>
    rw [sameRole same, Role.applied, action]
    rfl
  | renegotiated action same =>
    rw [sameRole same, Role.applied, action]
    rfl
  | kept promote demote renegotiate same =>
    rw [sameRole same, Role.applied]
    cases action : (decision rs own).action
    case promote => exact absurd action promote
    case demote => exact absurd action demote
    case renegotiate => exact absurd action renegotiate
    all_goals rfl

structure Heard (i : SiteRoleInput) : Prop where
  linkUp : i.linkUp = true
  responsive : i.peerUnresponsive = false
  answering : peerAnswering i = true
  ready : pairReadyToPromote i = true
  faulted : i.peerFaulted = true → i.peerOnlineNow = false

theorem heardBeside {i : SiteRoleInput} (heard : Heard i) :
    Role.applied ⟨i.isOnline, i.lostPeerWhileOnline, i.bothStandbyCycles⟩ i.isWest (siteRoleDecide i)
      = Role.nextBeside ⟨i.isOnline, i.lostPeerWhileOnline, i.bothStandbyCycles⟩
          ⟨i.isWest, i.ownFaulted, i.peerOnlineNow, i.peerFaulted, i.peerSnapshotValid⟩ i.siblingOnline := by
  have first : siteRoleDecide i = firstRule i := by simp [siteRoleDecide, heard.ready]
  have noTakeover : takeoverRule i = false := by simp [takeoverRule, takeoverAllowed, heard.responsive]
  have dual : dualOnlineRule i = (i.isOnline && !i.ownFaulted && !i.peerFaulted && i.peerOnlineNow) := by
    simp [dualOnlineRule, heard.answering]
  have both : bothStandbyRule i = (!i.isOnline && !i.ownFaulted && !i.peerOnlineNow && !i.peerFaulted) := by
    simp [bothStandbyRule, heard.linkUp, heard.responsive, heard.answering]
  -- a counterpart that answers leaves nothing to the rule that follows the sibling
  have follow : followSiblingRule i = (!i.isOnline && !i.ownFaulted && i.siblingOnline && !i.peerFaulted &&
      !i.peerOnlineNow) := by
    simp [followSiblingRule, heard.answering]
  rw [first, firstRule, noTakeover, dual, both, follow, bothFaultedRule, peerFaultedRule, recoveredRule]
  cases pf : i.peerFaulted
  · cases own : i.ownFaulted
    · cases online : i.isOnline
      · cases po : i.peerOnlineNow
        · cases tie : bothStandbyTiebreak (i.bothStandbyCycles + 1) i.isWest i.siblingOnline <;>
            simp [Role.applied, Role.nextBeside, tie]
        · simp [Role.applied, Role.nextBeside]
      · cases po : i.peerOnlineNow <;> cases lost : i.lostPeerWhileOnline <;> simp [Role.applied, Role.nextBeside]
    · cases snapshot : i.peerSnapshotValid <;> simp [Role.applied, Role.nextBeside]
  · cases own : i.ownFaulted
    · cases online : i.isOnline <;> simp [Role.applied, Role.nextBeside, heard.faulted pf]
    · simp [Role.applied, Role.nextBeside]

end Role

section Rounds
variable {s : Sites} {r : Round} {faults : Party → Bool}

def begunSite (s : Sites) (r : Round) (p : Party) : Site :=
  { (act (s.get p) (beginOf r p).2).1 with
    inbox := (s.get p).inbox ++ (act (s.get p.other) (beginOf r p.other).2).2.toList }

def finishedSite (s : Sites) (r : Round) (p : Party) : Site := (act (begunSite s r p) (finishOf s p).2).1

theorem begunRound (p q : Party) :
    (run step s [beginOf r p, beginOf r p.other]).get q = begunSite s r q := by
  cases p <;> cases q <;> rfl

theorem finishSends (site : Site) (delivery : Delivery) : (act site (.finish delivery)).2 = none := by
  simp only [act]
  split <;> rfl

theorem finishedRound (before m : Sites) (p q : Party) :
    (run step m [finishOf before p, finishOf before p.other]).get q = (act (m.get q) (finishOf before q).2).1 := by
  have own (n : Sites) (p : Party) : (step n (finishOf before p)).get p = (act (n.get p) (finishOf before p).2).1 :=
    stepOwn n p _
  have other (n : Sites) (p : Party) : (step n (finishOf before p)).get p.other = n.get p.other := by
    rw [finishOf, stepOther, finishSends, Option.toList_none, List.append_nil]
  change (step (step m (finishOf before p)) (finishOf before p.other)).get q = _
  rcases Party.eqOrOther p q with rfl | rfl
  · have last := other (step m (finishOf before q)) q.other
    rw [Party.otherOther] at last
    rw [last, own]
  · rw [own, other]

theorem roundSite (p : Party) : (round s r).get p = finishedSite s r p := by
  have halves : round s r = run step (run step s [beginOf r r.sends, beginOf r r.sends.other])
      [finishOf s r.receives, finishOf s r.receives.other] := rfl
  rw [halves, finishedRound, begunRound, finishedSite]

def frameOf (s : Sites) (r : Round) (p : Party) : Bytes :=
  encodeFrame (s.get p).rs.cfg.frameSize (r.turn p).own.faulted (r.turn p).own.singleMode (r.turn p).cycle
    (s.get p).rs.online (r.turn p).io.region

def sentOf (s : Sites) (r : Round) (p : Party) : RteSiteRole :=
  opened (s.get p).rs (r.turn p).cycle (r.turn p).own (r.turn p).io.siblingFrame true

def heardOf (s : Sites) (r : Round) (p : Party) : RteSiteRole :=
  decodeFrame (buffered (sentOf s r p) (frameOf s r p.other))

theorem begunFrame (clean : Unbroken faults s r) (p : Party) :
    (act (s.get p) (beginOf r p).2).2 = some (frameOf s r p) :=
  (beginOpen (r.turn p).cycle (r.turn p).own (clean.link p)).1

theorem begunSame (clean : Unbroken faults s r) (p : Party) :
    ∃ m, Same (sentOf s r p) m ∧ (begunSite s r p).rs = m ∧ (begunSite s r p).pending = some ((r.turn p).own, true) ∧
      (begunSite s r p).inbox = (s.get p).inbox ++ [frameOf s r p.other] := by
  obtain ⟨frame, same⟩ := beginOpen (r.turn p).cycle (r.turn p).own (clean.link p)
  refine ⟨_, same, rfl, ?_, ?_⟩
  · simp only [begunSite, act, beginOf, frame, Option.map_some, clean.sent p, decide_true]
  · simp only [begunSite, begunFrame clean p.other, Option.toList_some]

theorem finishedDecided (linked : Wired s) (clean : Unbroken faults s r) (p : Party) :
    ∃ s', Decided (staleDropped (heardOf s r p)) (r.turn p).own s' ∧ Same s' (finishedSite s r p).rs ∧
      (finishedSite s r p).pending = none := by
  obtain ⟨m, same, rs, pending, inbox⟩ := begunSame clean p
  have reply : answer (begunSite s r p).inbox (.frame (s.get p).inbox.length true)
      = ⟨.ok, frameOf s r p.other, true⟩ := by
    simp [answer, inbox]
  have finished : finishedSite s r p = { begunSite s r p with
      rs := siteRoleExecuteFinish m (r.turn p).own true ⟨.ok, frameOf s r p.other, true⟩
      pending := none
      inbox := remaining (begunSite s r p).inbox (.frame (s.get p).inbox.length true) } := by
    simp only [finishedSite, finishOf, act, pending, rs, reply]
  have decoded : (receiveFrame (sentOf s r p) ⟨.ok, frameOf s r p.other, true⟩).1 = heardOf s r p := by
    have inside : frameStateOffset ≤ (sentOf s r p).cfg.frameSize :=
      Nat.le_of_lt (Nat.lt_trans (by decide) (linked.room p))
    simp only [receiveFrame, if_true, decodes, inside, decide_true, Bool.and_self]
    rfl
  obtain ⟨s', decides, kept | ⟨dead, _⟩⟩ :=
    finishDecided same (r.turn p).own true ⟨.ok, frameOf s r p.other, true⟩
  · rw [decoded] at decides
    rw [finished]
    exact ⟨s', decides, kept, rfl⟩
  · obtain ⟨kept, rfl⟩ := same
    have patient : ¬(s.get p).rs.cfg.sendMissThreshold ≤ 0 := fun least =>
      linked.patient p (UInt8.le_antisymm least (UInt8.zero_le))
    have alive : linkDead (countSendMiss ((sentOf s r p).keeping kept) true) .ok = false := by
      simp only [linkDead, countSendMiss, if_true, keepingCfg]
      simpa [sentOf, opened, pollSiblingSource, takeLocal] using patient
    rw [alive] at dead
    cases dead

theorem heardLearned (linked : Wired s) (clean : Unbroken faults s r) (p : Party) :
    Learned (faults p.other) (r.turn p.other).own.singleMode (r.turn p.other).cycle (s.get p.other).rs.online
      (sentOf s r p) (heardOf s r p) := by
  have room := linked.room p.other
  have size : (sentOf s r p).cfg.frameSize = (s.get p.other).rs.cfg.frameSize := (linked.frameSize p).symm
  rw [heardOf, frameOf, clean.faulted p.other]
  exact frameLearned _ _ _ _ _ _ room size

theorem snapshotKept {rs : RteSiteRole} (valid : rs.peerSnapshotValid = true) (now : rs.standbyRxCycle = rs.cycle) :
    (staleDropped rs).peerSnapshotValid = true := by
  have fresh : standbyDataStale rs.cfg.standbySync rs.online true rs.cycle rs.cycle = false := by
    simp [standbyDataStale, standbyDataTimeoutCycles]
  simp only [staleDropped, valid, now, fresh, Bool.not_false, Bool.and_self]

theorem heardAnswer (linked : Wired s) (clean : Unbroken faults s r) (p : Party)
    (ready : pairReadyToPromote (buildDecisionInput (staleDropped (heardOf s r p)) (r.turn p).own) = true) :
    Heard (buildDecisionInput (staleDropped (heardOf s r p)) (r.turn p).own) := by
  have learned := heardLearned linked clean p
  have cycle : (heardOf s r p).cycle = (sentOf s r p).cycle := rfl
  refine ⟨rfl, learned.confirmed.1, ?_, ready, ?_⟩
  · simp only [peerAnswering, buildDecisionInput, staleDropped, learned.answering, cycle]
    simp
  · intro faulted
    have peer : faults p.other = true := learned.peerFaulted.symm.trans faulted
    exact learned.peerOnlineNow.trans (by rw [peer, Bool.not_true, Bool.and_false])

theorem aloneInput (linked : Linked s) (clean : Clean faults s r) (p : Party) :
    pairReadyToPromote (buildDecisionInput (staleDropped (heardOf s r p)) (r.turn p).own) = true ∧
      (buildDecisionInput (staleDropped (heardOf s r p)) (r.turn p).own).siblingOnline = false := by
  obtain ⟨online, ready, reachable⟩ := clean.alone p
  have own : (heardOf s r p).cfg.siblingSource = false := linked.alone p
  constructor
  · simp only [pairReadyToPromote, buildDecisionInput, staleDropped, siblingReachableFact, own, Bool.false_eq_true,
      if_false, reachable, clean.ready p, Bool.not_false, Bool.or_true, Bool.and_self]
  · simp only [buildDecisionInput, staleDropped, siblingOnlineFact, own, Bool.false_eq_true, if_false, online]

theorem roundBeside (linked : Wired s) (clean : Unbroken faults s r) (p : Party)
    (ready : pairReadyToPromote (buildDecisionInput (staleDropped (heardOf s r p)) (r.turn p).own) = true) :
    ∃ snapshot, ((s.get p.other).rs.online = true → snapshot = true) ∧
      roleOf ((round s r).get p).rs = (roleOf (s.get p).rs).nextBeside
        ⟨(s.get p).rs.cfg.isWest, faults p, (s.get p.other).rs.online && !faults p.other, faults p.other, snapshot⟩
        (buildDecisionInput (staleDropped (heardOf s r p)) (r.turn p).own).siblingOnline := by
  have learned := heardLearned linked clean p
  obtain ⟨s', decides, same, _⟩ := finishedDecided linked clean p
  refine ⟨(staleDropped (heardOf s r p)).peerSnapshotValid, fun live => ?_, ?_⟩
  · obtain ⟨_, valid, now⟩ := learned.snapshot live
    exact snapshotKept valid now
  · have own : (buildDecisionInput (staleDropped (heardOf s r p)) (r.turn p).own).ownFaulted = faults p :=
      clean.faulted p
    have peer : (buildDecisionInput (staleDropped (heardOf s r p)) (r.turn p).own).peerFaulted = faults p.other :=
      learned.peerFaulted
    have live : (buildDecisionInput (staleDropped (heardOf s r p)) (r.turn p).own).peerOnlineNow =
        ((s.get p.other).rs.online && !faults p.other) := learned.peerOnlineNow
    have step := heardBeside (heardAnswer linked clean p ready)
    rw [own, peer, live] at step
    rw [roundSite, sameRole same, decidedRole decides]
    exact step

theorem roundRole (linked : Linked s) (clean : Clean faults s r) (p : Party) :
    ∃ snapshot, ((s.get p.other).rs.online = true → snapshot = true) ∧
      roleOf ((round s r).get p).rs = (roleOf (s.get p).rs).next
        ⟨(s.get p).rs.cfg.isWest, faults p, (s.get p.other).rs.online && !faults p.other, faults p.other, snapshot⟩ := by
  obtain ⟨ready, alone⟩ := aloneInput linked clean p
  obtain ⟨snapshot, held, next⟩ := roundBeside linked.wired clean.unbroken p ready
  rw [alone, nextAlone] at next
  exact ⟨snapshot, held, next⟩

theorem roundCfg (linked : Wired s) (clean : Unbroken faults s r) (p : Party) :
    ((round s r).get p).rs.cfg = (s.get p).rs.cfg := by
  obtain ⟨s', decides, ⟨_, same⟩, _⟩ := finishedDecided linked clean p
  rw [roundSite, same, keepingCfg, (decidedUntouched decides).cfg]
  rfl

theorem roundWired (linked : Wired s) (clean : Unbroken faults s r) : Wired (round s r) := by
  have cfg := roundCfg linked clean
  refine ⟨fun p => ?_, fun p => ?_, fun p => ?_, fun p => ?_⟩
  · obtain ⟨_, _, _, pending⟩ := finishedDecided linked clean p
    rw [roundSite, pending]
  · rw [cfg]
    exact linked.room p
  · rw [cfg, cfg]
    exact linked.frameSize p
  · rw [cfg]
    exact linked.patient p

theorem roundLinked (linked : Linked s) (clean : Clean faults s r) : Linked (round s r) := by
  have cfg := roundCfg linked.wired clean.unbroken
  have wired := roundWired linked.wired clean.unbroken
  exact ⟨wired.idle, by rw [cfg, linked.west], by rw [cfg, linked.east], wired.room, wired.frameSize,
    fun p => by rw [cfg, linked.alone p], wired.patient⟩

end Rounds

section Pairs
variable {faults : Party → Bool} {a b : Pair Role}

def rolesOf (s : Sites) : Pair Role := s.at_.map fun site => roleOf site.rs

def Follows (faults : Party → Bool) (a b : Pair Role) : Prop :=
  ∀ p, ∃ snapshot, ((a.get p.other).online = true → snapshot = true) ∧
    b.get p = (a.get p).next
      ⟨p == .one, faults p, (a.get p.other).online && !faults p.other, faults p.other, snapshot⟩

theorem roundFollows {s : Sites} {r : Round} (linked : Linked s) (clean : Clean faults s r) :
    Follows faults (rolesOf s) (rolesOf (round s r)) := by
  intro p
  obtain ⟨snapshot, held, next⟩ := roundRole linked clean p
  have west : (s.get p).rs.cfg.isWest = (p == .one) := by
    cases p with
    | one => exact linked.west
    | two => exact linked.east
  rw [west] at next
  refine ⟨snapshot, ?_, ?_⟩
  · rw [rolesOf, Pair.getMap]
    exact held
  · rw [rolesOf, rolesOf, Pair.getMap, Pair.getMap, Pair.getMap]
    exact next

def Settled (faults : Party → Bool) (a : Pair Role) : Prop :=
  ∃ p, (a.get p).online = true ∧ (a.get p.other).online = false ∧
    (faults p = true → faults p.other = true ∧ p = .one)

def Split (faults : Party → Bool) (a : Pair Role) : Prop :=
  ∀ p, faults p = false ∧ (a.get p).online = true ∧ (a.get p).lost = false

theorem bothFaultedRound (all : ∀ p, faults p = true) (follows : Follows faults a b) :
    b.one.online = true ∧ b.two.online = false := by
  obtain ⟨_, _, one⟩ := follows .one
  obtain ⟨_, _, two⟩ := follows .two
  simp only [all, Role.next, if_true] at one two
  exact ⟨congrArg Role.online one, congrArg Role.online two⟩

theorem oneFaultedRound {p : Party} (faulted : faults p = true) (sound : faults p.other = false)
    (follows : Follows faults a b) :
    (b.get p.other).online = true ∧ ((a.get p.other).online = true → (b.get p).online = false) := by
  obtain ⟨_, _, other⟩ := follows p.other
  obtain ⟨snapshot, held, own⟩ := follows p
  rw [Party.otherOther] at other
  simp only [faulted, sound, Role.next, if_true, Bool.false_eq_true, if_false] at other own
  refine ⟨congrArg Role.online other, fun online => ?_⟩
  rw [held online, if_pos rfl] at own
  exact congrArg Role.online own

section Sound
variable (sound : ∀ p, faults p = false) (follows : Follows faults a b)
include sound follows

theorem soundOnline {p : Party} (online : (a.get p).online = true) :
    b.get p = if (a.get p.other).online && (a.get p).lost then ⟨false, false, 0⟩ else ⟨true, (a.get p).lost, 0⟩ := by
  obtain ⟨_, _, own⟩ := follows p
  simpa only [sound, Role.next, online, Bool.not_false, Bool.and_true, Bool.false_eq_true, if_false, if_true] using own

theorem soundFollower {p : Party} (standby : (a.get p).online = false) (online : (a.get p.other).online = true) :
    (b.get p).online = false := by
  obtain ⟨_, _, own⟩ := follows p
  simp only [sound, Role.next, standby, online, Bool.not_false, Bool.and_true, Bool.false_eq_true, if_false,
    if_true] at own
  exact congrArg Role.online own

theorem soundStandby {p : Party} (standby : (a.get p).online = false) (other : (a.get p.other).online = false) :
    b.get p = if p == .one && decide (requiredStandbyCycles ≤ (a.get p).standbyCycles + 1)
      then ⟨true, (a.get p).lost, 0⟩ else ⟨false, (a.get p).lost, (a.get p).standbyCycles + 1⟩ := by
  obtain ⟨_, _, own⟩ := follows p
  simpa only [sound, Role.next, standby, other, Bool.false_and, Bool.false_eq_true, if_false] using own

end Sound
def standbyLeft (standbyCycles : UInt32) : Nat :=
  if requiredStandbyCycles ≤ standbyCycles + 1 then 1 else 7 - (standbyCycles + 1).toNat

def faultedLeft (faulted sound : Role) : Nat :=
  if sound.online then if faulted.online then 1 else 0 else 2

def roundsLeft (faults : Party → Bool) (a : Pair Role) : Nat :=
  match faults .one, faults .two with
  | true, true => if a.one.online && !a.two.online then 0 else 1
  | true, false => faultedLeft a.one a.two
  | false, true => faultedLeft a.two a.one
  | false, false =>
    match a.one.online, a.two.online with
    | true, true => if a.one.lost && a.two.lost then 7 else 1
    | false, false => standbyLeft a.one.standbyCycles
    | _, _ => 0

theorem standbyLeftPositive (c : UInt32) : 0 < standbyLeft c ∧ standbyLeft c ≤ 7 := by
  unfold standbyLeft
  split
  · decide
  · rename_i few
    have less : (c + 1).toNat < 6 := by simpa [UInt32.le_iff_toNat_le, requiredStandbyCycles] using few
    omega

theorem standbyLeftFalls {c : UInt32} (few : ¬requiredStandbyCycles ≤ c + 1) :
    standbyLeft (c + 1) ≤ standbyLeft c - 1 := by
  have less : (c + 1).toNat < 6 := by simpa [UInt32.le_iff_toNat_le, requiredStandbyCycles] using few
  have next : (c + 1 + 1).toNat = (c + 1).toNat + 1 := by
    rw [UInt32.toNat_add]
    exact Nat.mod_eq_of_lt (by change (c + 1).toNat + 1 < 2 ^ 32; omega)
  rw [standbyLeft, standbyLeft, if_neg few, next]
  split
  · omega
  · omega

theorem roundsLeftBound (faults : Party → Bool) (a : Pair Role) : roundsLeft faults a ≤ 7 := by
  unfold roundsLeft faultedLeft
  split
  · split <;> decide
  · split <;> (try split) <;> decide
  · split <;> (try split) <;> decide
  · split
    · split <;> decide
    · exact (standbyLeftPositive _).2
    · decide

theorem settledNow (now : roundsLeft faults a = 0) : Settled faults a := by
  unfold roundsLeft faultedLeft at now
  cases one : faults .one <;> cases two : faults .two <;> simp only [one, two] at now
  · cases west : a.one.online <;> cases east : a.two.online <;> simp only [west, east] at now
    · exact absurd now (Nat.ne_of_gt (standbyLeftPositive _).1)
    · exact ⟨.two, east, west, by simp [two]⟩
    · exact ⟨.one, west, east, by simp [one]⟩
    · split at now <;> cases now
  · cases west : a.one.online <;> cases east : a.two.online <;> simp [west, east] at now
    exact ⟨.one, west, east, by simp [one]⟩
  · cases west : a.one.online <;> cases east : a.two.online <;> simp [west, east] at now
    exact ⟨.two, east, west, by simp [two]⟩
  · cases west : a.one.online <;> cases east : a.two.online <;> simp [west, east] at now
    exact ⟨.one, west, east, fun _ => ⟨two, rfl⟩⟩

theorem splitStays (split : Split faults a) (follows : Follows faults a b) : Split faults b := by
  intro p
  obtain ⟨sound, online, kept⟩ := split p
  have own := soundOnline (fun q => (split q).1) follows online
  rw [kept, Bool.and_false, if_neg Bool.false_ne_true] at own
  exact ⟨sound, congrArg Role.online own, congrArg Role.lost own⟩

theorem splitBefore (split : Split faults b) (follows : Follows faults a b) : Split faults a := by
  have sound (p : Party) : faults p = false := (split p).1
  have was (p : Party) (online : (a.get p).online = true) : (a.get p.other).online = true := by
    by_contra standby
    have follower := soundFollower sound follows (p := p.other) (Bool.eq_false_iff.mpr standby)
      (by rwa [Party.otherOther])
    rw [(split p.other).2.1] at follower
    cases follower
  have both (p : Party) : (a.get p).online = true := by
    by_contra standby
    have alone : (a.get p.other).online = false := Bool.eq_false_iff.mpr fun online => by
      have back := was p.other online
      rw [Party.otherOther] at back
      exact standby back
    -- nobody was ONLINE, and EAST does not get there by counting
    have east : (a.get .two).online = false ∧ (a.get Party.two.other).online = false := by
      cases p with
      | one => exact ⟨alone, Bool.eq_false_iff.mpr standby⟩
      | two => exact ⟨Bool.eq_false_iff.mpr standby, alone⟩
    have stays := soundStandby sound follows east.1 east.2
    have online := (split .two).2.1
    rw [stays] at online
    cases online
  intro p
  have own := soundOnline sound follows (both p)
  have online := (split p).2.1
  have kept := (split p).2.2
  rw [own, both p.other, Bool.true_and] at online kept
  cases lost : (a.get p).lost
  · exact ⟨sound p, both p, rfl⟩
  · rw [lost, if_pos rfl] at online
    cases online

theorem soundFalls (sound : ∀ p, faults p = false) (unsplit : ¬Split faults a) (follows : Follows faults a b) :
    roundsLeft faults b ≤ roundsLeft faults a - 1 := by
  simp only [roundsLeft, sound]
  cases west : a.one.online <;> cases east : a.two.online <;> dsimp only
  · have one := soundStandby sound follows (p := .one) west east
    have two := soundStandby sound follows (p := .two) east west
    change b.two = _ at two
    change b.one = _ at one
    rw [two]
    by_cases six : requiredStandbyCycles ≤ a.one.standbyCycles + 1
    · rw [one]
      simp [Pair.get, six]
    · rw [one]
      simpa [Pair.get, six] using standbyLeftFalls six
  · have one := soundFollower sound follows (p := .one) west east
    have two := soundOnline sound follows (p := .two) east
    have other : (a.get Party.two.other).online = false := west
    rw [other, Bool.false_and, if_neg Bool.false_ne_true] at two
    change b.two = _ at two
    change b.one.online = _ at one
    rw [one, two]
  · have two := soundFollower sound follows (p := .two) east west
    have one := soundOnline sound follows (p := .one) west
    have other : (a.get Party.one.other).online = false := east
    rw [other, Bool.false_and, if_neg Bool.false_ne_true] at one
    change b.one = _ at one
    change b.two.online = _ at two
    rw [two, one]
  · have one := soundOnline sound follows (p := .one) west
    have two := soundOnline sound follows (p := .two) east
    have otherOne : (a.get Party.one.other).online = true := east
    have otherTwo : (a.get Party.two.other).online = true := west
    rw [otherOne, Bool.true_and] at one
    rw [otherTwo, Bool.true_and] at two
    change b.one = if a.one.lost then _ else _ at one
    change b.two = if a.two.lost then _ else _ at two
    cases lostOne : a.one.lost <;> cases lostTwo : a.two.lost <;> rw [lostOne] at one <;> rw [lostTwo] at two
    · exact absurd (fun p => by cases p <;> exact ⟨sound _, by assumption, by assumption⟩) unsplit
    · simp [one, two]
    · simp [one, two]
    · simp [one, two, standbyLeft, requiredStandbyCycles]

theorem faultedFalls {p : Party} (faulted : faults p = true) (sound : faults p.other = false)
    (follows : Follows faults a b) : faultedLeft (b.get p) (b.get p.other) ≤
      faultedLeft (a.get p) (a.get p.other) - 1 := by
  obtain ⟨other, own⟩ := oneFaultedRound faulted sound follows
  unfold faultedLeft
  rw [other]
  cases was : (a.get p.other).online
  · cases (b.get p).online <;> simp
  · simp [own was]

theorem roundFalls (unsplit : ¬Split faults a) (follows : Follows faults a b) :
    roundsLeft faults b ≤ roundsLeft faults a - 1 := by
  cases one : faults .one <;> cases two : faults .two
  · exact soundFalls (fun p => by cases p <;> assumption) unsplit follows
  · have falls := faultedFalls (p := .two) two one follows
    simp only [roundsLeft, one, two]
    exact falls
  · have falls := faultedFalls (p := .one) one two follows
    simp only [roundsLeft, one, two]
    exact falls
  · obtain ⟨west, east⟩ := bothFaultedRound (fun p => by cases p <;> assumption) follows
    simp [roundsLeft, one, two, west, east]

end Pairs

/- From any state of the two sites, seven rounds without a failure settle the pair, and it
stays settled. The one exception is a pair of sound sites that are both ONLINE and know
nothing of a lost contact: they stay as they are, however long the rounds go on. -/
theorem pairSettles {s : Sites} {rounds : List Round} {faults : Party → Bool} (linked : Linked s)
    (clean : Always round (Clean faults) s rounds) (enough : 7 ≤ rounds.length) :
    (¬Split faults (rolesOf s) → Settled faults (rolesOf (run round s rounds))) ∧
      (Split faults (rolesOf s) → Split faults (rolesOf (run round s rounds))) := by
  constructor
  · intro unsplit
    have keep : ∀ m e, Linked m ∧ ¬Split faults (rolesOf m) → Clean faults m e →
        Linked (round m e) ∧ ¬Split faults (rolesOf (round m e)) := by
      rintro m e ⟨inv, apart⟩ admitted
      exact ⟨roundLinked inv admitted, fun later => apart (splitBefore later (roundFollows inv admitted))⟩
    have left : roundsLeft faults (rolesOf (run round s rounds)) ≤ roundsLeft faults (rolesOf s) - rounds.length :=
      rankRun (fun m => roundsLeft faults (rolesOf m)) ⟨linked, unsplit⟩ keep
        (fun m e inv admitted => roundFalls inv.2 (roundFollows inv.1 admitted)) clean
    have most := roundsLeftBound faults (rolesOf s)
    exact settledNow (Nat.le_zero.mp (by omega))
  · intro split
    have keep : ∀ m e, Linked m ∧ Split faults (rolesOf m) → Clean faults m e →
        Linked (round m e) ∧ Split faults (rolesOf (round m e)) := by
      rintro m e ⟨inv, apart⟩ admitted
      exact ⟨roundLinked inv admitted, splitStays apart (roundFollows inv admitted)⟩
    exact (invariantRun ⟨linked, split⟩ keep clean).2

def quietRound (cycle : UInt32) : Round := ⟨fun _ => ⟨cycle, healthy, silentCycle⟩, .one, .two⟩

theorem quietClean (s : Sites) (cycle : UInt32) : Clean (fun _ => false) s (quietRound cycle) :=
  ⟨fun _ => Bool.or_true _, fun _ => rfl, fun _ => rfl, fun _ => rfl, fun _ => ⟨rfl, rfl, rfl⟩⟩

def bothStandby : Sites :=
  ⟨⟨⟨initialState (smallSite true), none, [], none⟩, ⟨initialState (smallSite false), none, [], none⟩⟩, []⟩

theorem bothStandbyLinked : Linked bothStandby := by
  refine ⟨?_, rfl, rfl, ?_, ?_, ?_, ?_⟩
  all_goals
    intro p
    cases p <;> decide

theorem bothStandbySettles :
    ¬Split (fun _ => false) (rolesOf bothStandby) ∧
      Settled (fun _ => false) (rolesOf (run round bothStandby ([1, 2, 3, 4, 5, 6, 7].map quietRound))) := by
  have unsplit : ¬Split (fun _ => false) (rolesOf bothStandby) := fun split => Bool.noConfusion (split .one).2.1
  have clean : Always round (Clean fun _ => false) bothStandby ([1, 2, 3, 4, 5, 6, 7].map quietRound) := by
    intro before r after split
    obtain ⟨cycle, _, rfl⟩ := List.mem_map.mp (split ▸ List.mem_append_right before List.mem_cons_self)
    exact quietClean _ cycle
  exact ⟨unsplit, (pairSettles bothStandbyLinked clean (by decide)).1 unsplit⟩

end PlatformRte.SiteRole.Settling
