import PlatformRte.SiteRole.Settling
import PlatformRte.SiteRole.SiblingCheck

/-! Two sites of two channels each, in rounds in which nothing fails: channel A of one site is
linked to channel A of the other, B to B, and the two channels of a site hear of each other
what each of them was after the round before. The channels may start in any state. -/
namespace PlatformRte.SiteRole.FourChannels
open Machine RteSiteRole TwoSite Settling

/- The links A (party one) and B, each with its channel at WEST (party one) and at EAST. -/
abbrev Lanes := Pair Sites

def channel (four : Lanes) (lane p : Party) : RteSiteRole := ((four.get lane).get p).rs

def siblingFrame (four : Lanes) (r : Pair Round) (lane p : Party) : SiteRoleSibling :=
  let own := ((r.get lane.other).turn p).own
  ⟨true, (channel four lane.other p).online, own.singleMode, own.ownReady⟩

def laneRound (four : Lanes) (r : Pair Round) (lane : Party) : Round :=
  { r.get lane with
    turn := fun p =>
      let turn := (r.get lane).turn p
      { turn with io := { turn.io with siblingFrame := some (siblingFrame four r lane p) } } }

def roundFour (four : Lanes) (r : Pair Round) : Lanes :=
  ⟨round four.one (laneRound four r .one), round four.two (laneRound four r .two)⟩

theorem roundLane (four : Lanes) (r : Pair Round) (lane : Party) :
    (roundFour four r).get lane = round (four.get lane) (laneRound four r lane) := by
  cases lane <;> rfl

structure Joined (four : Lanes) : Prop where
  wired : ∀ lane, Wired (four.get lane)
  west : ∀ lane, (channel four lane .one).cfg.isWest = true
  east : ∀ lane, (channel four lane .two).cfg.isWest = false
  source : ∀ lane p, (channel four lane p).cfg.siblingSource = true

/- faults: what each site reports at each lane. All four channels run paired and are ready. -/
structure Untroubled (faults : Party → Party → Bool) (four : Lanes) (r : Pair Round) : Prop where
  unbroken : ∀ lane, Unbroken (faults lane) (four.get lane) (r.get lane)
  paired : ∀ lane p, ((r.get lane).turn p).own.singleMode = false
  ready : ∀ lane p, ((r.get lane).turn p).own.ownReady = true

section Rounds
variable {four : Lanes} {r : Pair Round} {faults : Party → Party → Bool}

theorem laneUnbroken (clean : Untroubled faults four r) (lane : Party) :
    Unbroken (faults lane) (four.get lane) (laneRound four r lane) := by
  obtain ⟨link, sent, faulted⟩ := clean.unbroken lane
  exact ⟨link, sent, faulted⟩

theorem frameTaken {rs : RteSiteRole} (source : rs.cfg.siblingSource = true) (cycle : UInt32) (own : SiteRoleLocal)
    (frame : SiteRoleSibling) (up : Bool) :
    (opened rs cycle own (some frame) up).sibling = frame ∧
      (opened rs cycle own (some frame) up).cfg.siblingSource = true := by
  have kept : (takeLocal { rs with cycle := cycle } own).cfg.siblingSource = true := source
  simp [opened, pollSiblingSource, kept]

theorem besideInput (joined : Joined four) (clean : Untroubled faults four r) (lane p : Party) :
    let turn := (laneRound four r lane).turn p
    let input := buildDecisionInput (staleDropped (heardOf (four.get lane) (laneRound four r lane) p)) turn.own
    pairReadyToPromote input = true ∧ input.siblingOnline = (channel four lane.other p).online := by
  obtain ⟨taken, asks⟩ := frameTaken (joined.source lane p) ((r.get lane).turn p).cycle ((r.get lane).turn p).own
    (siblingFrame four r lane p) true
  have kept : (heardOf (four.get lane) (laneRound four r lane) p).sibling = siblingFrame four r lane p := taken
  have cfg : (heardOf (four.get lane) (laneRound four r lane) p).cfg.siblingSource = true := asks
  have ready : ((laneRound four r lane).turn p).own.ownReady = true := clean.ready lane p
  have siblingReady : ((r.get lane.other).turn p).own.ownReady = true := clean.ready lane.other p
  constructor
  · simp only [pairReadyToPromote, buildDecisionInput, staleDropped, siblingOnlineFact, siblingReadyFact, cfg, if_true,
      kept, siblingFrame, ready, siblingReady, Bool.true_and, Bool.or_true, Bool.true_or, Bool.and_self]
  · simp only [buildDecisionInput, staleDropped, siblingOnlineFact, cfg, if_true, kept, siblingFrame, Bool.true_and]

theorem roundJoined (joined : Joined four) (clean : Untroubled faults four r) : Joined (roundFour four r) := by
  have cfg (lane p : Party) : (channel (roundFour four r) lane p).cfg = (channel four lane p).cfg := by
    rw [channel, roundLane]
    exact roundCfg (joined.wired lane) (laneUnbroken clean lane) p
  refine ⟨fun lane => ?_, fun lane => ?_, fun lane => ?_, fun lane p => ?_⟩
  · rw [roundLane]
    exact roundWired (joined.wired lane) (laneUnbroken clean lane)
  · rw [cfg, joined.west]
  · rw [cfg, joined.east]
  · rw [cfg, joined.source]

def FollowsBeside (faults : Party → Bool) (beside : Party → Bool) (a b : Pair Role) : Prop :=
  ∀ p, ∃ snapshot, ((a.get p.other).online = true → snapshot = true) ∧
    b.get p = (a.get p).nextBeside
      ⟨p == .one, faults p, (a.get p.other).online && !faults p.other, faults p.other, snapshot⟩ (beside p)

theorem laneFollows (joined : Joined four) (clean : Untroubled faults four r) (lane : Party) :
    FollowsBeside (faults lane) (fun p => (channel four lane.other p).online) (rolesOf (four.get lane))
      (rolesOf ((roundFour four r).get lane)) := by
  intro p
  obtain ⟨ready, beside⟩ := besideInput joined clean lane p
  obtain ⟨snapshot, held, next⟩ := roundBeside (joined.wired lane) (laneUnbroken clean lane) p ready
  have west : ((four.get lane).get p).rs.cfg.isWest = (p == .one) := by
    cases p with
    | one => exact joined.west lane
    | two => exact joined.east lane
  rw [beside, west] at next
  refine ⟨snapshot, ?_, ?_⟩
  · rw [rolesOf, Pair.getMap]
    exact held
  · rw [roundLane, rolesOf, rolesOf, Pair.getMap, Pair.getMap, Pair.getMap]
    exact next

end Rounds

section Lanes
variable {faults beside : Party → Bool} {a b : Pair Role}

theorem faultedFollows {q : Party} (faulted : faults q = true) (follows : FollowsBeside faults beside a b) :
    Follows faults a b := by
  intro p
  obtain ⟨snapshot, held, next⟩ := follows p
  refine ⟨snapshot, held, next.trans ?_⟩
  simp only [Role.nextBeside, Role.next]
  rcases Party.eqOrOther p q with rfl | rfl
  · simp only [faulted, if_true]
  · simp only [faulted, if_true]

theorem faultedUnsplit {q : Party} (faulted : faults q = true) : ¬Split faults a := fun split => by
  rw [(split q).1] at faulted
  cases faulted

def lostLeft (a : Pair Role) : Nat :=
  if a.one.lost && a.two.lost then 7 else if a.one.lost || a.two.lost then 1 else 0

def laneLeft (faults : Party → Bool) (a : Pair Role) : Nat :=
  if faults .one || faults .two then roundsLeft faults a
  else
    match a.one.online, a.two.online with
    | true, true => lostLeft a
    | false, false => standbyLeft a.one.standbyCycles + lostLeft a
    | _, _ => 0

theorem lostLeftBound (a : Pair Role) : lostLeft a ≤ 7 := by
  unfold lostLeft
  split_ifs <;> decide

theorem noneLost (none : lostLeft a = 0) : a.one.lost = false ∧ a.two.lost = false := by
  unfold lostLeft at none
  cases one : a.one.lost <;> cases two : a.two.lost <;> simp [one, two] at none ⊢

theorem laneLeftBound (faults : Party → Bool) (a : Pair Role) : laneLeft faults a ≤ 14 := by
  have lost := lostLeftBound a
  unfold laneLeft
  split
  · exact Nat.le_trans (roundsLeftBound faults a) (by decide)
  · split
    · omega
    · have standby := (standbyLeftPositive a.one.standbyCycles).2
      omega
    · exact Nat.zero_le _

theorem soundBeside (sound : ∀ p, faults p = false) (follows : FollowsBeside faults beside a b) (p : Party) :
    b.get p =
      if (a.get p).online then
        if (a.get p.other).online && (a.get p).lost then ⟨false, false, 0⟩ else ⟨true, (a.get p).lost, 0⟩
      else if (a.get p.other).online then ⟨false, (a.get p).lost, 0⟩
      else if bothStandbyTiebreak ((a.get p).standbyCycles + 1) (p == .one) (beside p) then ⟨true, (a.get p).lost, 0⟩
      else ⟨false, (a.get p).lost, (a.get p).standbyCycles + 1⟩ := by
  obtain ⟨_, _, own⟩ := follows p
  simpa only [sound, Role.nextBeside, Bool.not_false, Bool.and_true, Bool.false_eq_true, if_false] using own

theorem standbyBeside (sound : ∀ p, faults p = false) (follows : FollowsBeside faults beside a b)
    (standby : ∀ p, (a.get p).online = false) (p : Party) :
    b.get p =
      if bothStandbyTiebreak ((a.get p).standbyCycles + 1) (p == .one) (beside p) then ⟨true, (a.get p).lost, 0⟩
      else ⟨false, (a.get p).lost, (a.get p).standbyCycles + 1⟩ := by
  rw [soundBeside sound follows p]
  simp only [standby, Bool.false_eq_true, if_false]

theorem standbyFalls (sound : ∀ p, faults p = false) (follows : FollowsBeside faults beside a b)
    (standby : ∀ p, (a.get p).online = false) :
    laneLeft faults b ≤ standbyLeft a.one.standbyCycles + lostLeft a - 1 := by
  have next := standbyBeside sound follows standby
  have kept (p : Party) : (b.get p).lost = (a.get p).lost := by
    rw [next p]
    split <;> rfl
  have lost : lostLeft b = lostLeft a := by
    have one : b.one.lost = a.one.lost := kept .one
    have two : b.two.lost = a.two.lost := kept .two
    rw [lostLeft, lostLeft, one, two]
  have left := (standbyLeftPositive a.one.standbyCycles).1
  have west : b.one = _ := next .one
  simp only [laneLeft, sound, Bool.or_self, Bool.false_eq_true, if_false, lost]
  by_cases joins : bothStandbyTiebreak (a.one.standbyCycles + 1) true (beside .one) = true
  · have online : b.one.online = true := by
      rw [west]
      exact congrArg Role.online (if_pos joins)
    rw [online]
    cases b.two.online
    · exact Nat.zero_le _
    · dsimp only
      omega
  · have few : ¬requiredStandbyCycles ≤ a.one.standbyCycles + 1 := fun enough =>
      joins (by simp [bothStandbyTiebreak, enough])
    have stays : b.one = ⟨false, a.one.lost, a.one.standbyCycles + 1⟩ := west.trans (if_neg joins)
    have falls := standbyLeftFalls few
    rw [stays]
    cases b.two.online
    · dsimp only
      omega
    · exact Nat.zero_le _

theorem soundLaneFalls (sound : ∀ p, faults p = false) (follows : FollowsBeside faults beside a b) :
    laneLeft faults b ≤ laneLeft faults a - 1 := by
  have one : b.one = _ := soundBeside sound follows .one
  have two : b.two = _ := soundBeside sound follows .two
  simp only [Pair.get, Party.other] at one two
  cases west : a.one.online <;> cases east : a.two.online
  · have falls := standbyFalls sound follows fun p => by cases p <;> assumption
    have before : laneLeft faults a = standbyLeft a.one.standbyCycles + lostLeft a := by
      simp only [laneLeft, sound, Bool.or_self, Bool.false_eq_true, if_false, west, east]
    rw [before]
    exact falls
  · simp [laneLeft, sound, one, two, west, east]
  · simp [laneLeft, sound, one, two, west, east]
  · cases lostOne : a.one.lost <;> cases lostTwo : a.two.lost <;>
      simp [laneLeft, sound, one, two, west, east, lostLeft, lostOne, lostTwo, standbyLeft, requiredStandbyCycles]

theorem laneFalls (follows : FollowsBeside faults beside a b) : laneLeft faults b ≤ laneLeft faults a - 1 := by
  by_cases some_ : ∃ q, faults q = true
  · obtain ⟨q, faulted⟩ := some_
    have either : (faults .one || faults .two) = true := by
      cases q <;> simp [faulted]
    simp only [laneLeft, either, if_true]
    exact roundFalls (faultedUnsplit faulted) (faultedFollows faulted follows)
  · exact soundLaneFalls (fun p => Bool.eq_false_iff.mpr fun faulted => some_ ⟨p, faulted⟩) follows

theorem atRest (rest : laneLeft faults a = 0) : Settled faults a ∨ Split faults a := by
  unfold laneLeft at rest
  split at rest
  · exact Or.inl (settledNow rest)
  · rename_i sound
    obtain ⟨one, two⟩ : faults .one = false ∧ faults .two = false := by simpa using sound
    have left := (standbyLeftPositive a.one.standbyCycles).1
    cases west : a.one.online <;> cases east : a.two.online <;> simp only [west, east] at rest
    · omega
    · exact Or.inl ⟨.two, east, west, by simp [two]⟩
    · exact Or.inl ⟨.one, west, east, by simp [one]⟩
    · obtain ⟨lostOne, lostTwo⟩ := noneLost rest
      refine Or.inr fun p => ?_
      cases p with
      | one => exact ⟨one, west, lostOne⟩
      | two => exact ⟨two, east, lostTwo⟩

theorem settledSame {q : Party} (faulted : faults q = true) (before : Settled faults a) (after : Settled faults b)
    (p : Party) : (b.get p).online = (a.get p).online := by
  obtain ⟨m, online, standby, right⟩ := before
  obtain ⟨n, onlineAfter, standbyAfter, rightAfter⟩ := after
  have same : n = m := by
    rcases Party.eqOrOther m n with rfl | rfl
    · rfl
    · -- both are faulted then, and each of them would be WEST
      have both : m = .one ∧ m.other = .one := by
        rcases Party.eqOrOther m q with rfl | rfl
        · obtain ⟨there, west⟩ := right faulted
          exact ⟨west, (rightAfter there).2⟩
        · obtain ⟨here, west⟩ := rightAfter faulted
          rw [Party.otherOther] at here
          exact ⟨(right here).2, west⟩
      rw [both.1] at both
      cases both.2
  subst same
  rcases Party.eqOrOther n p with rfl | rfl
  · rw [online, onlineAfter]
  · rw [standby, standbyAfter]

theorem restStays (rest : laneLeft faults a = 0) (follows : FollowsBeside faults beside a b) (p : Party) :
    (b.get p).online = (a.get p).online := by
  have later : laneLeft faults b = 0 := Nat.le_zero.mp ((laneFalls follows).trans (by rw [rest]))
  by_cases some_ : ∃ q, faults q = true
  · obtain ⟨q, faulted⟩ := some_
    exact settledSame faulted ((atRest rest).resolve_right (faultedUnsplit faulted))
      ((atRest later).resolve_right (faultedUnsplit faulted)) p
  · have sound (q : Party) : faults q = false := Bool.eq_false_iff.mpr fun faulted => some_ ⟨q, faulted⟩
    have own := soundBeside sound follows p
    rcases atRest rest with ⟨m, online, standby, _⟩ | split
    · rcases Party.eqOrOther m p with rfl | rfl
      · simp [own, online, standby]
      · simp [own, online, standby]
    · simp [own, (split p).2.1, (split p).2.2]

end Lanes

section Checks
variable {four : Lanes} {r : Pair Round} {faults : Party → Party → Bool}

theorem roundExecutes {s : Sites} {r : Round} {faults : Party → Bool} (clean : Unbroken faults s r) (p : Party) :
    ∃ receive, ((round s r).get p).rs =
      siteRoleExecute (s.get p).rs (r.turn p).cycle (r.turn p).own { (r.turn p).io with receive := receive } := by
  obtain ⟨_, _, _, pending, _⟩ := begunSame clean p
  let before : Site := { s.get p with inbox := (begunSite s r p).inbox }
  have begun : (act before (beginOf r p).2).1 = begunSite s r p := rfl
  rcases halvesExecute before (r.turn p).cycle (r.turn p).own (r.turn p).io (.frame (s.get p).inbox.length true) with
    ⟨idle, _⟩ | whole
  · have none : (begunSite s r p).pending = none := idle
    rw [pending] at none
    cases none
  · rw [roundSite]
    exact ⟨_, whole⟩

structure Seen (before after : RteSiteRole) (frame : SiteRoleSibling) (checked : RteSiteRole) : Prop where
  source : checked.cfg.siblingSource = true
  sibling : checked.sibling = frame
  online : checked.online = after.online
  counter : siblingCheckOf checked = siblingCheckOf before

theorem executeSeen {rs : RteSiteRole} (source : rs.cfg.siblingSource = true) (cycle : UInt32) (own : SiteRoleLocal)
    (io : ExecuteIo) {frame : SiteRoleSibling} (told : io.siblingFrame = some frame) :
    Seen rs (siteRoleExecute rs cycle own io) frame (checkedState rs cycle own io) := by
  obtain ⟨taken, asks⟩ := frameTaken source cycle own frame (linkUp rs io)
  rw [← told] at taken asks
  have listened := beforeListened rs cycle own io
  obtain ⟨kept, same⟩ := decisionSame rs cycle own io
  have untouched := decidedUntouched (decided (decisionState rs cycle own io) own)
  refine ⟨?_, ?_, ?_, checkedStateCheck rs cycle own io⟩
  · rw [checkedState, untouched.cfg, same, keepingCfg, listened.cfg, asks]
  · rw [checkedState, untouched.sibling, same]
    exact listened.sibling.trans taken
  · rw [executeDecides, ← checkedState]
    obtain ⟨_, after⟩ := checkAfterSame (checkedState rs cycle own io) own
    split
    · rcases teardownCases (checkSiblingAfterDecision (checkedState rs cycle own io) own) (decide (io.sendStatus = .ok))
        io.receive.status with ⟨_, torn⟩ | ⟨_, _, torn⟩ <;>
      rw [torn, after] <;> rfl
    · rw [after]
      rfl

structure Judged (before after : RteSiteRole) (siblingOnline : Bool) : Prop where
  agree : after.online = siblingOnline → after.siblingMismatch = 0 ∧ after.siblingVerdict = .agree
  parted : after.online ≠ siblingOnline → after.siblingMismatch = (bumped before).siblingMismatch ∧
    after.siblingVerdict = if (bumped before).siblingMismatch < siblingMismatchLimit then .pending else .fault

theorem seenJudged {before after checked : RteSiteRole} {frame : SiteRoleSibling} {own : SiteRoleLocal}
    (seen : Seen before after frame checked) (known : frame.known = true) (mode : frame.singleMode = own.singleMode)
    (last : siblingCheckOf after = siblingCheckOf (checkSiblingAfterDecision checked own)) :
    Judged before after frame.online := by
  have mismatch : checked.siblingMismatch = before.siblingMismatch := congrArg Prod.fst seen.counter
  rw [checkSiblingAfterDecision, if_pos seen.source, seen.sibling, siteRoleCheckSibling, known, mode, seen.online,
    mismatch, if_neg (by decide)] at last
  constructor
  · intro same
    rw [if_pos ⟨same.symm, rfl⟩] at last
    exact ⟨congrArg Prod.fst last, congrArg Prod.snd last⟩
  · intro apart
    rw [if_neg fun both => apart both.1.symm] at last
    exact ⟨congrArg Prod.fst last, congrArg Prod.snd last⟩

theorem roundJudged (joined : Joined four) (clean : Untroubled faults four r) (lane p : Party) :
    Judged (channel four lane p) (channel (roundFour four r) lane p) (channel four lane.other p).online := by
  obtain ⟨receive, whole⟩ := roundExecutes (laneUnbroken clean lane) p
  have after : channel (roundFour four r) lane p = ((round (four.get lane) (laneRound four r lane)).get p).rs := by
    rw [channel, roundLane]
  have source : (channel four lane p).cfg.siblingSource = true := joined.source lane p
  have mode : (siblingFrame four r lane p).singleMode = ((laneRound four r lane).turn p).own.singleMode :=
    (clean.paired lane.other p).trans (clean.paired lane p).symm
  have seen := executeSeen source ((laneRound four r lane).turn p).cycle ((laneRound four r lane).turn p).own
    { ((laneRound four r lane).turn p).io with receive := receive } rfl
  rw [after, whole]
  exact seenJudged seen rfl mode (executeCheck _ _ _ _)

def reportLeft (rs : RteSiteRole) (siblingOnline : Bool) : Nat :=
  if rs.online = siblingOnline then if rs.siblingVerdict = .agree then 0 else 1
  else if rs.siblingVerdict = .fault ∧ siblingMismatchLimit ≤ rs.siblingMismatch then 0
  else max 1 (3 - rs.siblingMismatch.toNat)

theorem reportLeftBound (rs : RteSiteRole) (siblingOnline : Bool) : reportLeft rs siblingOnline ≤ 3 := by
  unfold reportLeft
  split_ifs <;> omega

theorem reportFalls {before after : RteSiteRole} {siblingOnline : Bool} (stays : after.online = before.online)
    (judged : Judged before after siblingOnline) : reportLeft after siblingOnline ≤ reportLeft before siblingOnline - 1 := by
  unfold reportLeft
  rw [stays]
  by_cases same : before.online = siblingOnline
  · rw [if_pos same, if_pos (judged.agree (stays.trans same)).2]
    exact Nat.zero_le _
  · obtain ⟨mismatch, verdict⟩ := judged.parted fun equal => same (stays.symm.trans equal)
    have next : after.siblingMismatch.toNat =
        if before.siblingMismatch.toNat < 255 then before.siblingMismatch.toNat + 1 else before.siblingMismatch.toNat := by
      rw [mismatch]
      exact mismatchBumped before.siblingMismatch
    rw [← mismatch] at verdict
    rw [if_neg same, if_neg same]
    by_cases few : after.siblingMismatch < siblingMismatchLimit
    · have counted : after.siblingMismatch.toNat < 3 := UInt8.lt_iff_toNat_lt.mp few
      have below : ¬siblingMismatchLimit ≤ before.siblingMismatch := fun enough => by
        have three : 3 ≤ before.siblingMismatch.toNat := UInt8.le_iff_toNat_le.mp enough
        split at next <;> omega
      rw [if_neg fun done => UInt8.not_le.mpr few done.2, if_neg fun done => below done.2]
      split at next <;> omega
    · rw [if_neg few] at verdict
      rw [if_pos ⟨verdict, UInt8.not_lt.mp few⟩]
      exact Nat.zero_le _

theorem reported (rs : RteSiteRole) (siblingOnline : Bool) (done : reportLeft rs siblingOnline = 0) :
    rs.siblingVerdict = if rs.online = siblingOnline then .agree else .fault := by
  unfold reportLeft at done
  split at done
  · rename_i same
    rw [if_pos same]
    by_contra other
    rw [if_neg other] at done
    cases done
  · rename_i apart
    rw [if_neg apart]
    by_contra other
    rw [if_neg fun both => other both.1] at done
    omega

end Checks

section Runs
variable {four : Lanes} {rounds : List (Pair Round)} {faults : Party → Party → Bool}

structure Resting (faults : Party → Party → Bool) (four : Lanes) : Prop where
  joined : Joined four
  lanes : ∀ lane, laneLeft (faults lane) (rolesOf (four.get lane)) = 0

theorem restingOnline {r : Pair Round} (resting : Resting faults four) (clean : Untroubled faults four r)
    (lane p : Party) : (channel (roundFour four r) lane p).online = (channel four lane p).online := by
  have stays := restStays (resting.lanes lane) (laneFollows resting.joined clean lane) p
  rw [rolesOf, rolesOf, Pair.getMap, Pair.getMap] at stays
  exact stays

theorem restingRound {r : Pair Round} (resting : Resting faults four) (clean : Untroubled faults four r) :
    Resting faults (roundFour four r) := by
  refine ⟨roundJoined resting.joined clean, fun lane => Nat.le_zero.mp ?_⟩
  have falls := laneFalls (laneFollows resting.joined clean lane)
  rw [resting.lanes lane] at falls
  exact falls

theorem comesToRest (joined : Joined four) (clean : Always roundFour (Untroubled faults) four rounds)
    (enough : 14 ≤ rounds.length) : Resting faults (run roundFour four rounds) := by
  have keep : ∀ m r, Joined m → Untroubled faults m r → Joined (roundFour m r) := fun _ _ => roundJoined
  refine ⟨invariantRun joined keep clean, fun lane => ?_⟩
  have left := rankRun (fun m => laneLeft (faults lane) (rolesOf (m.get lane))) joined keep
    (fun m r inv admitted => laneFalls (laneFollows inv admitted lane)) clean
  have most := laneLeftBound (faults lane) (rolesOf (four.get lane))
  omega

theorem restingRun (resting : Resting faults four) (clean : Always roundFour (Untroubled faults) four rounds)
    (lane p : Party) :
    let ended := run roundFour four rounds
    (channel ended lane p).online = (channel four lane p).online ∧
      reportLeft (channel ended lane p) (channel ended lane.other p).online ≤ 3 - rounds.length := by
  let Inv (m : Lanes) : Prop := Resting faults m ∧ ∀ lane, (channel m lane p).online = (channel four lane p).online
  have start : Inv four := ⟨resting, fun _ => rfl⟩
  have keep : ∀ m r, Inv m → Untroubled faults m r → Inv (roundFour m r) := by
    rintro m r ⟨rests, still⟩ admitted
    exact ⟨restingRound rests admitted, fun lane => (restingOnline rests admitted lane p).trans (still lane)⟩
  have ended : Inv (run roundFour four rounds) := invariantRun start keep clean
  have left := rankRun (fun m => reportLeft (channel m lane p) (channel m lane.other p).online) start keep
    (fun m r inv admitted => by
      rw [restingOnline inv.1 admitted lane.other p]
      exact reportFalls (restingOnline inv.1 admitted lane p) (roundJudged inv.1.joined admitted lane p)) clean
  have most := reportLeftBound (channel four lane p) (channel four lane.other p).online
  exact ⟨ended.2 lane, by omega⟩

structure Judgement (faults : Party → Party → Bool) (four : Lanes) : Prop where
  lanes : ∀ lane, Settled (faults lane) (rolesOf (four.get lane)) ∨ Split (faults lane) (rolesOf (four.get lane))
  verdicts : ∀ lane p, (channel four lane p).siblingVerdict =
    if (channel four lane p).online = (channel four lane.other p).online then .agree else .fault

theorem restsWithin (joined : Joined four) (clean : Always roundFour (Untroubled faults) four rounds)
    (before after : List (Pair Round)) (split : rounds = before ++ after) (enough : 14 ≤ before.length) :
    Resting faults (run roundFour four before) ∧
      Always roundFour (Untroubled faults) (run roundFour four before) after := by
  subst split
  refine ⟨comesToRest joined (alwaysPrefix clean) enough, fun first r last more => ?_⟩
  rw [← runAppend]
  exact clean (before ++ first) r last (by rw [more, List.append_assoc])

theorem judgedAtLast (joined : Joined four) (clean : Always roundFour (Untroubled faults) four rounds)
    (enough : 17 ≤ rounds.length) : Judgement faults (run roundFour four rounds) := by
  refine ⟨fun lane => atRest ((comesToRest joined clean (by omega)).lanes lane), fun lane p => reported _ _ ?_⟩
  obtain ⟨resting, rest⟩ := restsWithin joined clean (rounds.take 14) (rounds.drop 14)
    (List.take_append_drop 14 rounds).symm (by rw [List.length_take]; omega)
  have left := (restingRun resting rest lane p).2
  rw [← runAppend, List.take_append_drop, List.length_drop] at left
  omega

/- From any state of the four channels, the roles are the last ones after fourteen rounds
without a failure, and three rounds later no disagreement of two siblings is unreported. -/
theorem settledOrFaulted (joined : Joined four) (clean : Always roundFour (Untroubled faults) four rounds) :
    (∀ before after, rounds = before ++ after → 14 ≤ before.length → ∀ lane p,
      (channel (run roundFour four rounds) lane p).online = (channel (run roundFour four before) lane p).online) ∧
    (17 ≤ rounds.length → Judgement faults (run roundFour four rounds)) := by
  refine ⟨fun before after split enough lane p => ?_, judgedAtLast joined clean⟩
  obtain ⟨resting, rest⟩ := restsWithin joined clean before after split enough
  rw [split, runAppend]
  exact (restingRun resting rest lane p).1

end Runs

def siblingSite (isWest online : Bool) : Site :=
  ⟨{ initialState { smallSite isWest with siblingSource := true } with online := online }, none, [], none⟩

def lanesOf (online : Party → Party → Bool) : Lanes :=
  ⟨⟨⟨siblingSite true (online .one .one), siblingSite false (online .one .two)⟩, []⟩,
    ⟨⟨siblingSite true (online .two .one), siblingSite false (online .two .two)⟩, []⟩⟩

theorem lanesJoined (online : Party → Party → Bool) : Joined (lanesOf online) where
  wired lane := by
    have room (isWest : Bool) : frameOverhead < (smallSite isWest).frameSize := by cases isWest <;> decide
    have patient : (smallSite true).sendMissThreshold ≠ 0 := by decide
    refine ⟨fun p => ?_, fun p => ?_, fun p => ?_, fun p => ?_⟩ <;> cases lane <;> cases p
    all_goals first | rfl | exact room true | exact room false | exact patient
  west lane := by cases lane <;> rfl
  east lane := by cases lane <;> rfl
  source lane p := by cases lane <;> cases p <;> rfl

def quietRounds : List (Pair Round) := (List.range 17).map fun n => ⟨quietRound (UInt32.ofNat n), quietRound (UInt32.ofNat n)⟩

theorem quietUntroubled (four : Lanes) : Always roundFour (Untroubled fun _ _ => false) four quietRounds := by
  intro before r after split
  obtain ⟨n, _, rfl⟩ := List.mem_map.mp (split ▸ List.mem_append_right before List.mem_cons_self)
  refine ⟨fun lane => ?_, fun lane p => ?_, fun lane p => ?_⟩ <;> cases lane
  · exact (quietClean _ _).unbroken
  · exact (quietClean _ _).unbroken
  all_goals rfl

def partedLanes : Lanes := lanesOf fun lane p => lane == p

theorem partedReported :
    let ended := run roundFour partedLanes quietRounds
    Judgement (fun _ _ => false) ended ∧ ∀ lane p, (channel ended lane p).siblingVerdict = .fault := by
  have joined : Joined partedLanes := lanesJoined _
  have clean := quietUntroubled partedLanes
  have judged := (settledOrFaulted joined clean).2 (by decide)
  have resting : Resting (fun _ _ => false) partedLanes := ⟨joined, fun lane => by cases lane <;> rfl⟩
  refine ⟨judged, fun lane p => ?_⟩
  rw [judged.verdicts, (restingRun resting clean lane p).1, (restingRun resting clean lane.other p).1]
  cases lane <;> cases p <;> rfl

end PlatformRte.SiteRole.FourChannels
