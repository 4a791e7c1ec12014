import PlatformRte.SiteRole.Service
import PlatformRte.Lib.Machine
import PlatformRte.Lib.History

/-! Takeover tokens of a channel with a MAC verifier. The log of draws, acceptances
and finished executes is an abstract account of the one challenge that is held;
the fields of the channel refine it. -/
namespace PlatformRte.SiteRole.Token
open Machine History RteSiteRole

def held : List TokenEvent → Option (UInt32 × UInt32)
  | [] => none
  | .drew cycle challenge :: _ => challenge.map fun value => (cycle, value)
  | .accepted _ :: _ => none
  | .executed _ :: earlier => held earlier

def executedSince : List TokenEvent → Option UInt32
  | .executed cycle :: _ => some cycle
  | _ => none

def drawnChallenges (log : List TokenEvent) : List UInt32 :=
  log.filterMap fun
    | .drew _ challenge => challenge
    | _ => none

def acceptedTokens (log : List TokenEvent) : List Bytes :=
  log.filterMap fun
    | .accepted token => some token
    | _ => none

/- The newest draw succeeded with the token's challenge, no token was accepted since,
and if an execute ended since, the challenge was within its lifetime there. -/
def Fresh (lifetime : UInt32) : TokenEvent → List TokenEvent → Prop
  | .accepted token, earlier => ∃ drawn, held earlier = some (drawn, tokenChallenge token) ∧
      ∀ last ∈ executedSince earlier, drawn ≤ last ∧ last - drawn < lifetime
  | _, _ => True

theorem heldDrawn {lifetime : UInt32} {log : List TokenEvent} (fresh : Each (Fresh lifetime) log) :
    ((acceptedTokens log).map tokenChallenge).Sublist (drawnChallenges log) ∧
      ∀ drawn challenge, held log = some (drawn, challenge) →
        (challenge :: (acceptedTokens log).map tokenChallenge).Sublist (drawnChallenges log) := by
  induction log with
  | nil => exact ⟨List.Sublist.slnil, fun _ _ none => by cases none⟩
  | cons entry earlier ih =>
    obtain ⟨head, tail⟩ := fresh
    obtain ⟨sub, holding⟩ := ih tail
    cases entry with
    | drew cycle challenge =>
      cases challenge with
      | none => exact ⟨sub, fun _ _ none => by cases none⟩
      | some value =>
        refine ⟨sub.cons value, fun drawn challenge open_ => ?_⟩
        cases open_
        exact sub.cons_cons value
    | accepted token =>
      obtain ⟨drawn, open_, _⟩ := head
      exact ⟨holding _ _ open_, fun _ _ none => by cases none⟩
    | executed cycle => exact ⟨sub, holding⟩

theorem acceptedOnce {lifetime : UInt32} {log : List TokenEvent} (fresh : Each (Fresh lifetime) log)
    (distinct : (drawnChallenges log).Nodup) : (acceptedTokens log).Nodup :=
  List.Nodup.of_map tokenChallenge ((heldDrawn fresh).1.nodup distinct)

theorem checkSiblingChallenge (rs : RteSiteRole) (ownSingleMode : Bool) (sibling : SiteRoleSibling) :
    challengeOf (siteRoleCheckSibling rs ownSingleMode sibling).1 = challengeOf rs := by
  unfold siteRoleCheckSibling
  split
  · rfl
  split <;> rfl

theorem checkAfterChallenge (rs : RteSiteRole) (own : SiteRoleLocal) :
    challengeOf (checkSiblingAfterDecision rs own) = challengeOf rs := by
  unfold checkSiblingAfterDecision
  split
  · exact checkSiblingChallenge rs own.singleMode rs.sibling
  · rfl

theorem refreshAgain {rs rs' : RteSiteRole} (same : challengeOf rs' = challengeOf rs) (cycle : UInt32)
    (draw : Option Bytes) :
    challengeOf (refreshChallenge rs' cycle draw) = challengeOf (refreshChallenge rs cycle draw) := by
  have fields := same
  simp only [challengeOf, Challenge.mk.injEq] at fields
  obtain ⟨cfg, valid, _, drawn, log⟩ := fields
  unfold refreshChallenge challengeExpired drawChallenge
  rw [cfg, valid, drawn]
  split
  · cases draw <;> simp_all [challengeOf]
  · exact same

theorem executeChallenge (rs : RteSiteRole) (cycle : UInt32) (own : SiteRoleLocal) (io : ExecuteIo) :
    challengeOf (siteRoleExecute rs cycle own io) = challengeOf (refreshChallenge rs cycle io.draw) := by
  have polled : challengeOf (pollSiblingSource (takeLocal { rs with cycle := cycle } own) cycle io.siblingFrame) =
      challengeOf rs := rfl
  have prepared : challengeOf (prepareCycle rs cycle own io) = challengeOf (refreshChallenge rs cycle io.draw) :=
    refreshAgain polled cycle io.draw
  have linked := (congrArg Prod.fst (ensureAside (prepareCycle rs cycle own io) io.reopen)).trans prepared
  have decided (s : RteSiteRole) : challengeOf (checkSiblingAfterDecision (runSiteRoleDecision s own) own) =
      challengeOf s :=
    (checkAfterChallenge _ own).trans (congrArg Prod.fst (decisionAside s own))
  have begun : challengeOf (siteRoleExecuteBegin rs cycle own io).1 =
      challengeOf (refreshChallenge rs cycle io.draw) := by
    unfold siteRoleExecuteBegin
    dsimp only
    split
    · exact linked
    · exact (decided _).trans linked
  unfold siteRoleExecute
  dsimp only
  split
  · exact begun
  · unfold siteRoleExecuteFinish
    have torn := congrArg Prod.fst (teardownAside (checkSiblingAfterDecision (runSiteRoleDecision (updateStandbyWarmth
      (receiveFrame (siteRoleExecuteBegin rs cycle own io).1 io.receive).1) own) own)
      (decide (io.sendStatus = .ok)) (receiveFrame (siteRoleExecuteBegin rs cycle own io).1 io.receive).2)
    have received := congrArg Prod.fst (receiveAside (siteRoleExecuteBegin rs cycle own io).1 io.receive)
    exact torn.trans ((decided _).trans (received.trans begun))

theorem executeConfirmed {rs : RteSiteRole} {cycle : UInt32} {own : SiteRoleLocal} {io : ExecuteIo}
    (confirmed : (siteRoleExecute rs cycle own io).takeoverConfirmed = true) : rs.takeoverConfirmed = true := by
  have heard : (beforeDecision rs cycle own io).takeoverConfirmed = true → rs.takeoverConfirmed = true :=
    beforeRule (P := fun s => s.takeoverConfirmed = true → rs.takeoverConfirmed = true)
      (fun _ _ old => old) (fun _ _ void => by cases void) (fun _ old => old) fun _ => id
  obtain ⟨s', step, last⟩ := executeDecided rs cycle own io
  have after : s'.takeoverConfirmed = true := by
    rcases last with ⟨_, equal⟩ | ⟨_, _, equal⟩ <;> rw [equal] at confirmed <;> exact confirmed
  cases step with
  | promoted _ same => obtain ⟨_, rfl⟩ := same; cases after
  | demoted _ same => obtain ⟨_, rfl⟩ := same; exact heard after
  | renegotiated _ same => obtain ⟨_, rfl⟩ := same; exact heard after
  | kept _ _ _ same => obtain ⟨_, rfl⟩ := same; exact heard after

structure Acceptable (rs : RteSiteRole) (token : Bytes) : Prop where
  length : token.length = tokenLen
  version : token.getD 0 0 = tokenVersion
  site : token.getD 1 0 = rs.cfg.ownId.toUInt8
  channel : token.getD 2 0 = rs.cfg.channelId
  zeros : token.getD 3 0 = 0 ∧ readU32Le token 12 = 0
  holding : rs.challengeValid = true
  challenge : tokenChallenge token = rs.challenge
  mac : ∃ verify, rs.cfg.verifyMac = some verify ∧ verify (tokenMessage token) (tokenMac token) = true

theorem acceptedFacts {rs : RteSiteRole} {token : Bytes} (accepted : checkToken rs token = .accepted) :
    Acceptable rs token := by
  unfold checkToken at accepted
  split at accepted
  · cases accepted
  · rename_i verify configured
    split at accepted
    · cases accepted
    rename_i formed
    split at accepted
    · cases accepted
    rename_i holding
    split at accepted
    · cases accepted
    rename_i verified
    split at accepted
    · cases accepted
    rename_i current
    simp only [Bool.not_eq_true', Bool.not_eq_false] at formed holding verified
    simp only [tokenWellFormed, Bool.and_eq_true, decide_eq_true_eq, beq_iff_eq] at formed
    obtain ⟨⟨⟨⟨⟨length, version⟩, site⟩, channel⟩, zero⟩, reserved⟩ := formed
    exact ⟨length, version, site, channel, ⟨zero, reserved⟩, holding, not_not.mp current, verify, configured, verified⟩

def ConfirmedByToken (rs : RteSiteRole) (call : SiteRoleCall) : Prop :=
  rs.takeoverConfirmed = false → (siteRoleCall rs call).takeoverConfirmed = true →
    ∃ cycle token draw, call = .onTakeoverToken cycle token draw ∧ Acceptable rs token

theorem confirmedByToken {rs : RteSiteRole} (configured : rs.cfg.verifyMac.isSome = true) (call : SiteRoleCall) :
    ConfirmedByToken rs call := by
  intro idle confirmed
  have never {P : Prop} (still : rs.takeoverConfirmed = true) : P := by
    rw [idle] at still
    cases still
  cases call with
  | execute cycle own io => exact never (executeConfirmed confirmed)
  | serviceLink cycle answers =>
    simp only [siteRoleCall, siteRoleServiceLink] at confirmed
    split at confirmed
    · have start : ({ rs with cycle := cycle } : RteSiteRole).takeoverConfirmed = true →
          rs.takeoverConfirmed = true := id
      exact never (drainRule (P := fun s => s.takeoverConfirmed = true → rs.takeoverConfirmed = true)
        (fun _ _ old => old) (fun _ _ void => by cases void) serviceDrain answers start confirmed)
    · exact never confirmed
  | syncStandby cycle own region status =>
    obtain ⟨_, equal⟩ := syncSame rs cycle own region status
    simp only [siteRoleCall, equal] at confirmed
    exact never confirmed
  | onTakeoverConfirm cycle =>
    simp only [siteRoleCall, siteRoleOnTakeoverConfirm, configured, if_true] at confirmed
    exact never confirmed
  | onTakeoverToken cycle token draw =>
    rcases tokenCases rs cycle token draw with equal | ⟨_, accepted, _⟩
    · simp only [siteRoleCall, equal] at confirmed
      exact never confirmed
    · exact ⟨cycle, token, draw, rfl, acceptedFacts accepted⟩
  | noteLostContact => exact never confirmed
  | flushFaulted => exact never confirmed
  | checkSibling ownSingleMode sibling =>
    obtain ⟨_, equal⟩ := checkSiblingSame rs ownSingleMode sibling
    simp only [siteRoleCall, equal] at confirmed
    exact never confirmed
  | shutdown => exact never confirmed

structure Accounted (lifetime : UInt32) (rs : RteSiteRole) : Prop where
  configured : rs.cfg.verifyMac.isSome = true
  life : challengeLifetime rs.cfg = lifetime
  holding : rs.challengeValid = true → held rs.tokenLog = some (rs.challengeCycle, rs.challenge) ∧
    ∀ last ∈ executedSince rs.tokenLog, rs.challengeCycle ≤ last ∧ last - rs.challengeCycle < lifetime
  fresh : Each (Fresh lifetime) rs.tokenLog

theorem accountedOf {lifetime : UInt32} {rs rs' : RteSiteRole} (same : challengeOf rs' = challengeOf rs)
    (accounted : Accounted lifetime rs) : Accounted lifetime rs' := by
  simp only [challengeOf, Challenge.mk.injEq] at same
  obtain ⟨cfg, valid, value, drawn, log⟩ := same
  obtain ⟨configured, life, holding, fresh⟩ := accounted
  rw [← valid, ← drawn, ← value, ← log] at holding
  exact ⟨cfg ▸ configured, cfg ▸ life, holding, log ▸ fresh⟩

theorem lifetimePositive (cfg : SiteRoleConfig) : 0 < challengeLifetime cfg := by
  unfold challengeLifetime
  split
  · rename_i given
    exact UInt32.pos_iff_ne_zero.mpr given
  · decide

theorem accountedDraw {lifetime : UInt32} {rs : RteSiteRole} (cycle : UInt32) (draw : Option Bytes)
    (configured : rs.cfg.verifyMac.isSome = true) (life : challengeLifetime rs.cfg = lifetime)
    (fresh : Each (Fresh lifetime) rs.tokenLog) : Accounted lifetime (drawChallenge rs cycle draw) := by
  cases draw with
  | none =>
    refine ⟨configured, life, fun valid => ?_, True.intro, fresh⟩
    cases valid
  | some bytes =>
    refine ⟨configured, life, fun _ => ⟨rfl, fun last since => ?_⟩, True.intro, fresh⟩
    cases since

theorem accountedExecute {lifetime : UInt32} {rs : RteSiteRole} (cycle : UInt32) (own : SiteRoleLocal)
    (io : ExecuteIo) (accounted : Accounted lifetime rs) :
    Accounted lifetime (siteRoleCall rs (.execute cycle own io)) := by
  have positive : 0 < lifetime := accounted.life ▸ lifetimePositive rs.cfg
  have refreshed : Accounted lifetime (refreshChallenge rs cycle io.draw) ∧
      ((refreshChallenge rs cycle io.draw).challengeValid = true →
        (refreshChallenge rs cycle io.draw).challengeCycle ≤ cycle ∧
          cycle - (refreshChallenge rs cycle io.draw).challengeCycle < lifetime) := by
    unfold refreshChallenge
    rw [accounted.configured, Bool.true_and]
    cases expired : challengeExpired rs cycle
    · refine ⟨accounted, fun _ => ?_⟩
      simp only [challengeExpired, Bool.or_eq_false_iff, decide_eq_false_iff_not, UInt32.not_lt, UInt32.not_le,
        accounted.life] at expired
      exact ⟨expired.1.2, expired.2⟩
    · refine ⟨accountedDraw cycle io.draw accounted.configured accounted.life accounted.fresh, fun valid => ?_⟩
      cases drawn : io.draw with
      | none => simp [drawn, drawChallenge] at valid
      | some bytes =>
        simp only [if_true, drawChallenge, UInt32.sub_self]
        exact ⟨UInt32.le_refl cycle, positive⟩
  obtain ⟨before, inTime⟩ := refreshed
  have same := executeChallenge rs cycle own io
  obtain ⟨configured, life, holding, fresh⟩ := accountedOf same before
  simp only [challengeOf, Challenge.mk.injEq] at same
  obtain ⟨_, valid, _, drawn, _⟩ := same
  rw [← valid, ← drawn] at inTime
  refine ⟨configured, life, fun still => ⟨(holding still).1, fun last since => ?_⟩, True.intro, fresh⟩
  cases since
  exact inTime still

theorem accountedToken {lifetime : UInt32} {rs : RteSiteRole} (cycle : UInt32) (token : Bytes) (draw : Option Bytes)
    (accounted : Accounted lifetime rs) : Accounted lifetime (siteRoleOnTakeoverToken rs cycle token draw).1 := by
  unfold siteRoleOnTakeoverToken
  split
  · exact accounted
  dsimp only
  split
  · rename_i accepted
    have facts := acceptedFacts accepted
    obtain ⟨open_, inTime⟩ := accounted.holding facts.holding
    refine accountedDraw cycle draw ?_ ?_ ?_
    · exact accounted.configured
    · exact accounted.life
    · exact ⟨⟨rs.challengeCycle, by rw [facts.challenge]; exact open_, inTime⟩, accounted.fresh⟩
  · exact accounted

theorem accountedCall {lifetime : UInt32} {rs : RteSiteRole} (call : SiteRoleCall) (accounted : Accounted lifetime rs) :
    Accounted lifetime (siteRoleCall rs call) := by
  cases call with
  | execute cycle own io => exact accountedExecute cycle own io accounted
  | serviceLink cycle answers =>
    have ticked : challengeOf { rs with cycle := cycle } = challengeOf rs := rfl
    simp only [siteRoleCall, siteRoleServiceLink]
    split
    · exact accountedOf (congrArg Prod.fst (drainAside _ _ { rs with cycle := cycle })) (accountedOf ticked accounted)
    · exact accounted
  | syncStandby cycle own region status =>
    apply accountedOf ?_ accounted
    simp only [siteRoleCall, siteRoleSyncStandby]
    split <;> rfl
  | onTakeoverConfirm cycle =>
    simp only [siteRoleCall, siteRoleOnTakeoverConfirm, accounted.configured, if_true]
    exact accounted
  | onTakeoverToken cycle token draw => exact accountedToken cycle token draw accounted
  | noteLostContact =>
    have same : challengeOf (siteRoleNoteLostContact rs) = challengeOf rs := rfl
    exact accountedOf same accounted
  | flushFaulted => exact accounted
  | checkSibling ownSingleMode sibling => exact accountedOf (checkSiblingChallenge rs ownSingleMode sibling) accounted
  | shutdown =>
    have same : challengeOf (siteRoleShutdown rs) = challengeOf rs := rfl
    exact accountedOf same accounted

/- REQ-SITEROLE-015 over every run of one channel with a verifier whose draws differ:
the confirmation comes from an acceptable token only, the unauthenticated entry
point does nothing, every accepted token was for the challenge held then, and no
token is accepted twice. -/
theorem tokensFresh (rs : RteSiteRole) (setUp : SetUp rs) (configured : rs.cfg.verifyMac.isSome = true)
    (calls : List SiteRoleCall) (distinct : (drawnChallenges (run siteRoleCall rs calls).tokenLog).Nodup) :
    Always siteRoleCall (fun s call => ConfirmedByToken s call ∧ ∀ cycle, siteRoleOnTakeoverConfirm s cycle = s) rs
        calls ∧
      Each (Fresh (challengeLifetime rs.cfg)) (run siteRoleCall rs calls).tokenLog ∧
      (acceptedTokens (run siteRoleCall rs calls).tokenLog).Nodup := by
  have start : Accounted (challengeLifetime rs.cfg) rs := by
    obtain ⟨cfg, _, _, _, _, _, _, aside⟩ := setUpSame setUp
    have challenge : challengeOf rs = challengeOf (initialState cfg) := congrArg Prod.fst aside
    simp only [challengeOf, Challenge.mk.injEq] at challenge
    obtain ⟨_, valid, _, _, log⟩ := challenge
    refine ⟨configured, rfl, fun holding => ?_, ?_⟩
    · rw [valid] at holding
      cases holding
    · rw [log]
      exact True.intro
  have keep (s : RteSiteRole) (call : SiteRoleCall) (accounted : Accounted (challengeLifetime rs.cfg) s) (_ : True) :
      Accounted (challengeLifetime rs.cfg) (siteRoleCall s call) := accountedCall call accounted
  have always : Always siteRoleCall (fun _ _ => True) rs calls := fun _ _ _ _ => trivial
  have last := invariantRun start keep always
  refine ⟨alwaysOfInvariant start keep (fun s call accounted _ => ?_) always, last.fresh,
    acceptedOnce last.fresh distinct⟩
  refine ⟨confirmedByToken accounted.configured call, fun cycle => ?_⟩
  simp [siteRoleOnTakeoverConfirm, accounted.configured]

def guardedSite : SiteRoleConfig :=
  { smallSite true with verifyMac := some fun message mac => decide (mac = message.take tokenMacLen) }

theorem guardedSiteReady : SetUp (initialState guardedSite) := by
  have init : siteRoleInit guardedSite = .ok (initialState guardedSite) := by
    simp [siteRoleInit, guardedSite, smallSite, frameOverhead]
  exact .initialized init

def tokenForOne : Bytes := [1, 1, 0, 0, 1, 0, 0, 0, 7, 0, 0, 0, 0, 0, 0, 0] ++ [1, 1, 0, 0, 1, 0, 0, 0]

def presentedTwice : List SiteRoleCall :=
  [.execute 1 healthy { silentCycle with draw := some [1, 0, 0, 0] },
    .onTakeoverToken 1 tokenForOne (some [2, 0, 0, 0]), .onTakeoverToken 1 tokenForOne (some [3, 0, 0, 0])]

theorem presentedTwiceFresh :
    Always siteRoleCall (fun s call => ConfirmedByToken s call ∧ ∀ cycle, siteRoleOnTakeoverConfirm s cycle = s)
        (initialState guardedSite) presentedTwice ∧
      Each (Fresh (challengeLifetime (initialState guardedSite).cfg))
        (run siteRoleCall (initialState guardedSite) presentedTwice).tokenLog ∧
      (acceptedTokens (run siteRoleCall (initialState guardedSite) presentedTwice).tokenLog).Nodup :=
  tokensFresh _ guardedSiteReady rfl presentedTwice (by decide)

example : acceptedTokens (run siteRoleCall (initialState guardedSite) presentedTwice).tokenLog = [tokenForOne] := by
  decide

end PlatformRte.SiteRole.Token
