import PlatformRte.SiteRole.State

/-! Dispatcher confirmations: the challenge a channel holds, the tokens issued for
it, and the unauthenticated path that is refused once a verifier is configured. -/
namespace PlatformRte.SiteRole
open Bytes

def tokenMsgLen : Nat := 16
def tokenMacLen : Nat := 8
def tokenLen : Nat := tokenMsgLen + tokenMacLen
def tokenVersion : UInt8 := 1

inductive TokenResult where
  | accepted | ignoredOnline | notConfigured | noChallenge | badFormat | badMac | staleChallenge
  deriving DecidableEq, Repr

def readU32Le (raw : Bytes) (offset : Nat) : UInt32 := UInt32.ofNat (readLe raw offset 4)

def challengeLifetime (cfg : SiteRoleConfig) : UInt32 :=
  if cfg.challengeLifetimeCycles ≠ 0 then cfg.challengeLifetimeCycles else defaultChallengeLifetimeCycles

/- draw is what rte_random_fill() left, none when it failed. -/
def drawChallenge (rs : RteSiteRole) (cycle : UInt32) (draw : Option Bytes) : RteSiteRole :=
  match draw with
  | some bytes =>
      { rs with
        challengeCycle := cycle
        challenge := readU32Le bytes 0
        challengeValid := true
        challengeFailReported := false
        tokenLog := .drew cycle (some (readU32Le bytes 0)) :: rs.tokenLog }
  | none =>
      { rs with
        challengeCycle := cycle
        challengeValid := false
        challengeFailReported := true
        tokenLog := .drew cycle none :: rs.tokenLog }

def challengeExpired (rs : RteSiteRole) (cycle : UInt32) : Bool :=
  !rs.challengeValid || decide (cycle < rs.challengeCycle) ||
    decide (challengeLifetime rs.cfg ≤ cycle - rs.challengeCycle)

def refreshChallenge (rs : RteSiteRole) (cycle : UInt32) (draw : Option Bytes) : RteSiteRole :=
  if rs.cfg.verifyMac.isSome && challengeExpired rs cycle then drawChallenge rs cycle draw else rs

def recordTakeoverConfirmation (rs : RteSiteRole) (cycle : UInt32) : RteSiteRole :=
  { rs with takeoverConfirmed := true, takeoverConfirmCycle := cycle, roleLog := .confirmed cycle :: rs.roleLog }

def tokenMessage (token : Bytes) : Bytes := token.take tokenMsgLen
def tokenMac (token : Bytes) : Bytes := token.drop tokenMsgLen
def tokenChallenge (token : Bytes) : UInt32 := readU32Le token 4

def tokenWellFormed (cfg : SiteRoleConfig) (token : Bytes) : Bool :=
  decide (token.length = tokenLen) && token.getD 0 0 == tokenVersion && token.getD 1 0 == cfg.ownId.toUInt8 &&
    token.getD 2 0 == cfg.channelId && token.getD 3 0 == 0 && readU32Le token 12 == 0

def checkToken (rs : RteSiteRole) (token : Bytes) : TokenResult :=
  match rs.cfg.verifyMac with
  | none => .notConfigured
  | some verify =>
      if !tokenWellFormed rs.cfg token then .badFormat
      else if !rs.challengeValid then .noChallenge
      else if !verify (tokenMessage token) (tokenMac token) then .badMac
      else if tokenChallenge token ≠ rs.challenge then .staleChallenge
      else .accepted

def siteRoleOnTakeoverConfirm (rs : RteSiteRole) (cycle : UInt32) : RteSiteRole :=
  if rs.cfg.verifyMac.isSome then rs else if rs.online then rs else recordTakeoverConfirmation rs cycle

def siteRoleOnTakeoverToken (rs : RteSiteRole) (cycle : UInt32) (token : Bytes) (draw : Option Bytes) :
    RteSiteRole × TokenResult :=
  if rs.cfg.verifyMac.isSome && rs.online then (rs, .ignoredOnline)
  else
    let result := checkToken rs token
    if result = .accepted then
      let confirmed := recordTakeoverConfirmation rs cycle
      (drawChallenge { confirmed with tokenLog := .accepted token :: confirmed.tokenLog } cycle draw, result)
    else (rs, result)

def siteRoleTakeoverChallenge (rs : RteSiteRole) : Option UInt32 :=
  if rs.challengeValid then some rs.challenge else none

open RteSiteRole

theorem drawSame (rs : RteSiteRole) (cycle : UInt32) (draw : Option Bytes) :
    Same rs (drawChallenge rs cycle draw) := by
  unfold drawChallenge
  split <;> exact sameOfEq rfl

theorem refreshSame (rs : RteSiteRole) (cycle : UInt32) (draw : Option Bytes) :
    Same rs (refreshChallenge rs cycle draw) := by
  unfold refreshChallenge
  split
  · exact drawSame rs cycle draw
  · exact sameRefl rs

theorem confirmCases (rs : RteSiteRole) (cycle : UInt32) :
    siteRoleOnTakeoverConfirm rs cycle = rs ∨
      (rs.online = false ∧ rs.cfg.verifyMac = none ∧
        siteRoleOnTakeoverConfirm rs cycle = recordTakeoverConfirmation rs cycle) := by
  unfold siteRoleOnTakeoverConfirm
  split
  · exact Or.inl rfl
  rename_i open_
  split
  · exact Or.inl rfl
  · rename_i standby
    exact Or.inr ⟨by simpa using standby, by simpa using open_, rfl⟩

theorem tokenCases (rs : RteSiteRole) (cycle : UInt32) (token : Bytes) (draw : Option Bytes) :
    (siteRoleOnTakeoverToken rs cycle token draw).1 = rs ∨
      (rs.online = false ∧ checkToken rs token = .accepted ∧ Same (recordTakeoverConfirmation rs cycle)
        (siteRoleOnTakeoverToken rs cycle token draw).1) := by
  unfold siteRoleOnTakeoverToken
  split
  · exact Or.inl rfl
  rename_i standby
  dsimp only
  split
  · rename_i accepted
    have configured : rs.cfg.verifyMac.isSome = true := by
      unfold checkToken at accepted
      split at accepted
      · cases accepted
      · rename_i verifier; simp [verifier]
    simp only [configured, Bool.true_and, Bool.not_eq_true] at standby
    exact Or.inr ⟨standby, accepted, sameTrans (sameOfEq rfl) (drawSame _ cycle draw)⟩
  · exact Or.inl rfl

end PlatformRte.SiteRole
