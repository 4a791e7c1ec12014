import PlatformRte.SiteRole.Policy
import PlatformRte.SiteRole.Frame
import PlatformRte.Dual.Negotiator

/-! The state of one site-role channel and the role changes it reports. What a
callback or the link answers is an argument of the function that asks; what passes
between the channel and the outside is kept in three logs, newest first. -/
namespace PlatformRte.SiteRole
open PlatformRte.Dual

def defaultChallengeLifetimeCycles : UInt32 := 240
def defaultSiblingReachCycles : UInt32 := 3
def siblingMismatchLimit : UInt8 := 3

structure SiteRoleConfig where
  ownId : UInt32
  peerId : UInt32
  isWest : Bool
  listen : Bool
  peerHost : Option String
  peerLostTimeoutMs : UInt32
  reconnectAttemptMs : UInt32
  startupTimeoutMs : UInt32
  linkPollMs : UInt32
  connectRetryMs : UInt32
  connectTimeoutMs : UInt32
  -- whether the application gave a delay callback
  delay : Bool
  sendMissThreshold : UInt8
  standbySync : Bool
  startupTimestampMs : UInt64
  frameSize : Nat
  -- what the caller's receive buffer holds at first
  rxBuf : Bytes
  verifyMac : Option (Bytes → Bytes → Bool)
  channelId : UInt8
  challengeLifetimeCycles : UInt32
  siblingSource : Bool
  siblingReachCycles : UInt32

structure SiteRoleLocal where
  faulted : Bool
  singleMode : Bool
  ownReady : Bool
  siblingOnline : Bool
  siblingReady : Bool
  siblingReachable : Bool
  deriving DecidableEq, Repr

structure SiteRoleSibling where
  known : Bool
  online : Bool
  singleMode : Bool
  ready : Bool
  deriving DecidableEq, Repr

inductive SiblingVerdict where
  | unknown | agree | pending | fault
  deriving DecidableEq, Repr

inductive ChangeKind where
  | promoted | demoted | renegotiated
  deriving DecidableEq, Repr

structure SiteRoleChange where
  kind : ChangeKind
  reason : SiteRoleReason
  online : Bool
  applyState : Bool
  snapshotValid : Bool
  snapshotCycle : UInt32
  deriving DecidableEq, Repr

inductive LinkEvent where
  | opened (timeoutMs : UInt32) (status : RteStatus)
  | delayed (ms : UInt32)
  deriving DecidableEq, Repr

inductive RoleEvent where
  | decoded (cycle : UInt32) (faulted valid : Bool)
  | confirmed (cycle : UInt32)
  | changed (cycle : UInt32) (change : SiteRoleChange)
  deriving DecidableEq, Repr

inductive TokenEvent where
  | drew (cycle : UInt32) (challenge : Option UInt32)
  | accepted (token : Bytes)
  | executed (cycle : UInt32)
  deriving DecidableEq, Repr

structure RteSiteRole where
  cfg : SiteRoleConfig
  link : Bool
  negotiator : DualNegotiator
  startupTimestampMs : UInt64
  sendMiss : UInt8
  rxBuf : Bytes
  online : Bool
  localFaulted : Bool
  localSingleMode : Bool
  peerFaulted : Bool
  peerSingleMode : UInt8
  peerOnlineNow : Bool
  peerLastRxCycle : UInt32
  peerSnapshotValid : Bool
  peerSnapshotCycle : UInt32
  peerUnresponsive : Bool
  lostPeerWhileOnline : Bool
  takeoverConfirmed : Bool
  takeoverConfirmCycle : UInt32
  bothStandbyCycles : UInt32
  lastReason : SiteRoleReason
  lastReasonSet : Bool
  standbyHealthy : Bool
  standbyLastTryCycle : UInt32
  standbyRxCycle : UInt32
  standbyWarm : Bool
  cycle : UInt32
  siblingMismatch : UInt8
  challengeValid : Bool
  challenge : UInt32
  challengeCycle : UInt32
  challengeFailReported : Bool
  sibling : SiteRoleSibling
  siblingRxCycle : UInt32
  siblingVerdict : SiblingVerdict
  linkLog : List LinkEvent
  roleLog : List RoleEvent
  tokenLog : List TokenEvent

/- The zeroed state with the few fields rte_site_role_init() sets. -/
def initialState (cfg : SiteRoleConfig) : RteSiteRole where
  cfg := { cfg with
    siblingReachCycles := if cfg.siblingReachCycles = 0 then defaultSiblingReachCycles else cfg.siblingReachCycles }
  link := false
  negotiator := dualNegotiatorInit ⟨0, 0, 0, .idle, 0⟩ 0
  startupTimestampMs := cfg.startupTimestampMs
  sendMiss := 0
  rxBuf := cfg.rxBuf
  online := false
  localFaulted := false
  localSingleMode := false
  peerFaulted := false
  peerSingleMode := 0
  peerOnlineNow := false
  peerLastRxCycle := 0
  peerSnapshotValid := false
  peerSnapshotCycle := 0
  peerUnresponsive := false
  lostPeerWhileOnline := false
  takeoverConfirmed := false
  takeoverConfirmCycle := 0
  bothStandbyCycles := 0
  lastReason := .none
  lastReasonSet := true
  standbyHealthy := true
  standbyLastTryCycle := 0
  standbyRxCycle := 0
  standbyWarm := false
  cycle := 0
  siblingMismatch := 0
  challengeValid := false
  challenge := 0
  challengeCycle := 0
  challengeFailReported := false
  sibling := ⟨false, false, false, false⟩
  siblingRxCycle := 0
  siblingVerdict := .unknown
  linkLog := []
  roleLog := []
  tokenLog := []

def siteRoleInit (cfg : SiteRoleConfig) : Except RteStatus RteSiteRole :=
  if cfg.frameSize ≤ frameOverhead ∨ 255 < cfg.frameSize ∨ (cfg.listen = false ∧ cfg.peerHost = none) then
    .error .invalidParam
  else .ok (initialState cfg)

/- The application renumbers its cycle from an adopted snapshot, so the stamps of
the old numbering are dropped. -/
def reportChange (rs : RteSiteRole) (kind : ChangeKind) (reason : SiteRoleReason) (applyState : Bool) : RteSiteRole :=
  let change : SiteRoleChange :=
    ⟨kind, reason, rs.online, applyState, rs.peerSnapshotValid, rs.peerSnapshotCycle⟩
  let adopted := applyState && rs.peerSnapshotValid
  { rs with
    roleLog := .changed rs.cycle change :: rs.roleLog
    peerLastRxCycle := if adopted then 0 else rs.peerLastRxCycle
    standbyRxCycle := if adopted then 0 else rs.standbyRxCycle
    standbyLastTryCycle := if adopted then 0 else rs.standbyLastTryCycle }

def promoteToOnline (rs : RteSiteRole) (reason : SiteRoleReason) : RteSiteRole :=
  reportChange { rs with online := true, peerUnresponsive := false, takeoverConfirmed := false }
    .promoted reason true

def demoteToStandby (rs : RteSiteRole) (reason : SiteRoleReason) : RteSiteRole :=
  reportChange { rs with online := false, lostPeerWhileOnline := false } .demoted reason false

def renegotiateFromDeadlock (rs : RteSiteRole) (reason : SiteRoleReason) : RteSiteRole :=
  reportChange { rs with online := rs.cfg.isWest } .renegotiated reason rs.cfg.isWest

structure Challenge where
  cfg : SiteRoleConfig
  valid : Bool
  value : UInt32
  cycle : UInt32
  log : List TokenEvent

def challengeOf (rs : RteSiteRole) : Challenge :=
  ⟨rs.cfg, rs.challengeValid, rs.challenge, rs.challengeCycle, rs.tokenLog⟩

def siblingCheckOf (rs : RteSiteRole) : UInt8 × SiblingVerdict := (rs.siblingMismatch, rs.siblingVerdict)

def asideOf (rs : RteSiteRole) : Challenge × UInt8 × SiblingVerdict := (challengeOf rs, siblingCheckOf rs)

structure Bookkeeping where
  negotiator : DualNegotiator
  startupTimestampMs : UInt64
  sendMiss : UInt8
  lastReason : SiteRoleReason
  lastReasonSet : Bool
  standbyHealthy : Bool
  standbyLastTryCycle : UInt32
  standbyWarm : Bool
  siblingMismatch : UInt8
  challengeValid : Bool
  challenge : UInt32
  challengeCycle : UInt32
  challengeFailReported : Bool
  siblingVerdict : SiblingVerdict
  linkLog : List LinkEvent
  tokenLog : List TokenEvent

namespace RteSiteRole

def bookkeeping (rs : RteSiteRole) : Bookkeeping :=
  ⟨rs.negotiator, rs.startupTimestampMs, rs.sendMiss, rs.lastReason, rs.lastReasonSet, rs.standbyHealthy,
    rs.standbyLastTryCycle, rs.standbyWarm, rs.siblingMismatch, rs.challengeValid, rs.challenge, rs.challengeCycle,
    rs.challengeFailReported, rs.siblingVerdict, rs.linkLog, rs.tokenLog⟩

def keeping (rs : RteSiteRole) (b : Bookkeeping) : RteSiteRole :=
  { rs with
    negotiator := b.negotiator
    startupTimestampMs := b.startupTimestampMs
    sendMiss := b.sendMiss
    lastReason := b.lastReason
    lastReasonSet := b.lastReasonSet
    standbyHealthy := b.standbyHealthy
    standbyLastTryCycle := b.standbyLastTryCycle
    standbyWarm := b.standbyWarm
    siblingMismatch := b.siblingMismatch
    challengeValid := b.challengeValid
    challenge := b.challenge
    challengeCycle := b.challengeCycle
    challengeFailReported := b.challengeFailReported
    siblingVerdict := b.siblingVerdict
    linkLog := b.linkLog
    tokenLog := b.tokenLog }

@[simp] theorem keepingCfg (rs : RteSiteRole) (kept : Bookkeeping) : (rs.keeping kept).cfg = rs.cfg := rfl

/- rs' differs from rs in bookkeeping only. -/
def Same (rs rs' : RteSiteRole) : Prop := ∃ kept, rs' = rs.keeping kept

theorem sameOfEq {rs rs' : RteSiteRole} (equal : rs' = rs.keeping rs'.bookkeeping) : Same rs rs' := ⟨_, equal⟩

theorem sameRefl (rs : RteSiteRole) : Same rs rs := sameOfEq rfl

theorem sameTrans {a b c : RteSiteRole} (first : Same a b) (second : Same b c) : Same a c := by
  obtain ⟨_, rfl⟩ := first
  obtain ⟨kept, rfl⟩ := second
  exact ⟨kept, rfl⟩

end RteSiteRole
end PlatformRte.SiteRole
