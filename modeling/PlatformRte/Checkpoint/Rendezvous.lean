import PlatformRte.Checksum.VitalMessage
import PlatformRte.Voter.Voting

/-! The checkpoint rendezvous: rounds over the channels of a voter, each attempt a send
and a receive, until enough of them have confirmed the checkpoint, the budget is spent
or the rounds run out. The transports, the clock and the time each receive blocks are
arguments. -/
namespace PlatformRte.Checkpoint
open Bytes Checksum Voter

def checkpointSenderId : UInt32 := 0xC4EC0001
def checkpointRetryRoundMs : UInt32 := 250
def checkpointMinRoundsPerBudget : UInt32 := 3
def checkpointMaxRounds : Nat := 64

def vitalMessageSize : Nat := 272

structure CheckpointConfig where
  checkpointId : UInt32
  maxDelayMs : UInt32
  expectedNodeCount : UInt32
  -- whether one was given
  watchdog : Bool
  deriving DecidableEq, Repr

def buildArrivalMessage (m : ChecksumManager) (checkpointId : UInt32) (nowMs : UInt64) :
    ChecksumManager × Except RteStatus VitalMessage :=
  checksumVitalMessageCreate m checkpointSenderId checkpointId (leBytes 4 checkpointId.toNat) nowMs

def replyConfirmsCheckpoint (m : ChecksumManager) (reply : VitalMessage) (checkpointId : UInt32) :
    ChecksumManager × Bool :=
  let verified := checksumVitalMessageVerify m reply checkpointId 4
  match verified.2 with
  | .ok payload => (verified.1, decide (payload.length = 4 ∧ leValue payload = checkpointId.toNat))
  | .error _ => (verified.1, false)

def remainingBudgetMs (startMs nowMs : UInt64) (maxDelayMs : UInt32) : UInt32 :=
  let elapsedMs := nowMs - startMs
  if maxDelayMs.toUInt64 ≤ elapsedMs then 0 else maxDelayMs - elapsedMs.toUInt32

def checkpointRoundCapMs (maxDelayMs : UInt32) : UInt32 :=
  let budgetBased := maxDelayMs / checkpointMinRoundsPerBudget
  if 0 < budgetBased ∧ budgetBased < checkpointRetryRoundMs then budgetBased else checkpointRetryRoundMs

structure ChannelReply where
  send : RteStatus
  receive : RteStatus
  reply : VitalMessage

/- answer: by round and slot. blocks: the time the n-th receive would block. now: what
the n-th reading of the clock gives, after so much time blocked. -/
structure CheckpointEnv where
  answer : Nat → Nat → ChannelReply
  blocks : Nat → UInt32
  now : Nat → Nat → UInt64

structure Attempt where
  round : Nat
  slot : Nat
  message : VitalMessage

structure Receive where
  slot : Nat
  nowMs : UInt64
  timeoutMs : UInt32
  spentMs : Nat
  blockedMs : Nat
  deriving DecidableEq, Repr

structure CheckpointRun where
  voter : RteVoter
  manager : ChecksumManager
  startMs : UInt64
  nowMs : UInt64
  readings : Nat
  channelConfirmed : List Bool
  confirmedCount : Nat
  roundCount : Nat
  lastSendStatus : RteStatus
  lastRecvStatus : RteStatus
  attempts : List Attempt
  receives : List Receive
  spentMs : Nat
  kicks : Nat

def voterSetChannel (voter : RteVoter) (i : Nat) (channel : RteChannel) : RteVoter :=
  { voter with
    channels := voter.channels.set i channel
    channelsFit := by simpa using voter.channelsFit }

def readClock (env : CheckpointEnv) (s : CheckpointRun) : CheckpointRun :=
  { s with nowMs := env.now s.readings s.spentMs, readings := s.readings + 1 }

section Rounds
variable (env : CheckpointEnv) (config : CheckpointConfig) (arrival : VitalMessage)

def checkpointSend (s : CheckpointRun) (i : Nat) (channel : RteChannel) : CheckpointRun :=
  let sent := channelSend channel vitalMessageSize (env.answer s.roundCount i).send
  { s with
    voter := voterSetChannel s.voter i sent.1
    lastSendStatus := sent.2
    attempts := s.attempts ++ [⟨s.roundCount, i, arrival⟩] }

-- The receive is given what is left of the budget, at most the round's share, and
-- blocks no longer than that.
def boundedReceive (s : CheckpointRun) (i : Nat) : Receive :=
  let remaining := remainingBudgetMs s.startMs s.nowMs config.maxDelayMs
  let roundCap := checkpointRoundCapMs config.maxDelayMs
  let timeout := if roundCap < remaining then roundCap else remaining
  ⟨i, s.nowMs, timeout, s.spentMs, min (env.blocks s.receives.length).toNat timeout.toNat⟩

def checkpointReceive (s : CheckpointRun) (i : Nat) (channel : RteChannel) : CheckpointRun :=
  let receive := boundedReceive env config s i
  let received := channelReceive channel vitalMessageSize (env.answer s.roundCount i).receive
  { s with
    voter := voterSetChannel s.voter i received.1
    lastRecvStatus := received.2
    receives := s.receives ++ [receive]
    spentMs := s.spentMs + receive.blockedMs }

def checkpointConfirm (s : CheckpointRun) (i : Nat) : CheckpointRun × Bool :=
  if s.lastRecvStatus = .ok then
    let checked := replyConfirmsCheckpoint s.manager (env.answer s.roundCount i).reply config.checkpointId
    ({ s with manager := checked.1 }, checked.2)
  else (s, false)

def checkpointTryChannel (s : CheckpointRun) (i : Nat) : CheckpointRun × Bool :=
  match s.voter.channels[i]? with
  | none => ({ s with lastSendStatus := .invalidParam }, false)
  | some channel =>
    let sent := checkpointSend env arrival s i channel
    if sent.lastSendStatus = .ok then
      let channel := (channelSend channel vitalMessageSize (env.answer s.roundCount i).send).1
      checkpointConfirm env config (checkpointReceive env config (readClock env sent) i channel) i
    else (sent, false)

def pollSlot (s : CheckpointRun) (i : Nat) : CheckpointRun :=
  if s.channelConfirmed.getD i false then s
  else
    let tried := checkpointTryChannel env config arrival s i
    if tried.2 then
      { tried.1 with
        channelConfirmed := tried.1.channelConfirmed.set i true
        confirmedCount := tried.1.confirmedCount + 1 }
    else tried.1

def closeRound (s : CheckpointRun) : CheckpointRun :=
  let s := readClock env s
  { s with roundCount := s.roundCount + 1, kicks := if config.watchdog then s.kicks + 1 else s.kicks }

def checkpointRound (s : CheckpointRun) : CheckpointRun :=
  closeRound env config ((List.range s.voter.channels.length).foldl (pollSlot env config arrival) s)

def checkpointRounds : Nat → CheckpointRun → CheckpointRun
  | 0, s => s
  | left + 1, s =>
    if s.confirmedCount < config.expectedNodeCount.toNat ∧ 0 < remainingBudgetMs s.startMs s.nowMs config.maxDelayMs
    then checkpointRounds left (checkpointRound env config arrival s)
    else s

end Rounds

structure CheckpointOutcome where
  status : RteStatus
  run : CheckpointRun
  safestate : List SafestateEntry

def checkpointStart (voter : RteVoter) (m : ChecksumManager) (env : CheckpointEnv) : CheckpointRun where
  voter := voter
  manager := m
  -- the first reading is the time stamp of the arrival message
  startMs := env.now 1 0
  nowMs := env.now 1 0
  readings := 2
  channelConfirmed := List.replicate voterMaxChannels false
  confirmedCount := 0
  roundCount := 0
  lastSendStatus := .ok
  lastRecvStatus := .ok
  attempts := []
  receives := []
  spentMs := 0
  kicks := 0

def channelCheckpoint (voter : RteVoter) (m : ChecksumManager) (config : CheckpointConfig) (env : CheckpointEnv) :
    CheckpointOutcome :=
  if config.expectedNodeCount = 0 ∨ voter.channels.length < config.expectedNodeCount.toNat then
    ⟨.invalidParam, checkpointStart voter m env, []⟩
  else
    let built := buildArrivalMessage m config.checkpointId (env.now 0 0)
    match built.2 with
    | .error status => ⟨status, checkpointStart voter built.1 env, []⟩
    | .ok arrival =>
      let s := checkpointRounds env config arrival checkpointMaxRounds (checkpointStart voter built.1 env)
      if config.expectedNodeCount.toNat ≤ s.confirmedCount then
        ⟨.ok, { s with kicks := if config.watchdog then s.kicks + 1 else s.kicks }, []⟩
      else ⟨.timeout, s, [⟨.safe, safestateReasonCheckpointTimeout⟩]⟩

end PlatformRte.Checkpoint
