import PlatformRte.Dual.Channel
import PlatformRte.Voter.Voting
import Mathlib.Logic.Function.Basic

/-! The safe channel: it opens the links of its configuration, puts a dual channel or a voter
over them, and closes what it has opened when one of these steps fails. -/
namespace PlatformRte.Safechannel
open Bytes Checksum Voter PlatformRte.Dual.Channel

def safechannelMaxLinks : UInt32 := 4

def vitalMessageSize : UInt64 := UInt64.ofNat (vitalPayloadOffset + vitalPayloadMax + 8)

inductive SafechannelType where
  | dualRedundant | vitalVoted | other (value : UInt32)
  deriving DecidableEq, Repr

inductive NetlinkRole where
  | listen | connect
  deriving DecidableEq, Repr

structure SafechannelEndpoint where
  role : NetlinkRole
  host : Option Bytes
  port : UInt16
  deriving DecidableEq, Repr

structure NetlinkConfig where
  role : NetlinkRole
  host : Option Bytes
  port : UInt16
  messageSize : UInt64
  connectTimeoutMs : UInt32
  deriving DecidableEq, Repr

structure SafechannelDualConfig where
  endpoints : Nat → SafechannelEndpoint
  linkCount : UInt32
  senderId : UInt32
  expectedPeerId : UInt32
  connectTimeoutMs : UInt32
  ackTimeoutMs : UInt32
  -- whether a callback was given
  statusCallback : Bool

structure SafechannelVitalConfig where
  endpoints : Nat → SafechannelEndpoint
  linkCount : UInt32
  messageSize : UInt64
  votingStrategy : VotingStrategy
  quorumSize : UInt32
  connectTimeoutMs : UInt32
  onDisagreement : Bool

-- The two configurations share their place; the type says which of them is there.
structure SafechannelConfig where
  type : SafechannelType
  dual : SafechannelDualConfig
  vital : SafechannelVitalConfig

inductive OpenAnswer where
  | opened (handle : Nat)
  | failed (status : RteStatus) (bad : status ≠ .ok)

/- What the services under the safe channel answer, the i-th call of each kind by its number. -/
structure Services where
  netlinkOpen : Nat → NetlinkConfig → OpenAnswer
  dualChannelInit : DualChannelConfig → RteStatus
  voterInit : VoterConfig → RteStatus
  channelInit : Nat → RteStatus
  voterRegisterChannel : Nat → RteStatus

structure RteSafechannel where
  type : SafechannelType
  isOpen : Bool
  linkHandles : Nat → Option Nat
  linkCount : UInt32

inductive ServiceCall where
  | opened (handle : Nat)
  | closed (handle : Nat)
  | channelDestroyed (i : Nat)
  | voterDestroyed
  deriving DecidableEq, Repr

structure Progress where
  channel : RteSafechannel
  calls : List ServiceCall

-- What netlink_close returns is not looked at.
def closeLink (p : Progress) (i : Nat) : Progress :=
  match p.channel.linkHandles i with
  | none => p
  | some handle =>
    ⟨{ p.channel with linkHandles := Function.update p.channel.linkHandles i none }, p.calls ++ [.closed handle]⟩

def safechannelCloseLinks (p : Progress) (count : Nat) : Progress := (List.range count).foldl closeLink p

def openConfig (endpoint : SafechannelEndpoint) (messageSize : UInt64) (connectTimeoutMs : UInt32) : NetlinkConfig :=
  ⟨endpoint.role, endpoint.host, endpoint.port, messageSize, connectTimeoutMs⟩

def openLinks (services : Services) (endpoints : Nat → SafechannelEndpoint) (messageSize : UInt64)
    (connectTimeoutMs : UInt32) : Nat → Nat → Progress → RteStatus × Progress
  | 0, _, p => (.ok, p)
  | left + 1, i, p =>
    match services.netlinkOpen i (openConfig (endpoints i) messageSize connectTimeoutMs) with
    | .failed status _ => (status, safechannelCloseLinks p i)
    | .opened handle =>
      openLinks services endpoints messageSize connectTimeoutMs left (i + 1)
        ⟨{ p.channel with linkHandles := Function.update p.channel.linkHandles i (some handle) },
          p.calls ++ [.opened handle]⟩

def hostMissing (endpoints : Nat → SafechannelEndpoint) (linkCount : UInt32) : Bool :=
  (List.range linkCount.toNat).any fun i => (endpoints i).role == .connect && (endpoints i).host.isNone

def linkCountBad (linkCount : UInt32) : Bool := decide (linkCount = 0 ∨ linkCount > safechannelMaxLinks)

def closeAll (p : Progress) (status : RteStatus) : RteStatus × Progress :=
  let closed := safechannelCloseLinks p p.channel.linkCount.toNat
  (status, { closed with channel := { closed.channel with linkCount := 0 } })

def safechannelOpenDual (services : Services) (cfg : SafechannelDualConfig) (p : Progress) : RteStatus × Progress :=
  if linkCountBad cfg.linkCount = true then (.invalidParam, p)
  else if hostMissing cfg.endpoints cfg.linkCount = true then (.invalidParam, p)
  else
    match openLinks services cfg.endpoints vitalMessageSize cfg.connectTimeoutMs cfg.linkCount.toNat 0 p with
    | (.ok, p) =>
      let p : Progress := { p with channel := { p.channel with linkCount := cfg.linkCount } }
      let status := services.dualChannelInit
        { links := (List.range 4).map fun i => decide (i < cfg.linkCount.toNat) && (p.channel.linkHandles i).isSome
          linkCount := cfg.linkCount.toNat
          senderId := cfg.senderId
          expectedPeerId := cfg.expectedPeerId
          ackTimeoutMs := cfg.ackTimeoutMs
          statusCallback := cfg.statusCallback }
      if status ≠ .ok then closeAll p status else (.ok, p)
    | (status, p) => (status, p)

def registerChannels (services : Services) : Nat → Nat → Progress → RteStatus × Progress
  | 0, _, p => (.ok, p)
  | left + 1, i, p =>
    let init := services.channelInit i
    let status := if init = .ok then services.voterRegisterChannel i else init
    if status ≠ .ok then closeAll p status else registerChannels services left (i + 1) p

def safechannelOpenVital (services : Services) (cfg : SafechannelVitalConfig) (p : Progress) : RteStatus × Progress :=
  if linkCountBad cfg.linkCount = true ∨ cfg.messageSize = 0 then (.invalidParam, p)
  else if hostMissing cfg.endpoints cfg.linkCount = true then (.invalidParam, p)
  else
    match openLinks services cfg.endpoints cfg.messageSize cfg.connectTimeoutMs cfg.linkCount.toNat 0 p with
    | (.ok, p) =>
      let p := { p with channel := { p.channel with linkCount := cfg.linkCount } }
      let status := services.voterInit
        { votingStrategy := cfg.votingStrategy
          quorumSize := cfg.quorumSize
          compare := none
          safestateLevel := .safe
          safestateReason := safestateReasonUnspecified
          onDisagreement := cfg.onDisagreement }
      if status ≠ .ok then closeAll p status else registerChannels services cfg.linkCount.toNat 0 p
    | (status, p) => (status, p)

-- The storage is zeroed first, whatever it held.
def rteSafechannelOpen (services : Services) (channel : Option RteSafechannel) (config : Option SafechannelConfig) :
    RteStatus × Option RteSafechannel × List ServiceCall :=
  match channel, config with
  | some _, some config =>
    let fresh : Progress := ⟨⟨config.type, false, fun _ => none, 0⟩, []⟩
    let (status, p) :=
      match config.type with
      | .dualRedundant => safechannelOpenDual services config.dual fresh
      | .vitalVoted => safechannelOpenVital services config.vital fresh
      | .other _ => (.invalidParam, fresh)
    (status, some { p.channel with isOpen := decide (status = .ok) }, p.calls)
  | _, _ => (.invalidParam, channel, [])

def rteSafechannelClose (channel : Option RteSafechannel) : RteStatus × Option RteSafechannel × List ServiceCall :=
  match channel with
  | none => (.ok, none, [])
  | some channel =>
    if channel.isOpen = false then (.ok, some channel, [])
    else
      let count := channel.linkCount.toNat
      let destroyed :=
        if channel.type = .vitalVoted then (List.range count).map .channelDestroyed ++ [.voterDestroyed] else []
      let p := safechannelCloseLinks ⟨channel, destroyed⟩ count
      (.ok, some { p.channel with linkCount := 0, isOpen := false }, p.calls)

end PlatformRte.Safechannel
