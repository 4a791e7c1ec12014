import PlatformRte.Config.Limits
import PlatformRte.Lib.Bytes
import PlatformRte.Status

/-! A redundancy configuration: topology, replicas, quorum and channels, and the names its
values have in a file. -/
namespace PlatformRte.Config
open Bytes

inductive RedundancyTopology where
  | twoOutOfTwo | twoOutOfTwoRedundant | twoOutOfThree | nmr
  deriving DecidableEq, Repr

inductive StandbyMode where
  | hot | warm | cold
  deriving DecidableEq, Repr

inductive ChannelTransport where
  | flow | posixNetlink | dds
  deriving DecidableEq, Repr

inductive ChannelRole where
  | listen | connect
  deriving DecidableEq, Repr

abbrev CharArray (size : Nat) := Vector UInt8 size

def stored (size : Nat) (text : Bytes) : CharArray size := Vector.ofFn fun i => text.getD i 0

structure ChannelDef where
  id : UInt32
  name : CharArray maxNameLen
  transport : ChannelTransport
  role : ChannelRole
  host : CharArray maxHostLen
  port : UInt16
  messageSize : UInt32
  connectTimeoutMs : UInt32
  rcvbufBytes : UInt32
  sndbufBytes : UInt32
  deriving DecidableEq, Repr

structure RedundancyConfig where
  topology : RedundancyTopology
  replicaCount : UInt32
  quorumSize : UInt32
  standbyMode : StandbyMode
  roleCount : UInt32
  roles : Vector (CharArray maxRoleNameLen) maxReplicas
  channelCount : UInt32
  channels : Vector ChannelDef maxChannels
  deriving DecidableEq, Repr

def clearedChannel : ChannelDef :=
  ⟨0, stored maxNameLen [], .flow, .listen, stored maxHostLen [], 0, 0, 0, 0, 0⟩

def channelConfigTransportFromString (name : Bytes) : Except RteStatus ChannelTransport :=
  if cString name = ascii "flow" ∨ cString name = ascii "FLOW" then .ok .flow
  else if cString name = ascii "netlink" ∨ cString name = ascii "posix" ∨ cString name = ascii "POSIX" then
    .ok .posixNetlink
  else if cString name = ascii "dds" ∨ cString name = ascii "DDS" then .ok .dds
  else .error .invalidParam

def channelConfigRoleFromString (name : Bytes) : Except RteStatus ChannelRole :=
  if cString name = ascii "listen" ∨ cString name = ascii "LISTEN" ∨ cString name = ascii "subscriber" ∨
      cString name = ascii "SUBSCRIBER" then .ok .listen
  else if cString name = ascii "connect" ∨ cString name = ascii "CONNECT" ∨ cString name = ascii "publisher" ∨
      cString name = ascii "PUBLISHER" then .ok .connect
  else .error .invalidParam

def topologyFromString (name : Bytes) : Except RteStatus RedundancyTopology :=
  if cString name = ascii "2oo2" then .ok .twoOutOfTwo
  else if cString name = ascii "2oo2_redundant" then .ok .twoOutOfTwoRedundant
  else if cString name = ascii "2oo3" then .ok .twoOutOfThree
  else if cString name = ascii "nmr" then .ok .nmr
  else .error .invalidParam

def standbyModeFromString (name : Bytes) : Except RteStatus StandbyMode :=
  if cString name = ascii "hot" then .ok .hot
  else if cString name = ascii "warm" then .ok .warm
  else if cString name = ascii "cold" then .ok .cold
  else .error .invalidParam

/- The array holds a NUL, so it can be read as a C string. -/
def Terminated {size : Nat} (raw : CharArray size) : Prop := ∃ i, ∃ _ : i < size, raw[i] = 0

theorem storedTerminated {size : Nat} {text : Bytes} (fits : text.length < size) : Terminated (stored size text) :=
  ⟨text.length, fits, by simp [stored]⟩

end PlatformRte.Config
