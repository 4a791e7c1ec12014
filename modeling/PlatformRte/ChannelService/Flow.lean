import PlatformRte.Safechannel.Open
import PlatformRte.Config.Load

/-! The channel service over flows. A set up only stores what it has resolved; the flow is
opened by the first read or send, and again by each later one until that succeeds. -/
namespace PlatformRte.ChannelService
open Bytes Config
open Safechannel (NetlinkRole NetlinkConfig)

def flowORequester : UInt32 := 1
def flowOResponder : UInt32 := 2
def flowOPublisher : UInt32 := 4
def flowOSubscriber : UInt32 := 8

structure FlowConfig where
  name : Bytes
  oflags : UInt32
  messageSize : UInt64
  openTimeoutMs : UInt32
  deriving DecidableEq, Repr

/- Which operations the OSAdapter of the flow service has. -/
structure FlowOsadapter where
  open_ : Bool
  send : Bool
  receive : Bool
  close : Bool
  deriving DecidableEq, Repr

/- What the OSAdapter answers to an open; it may leave the handle NULL. -/
inductive FlowOpenAnswer where
  | opened (handle : Option Nat)
  | failed (status : {status : RteStatus // status ≠ .ok})

inductive FlowCall where
  | opening (config : FlowConfig)
  | opened (handle : Nat)
  | sent (handle : Nat)
  | received (handle : Nat)
  | closed (handle : Nat)
  deriving DecidableEq, Repr

def oflagsSelectExactlyOneRole (oflags : UInt32) : Bool :=
  let roleBits := oflags &&& (flowORequester ||| flowOResponder ||| flowOPublisher ||| flowOSubscriber)
  roleBits != 0 && roleBits &&& (roleBits - 1) == 0

def flowOpen (osadapter : Option FlowOsadapter) (config : FlowConfig) (handle : Option Nat) (answer : FlowOpenAnswer) :
    RteStatus × Option Nat × List FlowCall :=
  if config.messageSize = 0 then (.invalidParam, handle, [])
  else if !oflagsSelectExactlyOneRole config.oflags then (.invalidParam, handle, [])
  else
    match osadapter with
    | none => (.notInitialized, none, [])
    | some osadapter =>
      if !osadapter.open_ then (.notSupported, none, [])
      else
        match answer with
        | .opened handle => (.ok, handle, .opening config :: (handle.map .opened).toList)
        | .failed status => (status.val, none, [.opening config])

def flowCall (osadapter : Option FlowOsadapter) (operation : FlowOsadapter → Bool) (call : Nat → FlowCall)
    (handle : Option Nat) (answer : RteStatus) : RteStatus × List FlowCall :=
  match handle with
  | none => (.invalidParam, [])
  | some handle =>
    match osadapter with
    | none => (.notInitialized, [])
    | some osadapter => if !operation osadapter then (.notSupported, []) else (answer, [call handle])

def flowSend (osadapter : Option FlowOsadapter) (handle : Option Nat) (dataSize : Nat) (answer : RteStatus) :
    RteStatus × List FlowCall :=
  if dataSize = 0 then (.invalidParam, []) else flowCall osadapter FlowOsadapter.send .sent handle answer

def flowReceive (osadapter : Option FlowOsadapter) (handle : Option Nat) (bufferSize : Nat) (answer : RteStatus) :
    RteStatus × List FlowCall :=
  if bufferSize = 0 then (.invalidParam, []) else flowCall osadapter FlowOsadapter.receive .received handle answer

def flowClose (osadapter : Option FlowOsadapter) (handle : Option Nat) (answer : RteStatus) : RteStatus × List FlowCall :=
  flowCall osadapter FlowOsadapter.close .closed handle answer

def channelServiceNameSize : Nat := 32

structure FlowChannelState where
  flowHandle : Option Nat
  oflags : UInt32
  messageSize : UInt64
  nameBuf : CharArray channelServiceNameSize
  defaultTimeoutMs : UInt32
  resolved : Bool
  opened : Bool
  deriving DecidableEq, Repr

def clearedState : FlowChannelState := ⟨none, 0, 0, stored channelServiceNameSize [], 0, false, false⟩

def oflagsForRole : NetlinkRole → UInt32
  | .connect => flowOPublisher
  | .listen => flowOSubscriber

def channelsOf (config : RedundancyConfig) : List ChannelDef := config.channels.toList.take config.channelCount.toNat

def nameOf (channel : ChannelDef) : Bytes := cString channel.name.toList

def findChannelByName (config : RedundancyConfig) (name : Bytes) : Except RteStatus ChannelDef :=
  match (channelsOf config).find? fun channel => nameOf channel == name.take maxNameLen with
  | some channel => .ok channel
  | none => .error .invalidParam

def findChannelById (config : RedundancyConfig) (id : UInt32) : Except RteStatus ChannelDef :=
  match (channelsOf config).find? fun channel => channel.id == id with
  | some channel => .ok channel
  | none => .error .invalidParam

def resolvedFrom (channel : ChannelDef) : NetlinkConfig where
  role := match channel.role with
    | .connect => .connect
    | .listen => .listen
  host := if channel.host.toList.headD 0 ≠ 0 then some (cString channel.host.toList) else none
  port := channel.port
  messageSize := channel.messageSize.toUInt64
  connectTimeoutMs := channel.connectTimeoutMs

structure Resolution where
  resolver : Option (Bytes → Except RteStatus NetlinkConfig)
  active : Option RedundancyConfig

def resolve (from_ : Resolution) (channelName : Bytes) : Except RteStatus NetlinkConfig :=
  match from_.resolver with
  | some resolver => resolver channelName
  | none =>
    match from_.active with
    | none => .error .notInitialized
    | some active => (findChannelByName active channelName).map resolvedFrom

-- The storage is zeroed before the name is resolved.
def osadapterSetup (from_ : Resolution) (channelName : Bytes) : FlowChannelState × RteStatus :=
  match resolve from_ channelName with
  | .error status => (clearedState, status)
  | .ok resolved =>
    ({ clearedState with
        oflags := oflagsForRole resolved.role
        messageSize := resolved.messageSize
        nameBuf := stored channelServiceNameSize (channelName.take (channelServiceNameSize - 1))
        defaultTimeoutMs := resolved.connectTimeoutMs
        resolved := true }, .ok)

def openingConfig (state : FlowChannelState) (openTimeoutMs : UInt32) : FlowConfig where
  name := cString state.nameBuf.toList
  oflags := state.oflags
  messageSize := state.messageSize
  openTimeoutMs := if 0 < openTimeoutMs then openTimeoutMs else state.defaultTimeoutMs

def ensureOpen (osadapter : Option FlowOsadapter) (state : FlowChannelState) (openTimeoutMs : UInt32)
    (answer : FlowOpenAnswer) : FlowChannelState × RteStatus × List FlowCall :=
  if state.opened then (state, .ok, [])
  else
    let (status, handle, calls) := flowOpen osadapter (openingConfig state openTimeoutMs) state.flowHandle answer
    ({ state with flowHandle := handle, opened := decide (status = .ok) }, status, calls)

def openedCall (osadapter : Option FlowOsadapter) (state : FlowChannelState) (dataSize : Nat) (timeoutMs : UInt32)
    (answer : FlowOpenAnswer) (call : Option Nat → RteStatus × List FlowCall) :
    FlowChannelState × RteStatus × List FlowCall :=
  if dataSize = 0 then (state, .invalidParam, [])
  else if !state.resolved then (state, .notInitialized, [])
  else
    let (state, status, calls) := ensureOpen osadapter state timeoutMs answer
    if status ≠ .ok then (state, status, calls)
    else
      let called := call state.flowHandle
      (state, called.1, calls ++ called.2)

def osadapterRead (osadapter : Option FlowOsadapter) (state : FlowChannelState) (dataSize : Nat) (timeoutMs : UInt32)
    (openAnswer : FlowOpenAnswer) (answer : RteStatus) : FlowChannelState × RteStatus × List FlowCall :=
  openedCall osadapter state dataSize timeoutMs openAnswer fun handle => flowReceive osadapter handle dataSize answer

def backendSend (osadapter : Option FlowOsadapter) (state : FlowChannelState) (dataSize : Nat) (timeoutMs : UInt32)
    (openAnswer : FlowOpenAnswer) (answer : RteStatus) : FlowChannelState × RteStatus × List FlowCall :=
  openedCall osadapter state dataSize timeoutMs openAnswer fun handle => flowSend osadapter handle dataSize answer

def osadapterClose (osadapter : Option FlowOsadapter) (state : FlowChannelState) (answer : RteStatus) :
    FlowChannelState × RteStatus × List FlowCall :=
  if !state.opened then ({ state with resolved := false }, .ok, [])
  else
    let (status, calls) := flowClose osadapter state.flowHandle answer
    ({ state with opened := false, resolved := false }, status, calls)

/- registered: whether the channel service has its OSAdapter, which has every operation but
the read that reports a size. -/
structure Under where
  registered : Bool
  osadapter : Option FlowOsadapter

def channelServiceSetup (under : Under) (setupAllowed : RteStatus) (from_ : Resolution) (state : FlowChannelState)
    (channelName : Bytes) : FlowChannelState × RteStatus :=
  if setupAllowed ≠ .ok then (state, setupAllowed)
  else if !under.registered then (state, .notInitialized)
  else osadapterSetup from_ channelName

def channelServiceSetupById (under : Under) (setupAllowed : RteStatus) (from_ : Resolution) (state : FlowChannelState)
    (channelId : UInt32) : FlowChannelState × RteStatus :=
  match from_.active with
  | none => (state, .notInitialized)
  | some active =>
    match findChannelById active channelId with
    | .error status => (state, status)
    | .ok channel => channelServiceSetup under setupAllowed from_ state (nameOf channel)

def channelServiceRead (under : Under) (state : FlowChannelState) (dataSize : Nat) (timeoutMs : UInt32)
    (openAnswer : FlowOpenAnswer) (answer : RteStatus) : FlowChannelState × RteStatus × List FlowCall :=
  if dataSize = 0 then (state, .invalidParam, [])
  else if !under.registered then (state, .notInitialized, [])
  else osadapterRead under.osadapter state dataSize timeoutMs openAnswer answer

def channelServiceReadEx (under : Under) (state : FlowChannelState) (dataSize : Nat) (timeoutMs : UInt32)
    (openAnswer : FlowOpenAnswer) (answer : RteStatus) :
    FlowChannelState × RteStatus × List FlowCall × Option Nat :=
  let (state, status, calls) := channelServiceRead under state dataSize timeoutMs openAnswer answer
  (state, status, calls, if status = .ok then some dataSize else none)

def channelServiceSend (under : Under) (state : FlowChannelState) (dataSize : Nat) (timeoutMs : UInt32)
    (openAnswer : FlowOpenAnswer) (answer : RteStatus) : FlowChannelState × RteStatus × List FlowCall :=
  if dataSize = 0 then (state, .invalidParam, [])
  else if !under.registered then (state, .notInitialized, [])
  else backendSend under.osadapter state dataSize timeoutMs openAnswer answer

def channelServiceClose (under : Under) (state : FlowChannelState) (answer : RteStatus) :
    FlowChannelState × RteStatus × List FlowCall :=
  if !under.registered then (state, .notInitialized, [])
  else osadapterClose under.osadapter state answer

end PlatformRte.ChannelService
