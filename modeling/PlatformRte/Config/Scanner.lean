import PlatformRte.Config.Definition
import PlatformRte.Lib.Reading

/-! The scanner of the configuration file. Every byte is read by its position, up to an
end that is given; outside is a read past the text. -/
namespace PlatformRte.Config
open Bytes Reading

abbrev Scan := Reading RteStatus

def isWs (byte : UInt8) : Bool := byte == 0x20 || byte == 0x09 || byte == 0x0A || byte == 0x0D

def isDigit (byte : UInt8) : Bool := decide (0x30 ≤ byte) && decide (byte ≤ 0x39)

def quote : UInt8 := 0x22
def colon : UInt8 := 0x3A
def comma : UInt8 := 0x2C
def arrayStart : UInt8 := 0x5B
def arrayEnd : UInt8 := 0x5D
def objectStart : UInt8 := 0x7B
def objectEnd : UInt8 := 0x7D

def skipWs (buf : Bytes) (len pos : Nat) : Scan Nat := skipWhile isWs buf (len - pos) pos

/- for (i = start; i + size of the needle <= end; i++), with count steps left. -/
def searchKey (buf : Bytes) (endPos : Nat) (needle : Bytes) : Nat → Nat → Scan Nat
  | 0, _ => .refused .invalidState
  | count + 1, i => do
      let here ← readRange buf i needle.length
      if here = needle then
        let pos ← skipWs buf endPos (i + needle.length)
        if endPos ≤ pos then searchKey buf endPos needle count (i + 1)
        else
          let mark ← readAt buf pos
          if mark = colon then skipWs buf endPos (pos + 1)
          else searchKey buf endPos needle count (i + 1)
      else searchKey buf endPos needle count (i + 1)

def needleSize : Nat := 40

def findKeyValuePosBounded (buf : Bytes) (startPos endPos : Nat) (key : Bytes) : Scan Nat :=
  let opened := quote :: key.take (needleSize - 2)
  if needleSize ≤ opened.length + 1 then .refused .invalidParam
  else
    let needle := opened ++ [quote]
    if endPos < startPos + needle.length then .refused .invalidState
    else searchKey buf endPos needle (endPos + 1 - needle.length - startPos) startPos

def parseStringValue (buf : Bytes) (len pos outSize : Nat) : Scan (Bytes × Nat) :=
  if len ≤ pos then .refused .invalidState
  else do
    let first ← readAt buf pos
    if first ≠ quote then .refused .invalidState
    else
      let stop ← skipWhile (fun byte => byte != quote) buf (len - (pos + 1)) (pos + 1)
      if len ≤ stop then .refused .invalidState
      else if outSize ≤ stop - (pos + 1) then .refused .invalidState
      else do
        let text ← readRange buf (pos + 1) (stop - (pos + 1))
        .done (text, stop + 1)

def parseText (buf : Bytes) (len outSize pos : Nat) : Scan Bytes := do
  let (text, _) ← parseStringValue buf len pos outSize
  .done text

-- Wraps, and takes a numeric prefix.
def addDigit (value : UInt32) (byte : UInt8) : Except RteStatus UInt32 := .ok (value * 10 + (byte - 0x30).toUInt32)

def parseUintValue (buf : Bytes) (len pos : Nat) : Scan UInt32 := do
  let (value, stop) ← foldWhile isDigit addDigit buf (len - pos) pos 0
  if stop = pos then .refused .invalidState else .done value

def checkDigits (buf : Bytes) : Nat → Nat → UInt32 → Scan (RteStatus × Nat × UInt32)
  | 0, idx, value => .done (.ok, idx, value)
  | left + 1, idx, value => do
      let byte ← readAt buf idx
      if isDigit byte then
        let digit := (byte - 0x30).toUInt32
        if (0xFFFFFFFF - digit) / 10 < value then .done (.invalidState, idx, value)
        else checkDigits buf left (idx + 1) (value * 10 + digit)
      else .done (.ok, idx, value)

def checkBehind (buf : Bytes) (len idx : Nat) : Scan RteStatus := do
  let idx ← skipWs buf len idx
  if len ≤ idx then .done .ok
  else
    let next ← readAt buf idx
    .done (if next ≠ comma then .invalidState else .ok)

/- With the variable behind out: what is returned and what stands in it then. -/
def parseUint32CheckedInto (buf : Bytes) (len pos : Nat) (out : UInt32) : Scan (RteStatus × UInt32) := do
  let (status, idx, value) ← checkDigits buf (len - pos) pos 0
  let status := if status = .ok ∧ idx = pos then .invalidState else status
  let status ← if status = .ok then checkBehind buf len idx else .done status
  .done (status, if status = .ok then value else out)

def parseRequired {α : Type} (buf : Bytes) (startPos endPos : Nat) (key : Bytes) (value : Nat → Scan α) : Scan α := do
  let valPos ← (findKeyValuePosBounded buf startPos endPos key).refuseAs .invalidState
  value valPos

def parseGiven {α : Type} (buf : Bytes) (startPos endPos : Nat) (key : Bytes) (absent : Scan α)
    (value : Nat → Scan α) : Scan α := do
  match ← (findKeyValuePosBounded buf startPos endPos key).attempt with
  | none => absent
  | some valPos => value valPos

def parseOptional {α : Type} (buf : Bytes) (startPos endPos : Nat) (key : Bytes) (value : Nat → Scan α) :
    Scan (Option α) := do
  match ← (findKeyValuePosBounded buf startPos endPos key).attempt with
  | none => .done none
  | some valPos => (value valPos).attempt

def parseOptionalChannelU32Into (buf : Bytes) (objStart objEnd : Nat) (key : Bytes) (out : UInt32) :
    Scan (RteStatus × UInt32) := do
  match ← (findKeyValuePosBounded buf objStart objEnd key).attempt with
  | none => .done (.ok, out)
  | some valPos => parseUint32CheckedInto buf objEnd valPos out

def parseOptionalChannelU32 (buf : Bytes) (objStart objEnd : Nat) (key : Bytes) : Scan UInt32 := do
  let (status, value) ← parseOptionalChannelU32Into buf objStart objEnd key 0
  if status = .ok then .done value else .refused status

def skipComma (buf : Bytes) (len pos : Nat) : Scan Nat := do
  let pos ← skipWs buf len pos
  if len ≤ pos then .done pos
  else
    let next ← readAt buf pos
    if next = comma then skipWs buf len (pos + 1) else .done pos

def parseItems {α : Type} (item : Nat → Scan (α × Nat)) (buf : Bytes) (len : Nat) : Nat → Nat → Scan (List α)
  | room, pos =>
    if len ≤ pos then .refused .invalidState
    else do
      let next ← readAt buf pos
      if next = arrayEnd then .done []
      else
        match room with
        | 0 => .refused .invalidState
        | room + 1 =>
            let (value, endPos) ← item pos
            let pos ← skipComma buf len endPos
            let rest ← parseItems item buf len room pos
            .done (value :: rest)

def parseArray {α : Type} (item : Nat → Scan (α × Nat)) (buf : Bytes) (len pos maxItems : Nat) : Scan (List α) :=
  if len ≤ pos then .refused .invalidState
  else do
    let first ← readAt buf pos
    if first ≠ arrayStart then .refused .invalidState
    else
      let pos ← skipWs buf len (pos + 1)
      parseItems item buf len maxItems pos

def parseStringArray (buf : Bytes) (len pos maxItems : Nat) : Scan (List Bytes) :=
  parseArray (fun pos => parseStringValue buf len pos maxRoleNameLen) buf len pos maxItems

def strBufSize : Nat := 64

def parseChannelObject (buf : Bytes) (objStart objEnd : Nat) : Scan ChannelDef := do
  let id ← parseGiven buf objStart objEnd (ascii "id") (.done 0) (parseUintValue buf objEnd)
  let name ← parseRequired buf objStart objEnd (ascii "name") (parseText buf objEnd maxNameLen)
  let transport ← parseOptional buf objStart objEnd (ascii "transport") (parseText buf objEnd strBufSize)
  let role ← parseOptional buf objStart objEnd (ascii "role") (parseText buf objEnd strBufSize)
  let host ← parseOptional buf objStart objEnd (ascii "host") (parseText buf objEnd maxHostLen)
  let port ← parseOptional buf objStart objEnd (ascii "port") (parseUintValue buf objEnd)
  let messageSize ← parseOptional buf objStart objEnd (ascii "message_size") (parseUintValue buf objEnd)
  let connectTimeoutMs ← parseOptional buf objStart objEnd (ascii "connect_timeout_ms") (parseUintValue buf objEnd)
  let rcvbufBytes ← parseOptionalChannelU32 buf objStart objEnd (ascii "rcvbuf_bytes")
  let sndbufBytes ← parseOptionalChannelU32 buf objStart objEnd (ascii "sndbuf_bytes")
  .done {
    id := id
    name := stored maxNameLen name
    transport := (transport.bind fun text => (channelConfigTransportFromString text).toOption).getD .flow
    role := (role.bind fun text => (channelConfigRoleFromString text).toOption).getD .connect
    host := stored maxHostLen (host.getD [])
    port := (port.getD 0).toUInt16
    messageSize := messageSize.getD 0
    connectTimeoutMs := connectTimeoutMs.getD 0
    rcvbufBytes := rcvbufBytes
    sndbufBytes := sndbufBytes }

/- An object ends at the next closing brace, whatever stands before it. -/
def parseChannelItem (buf : Bytes) (len pos : Nat) : Scan (ChannelDef × Nat) := do
  let first ← readAt buf pos
  if first ≠ objectStart then .refused .invalidState
  else
    let objEnd ← skipWhile (fun byte => byte != objectEnd) buf (len - (pos + 1)) (pos + 1)
    if len ≤ objEnd then .refused .invalidState
    else do
      let channel ← parseChannelObject buf pos objEnd
      .done (channel, objEnd + 1)

def parseChannelsArray (buf : Bytes) (len pos maxItems : Nat) : Scan (List ChannelDef) :=
  parseArray (parseChannelItem buf len) buf len pos maxItems

structure Voting where
  topology : RedundancyTopology
  replicaCount : UInt32
  quorumSize : UInt32
  deriving DecidableEq, Repr

def defaultQuorum (topology : RedundancyTopology) (replicaCount : UInt32) : Scan UInt32 :=
  match topology with
  | .twoOutOfTwo | .twoOutOfTwoRedundant => if replicaCount < 2 then .refused .invalidState else .done 2
  | .twoOutOfThree => if replicaCount ≠ 3 then .refused .invalidState else .done 2
  | .nmr => .refused .invalidState

def topologyNameSize : Nat := 24

def ofStatus {α : Type} (result : Except RteStatus α) : Scan α :=
  match result with
  | .error _ => .refused .invalidState
  | .ok value => .done value

def parseTopologyReplicasAndQuorum (buf : Bytes) (len : Nat) : Scan Voting := do
  let topologyName ← parseRequired buf 0 len (ascii "topology") (parseText buf len topologyNameSize)
  let topology ← ofStatus (topologyFromString topologyName)
  let replicaCount ← parseRequired buf 0 len (ascii "replicas") (parseUintValue buf len)
  if replicaCount < 1 ∨ UInt32.ofNat maxReplicas < replicaCount then .refused .invalidState
  else
    let quorumSize ← parseGiven buf 0 len (ascii "quorum") (defaultQuorum topology replicaCount) (parseUintValue buf len)
    if quorumSize < 1 ∨ replicaCount < quorumSize then .refused .invalidState
    else .done ⟨topology, replicaCount, quorumSize⟩

def standbyModeNameSize : Nat := 8

def parseOptionalStandbyMode (buf : Bytes) (len : Nat) : Scan StandbyMode :=
  parseGiven buf 0 len (ascii "standby_mode") (.done .cold) fun valuePos => do
    let standbyModeName ← parseText buf len standbyModeNameSize valuePos
    ofStatus (standbyModeFromString standbyModeName)

def parseOptionalRoles (buf : Bytes) (len : Nat) : Scan (List Bytes) :=
  parseGiven buf 0 len (ascii "roles") (.done []) fun valuePos => parseStringArray buf len valuePos maxReplicas

def parseOptionalChannels (buf : Bytes) (len : Nat) : Scan (List ChannelDef) :=
  parseGiven buf 0 len (ascii "channels") (.done []) fun valuePos => parseChannelsArray buf len valuePos maxChannels

def filledConfig (voting : Voting) (standbyMode : StandbyMode) (roles : List Bytes) (channels : List ChannelDef) :
    RedundancyConfig where
  topology := voting.topology
  replicaCount := voting.replicaCount
  quorumSize := voting.quorumSize
  standbyMode := standbyMode
  roleCount := UInt32.ofNat roles.length
  roles := Vector.ofFn fun i => stored maxRoleNameLen (roles.getD i [])
  channelCount := UInt32.ofNat channels.length
  channels := Vector.ofFn fun i => channels.getD i clearedChannel

def parseConfig (buf : Bytes) (len : Nat) : Scan RedundancyConfig := do
  let voting ← parseTopologyReplicasAndQuorum buf len
  let standbyMode ← parseOptionalStandbyMode buf len
  let roles ← parseOptionalRoles buf len
  let channels ← parseOptionalChannels buf len
  .done (filledConfig voting standbyMode roles channels)

end PlatformRte.Config
