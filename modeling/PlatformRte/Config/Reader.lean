import PlatformRte.Config.Scanner

/-! The configuration file read from the front: the same results as the scanner's, for a
text instead of positions in a buffer. -/
namespace PlatformRte.Config
open Bytes Reading

def needleOf (key : Bytes) : Bytes := quote :: key ++ [quote]

def keyHere (needle text : Bytes) : Option Bytes :=
  if text.take needle.length = needle then
    match (text.drop needle.length).dropWhile isWs with
    | [] => none
    | mark :: rest => if mark = colon then some (rest.dropWhile isWs) else none
  else none

def valueOf (needle : Bytes) : Bytes → Option Bytes
  | [] => none
  | byte :: rest =>
      match keyHere needle (byte :: rest) with
      | some value => some value
      | none => valueOf needle rest

def stringOf (outSize : Nat) : Bytes → Option (Bytes × Bytes)
  | [] => none
  | first :: rest =>
      if first ≠ quote then none
      else
        match rest.dropWhile fun byte => byte != quote with
        | [] => none
        | _ :: behind =>
            if outSize ≤ (rest.takeWhile fun byte => byte != quote).length then none
            else some (rest.takeWhile fun byte => byte != quote, behind)

def numeralFrom (value : Nat) (digits : Bytes) : Nat :=
  digits.foldl (fun value byte => value * 10 + (byte.toNat - 0x30)) value

def numeral (digits : Bytes) : Nat := numeralFrom 0 digits

def digitsOf (text : Bytes) : Bytes := text.takeWhile isDigit

def uintOf (text : Bytes) : Option UInt32 :=
  if digitsOf text = [] then none else some (UInt32.ofNat (numeral (digitsOf text)))

def closed (text : Bytes) : Bool :=
  match text.dropWhile isWs with
  | [] => true
  | next :: _ => next == comma

def uint32CheckedOf (text : Bytes) : Option UInt32 :=
  if digitsOf text = [] ∨ 2 ^ 32 ≤ numeral (digitsOf text) ∨ closed (text.dropWhile isDigit) = false then none
  else some (UInt32.ofNat (numeral (digitsOf text)))

def afterComma (text : Bytes) : Bytes :=
  match text.dropWhile isWs with
  | [] => []
  | next :: rest => if next = comma then rest.dropWhile isWs else next :: rest

def itemsOf {α : Type} (item : Bytes → Option (α × Bytes)) : Nat → Bytes → Option (List α)
  | _, [] => none
  | room, next :: rest =>
      if next = arrayEnd then some []
      else
        match room with
        | 0 => none
        | room + 1 => do
            let (value, behind) ← item (next :: rest)
            let more ← itemsOf item room (afterComma behind)
            some (value :: more)

def arrayOf {α : Type} (item : Bytes → Option (α × Bytes)) (maxItems : Nat) : Bytes → Option (List α)
  | [] => none
  | first :: rest => if first ≠ arrayStart then none else itemsOf item maxItems (rest.dropWhile isWs)

def givenOf {α : Type} (found : Option Bytes) (absent : Option α) (value : Bytes → Option α) : Option α :=
  match found with
  | none => absent
  | some text => value text

def textOf (outSize : Nat) (text : Bytes) : Option Bytes := (stringOf outSize text).map Prod.fst

def channelFrom (look : Bytes → Option Bytes) : Option ChannelDef := do
  let id ← givenOf (look (ascii "id")) (some 0) uintOf
  let name ← (look (ascii "name")).bind (textOf maxNameLen)
  let rcvbufBytes ← givenOf (look (ascii "rcvbuf_bytes")) (some 0) uint32CheckedOf
  let sndbufBytes ← givenOf (look (ascii "sndbuf_bytes")) (some 0) uint32CheckedOf
  let transport := (look (ascii "transport")).bind (textOf strBufSize)
  let role := (look (ascii "role")).bind (textOf strBufSize)
  some {
    id := id
    name := stored maxNameLen name
    transport := (transport.bind fun text => (channelConfigTransportFromString text).toOption).getD .flow
    role := (role.bind fun text => (channelConfigRoleFromString text).toOption).getD .connect
    host := stored maxHostLen (((look (ascii "host")).bind (textOf maxHostLen)).getD [])
    port := (((look (ascii "port")).bind uintOf).getD 0).toUInt16
    messageSize := ((look (ascii "message_size")).bind uintOf).getD 0
    connectTimeoutMs := ((look (ascii "connect_timeout_ms")).bind uintOf).getD 0
    rcvbufBytes := rcvbufBytes
    sndbufBytes := sndbufBytes }

def lookIn (text : Bytes) (key : Bytes) : Option Bytes := valueOf (needleOf key) text

/- object: from the opening brace to the closing brace, which is not part of it. -/
def channelOf (object : Bytes) : Option ChannelDef := channelFrom (lookIn object)

def channelItemOf : Bytes → Option (ChannelDef × Bytes)
  | [] => none
  | first :: rest =>
      if first ≠ objectStart then none
      else
        match rest.dropWhile fun byte => byte != objectEnd with
        | [] => none
        | _ :: behind => (channelOf (first :: rest.takeWhile fun byte => byte != objectEnd)).map fun channel =>
            (channel, behind)

def quorumOf (topology : RedundancyTopology) (replicaCount : UInt32) : Option UInt32 :=
  match topology with
  | .twoOutOfTwo | .twoOutOfTwoRedundant => if replicaCount < 2 then none else some 2
  | .twoOutOfThree => if replicaCount ≠ 3 then none else some 2
  | .nmr => none

def votingFrom (look : Bytes → Option Bytes) : Option Voting := do
  let topologyName ← (look (ascii "topology")).bind (textOf topologyNameSize)
  let topology ← (topologyFromString topologyName).toOption
  let replicaCount ← (look (ascii "replicas")).bind uintOf
  if replicaCount < 1 ∨ UInt32.ofNat maxReplicas < replicaCount then none
  else
    let quorumSize ← givenOf (look (ascii "quorum")) (quorumOf topology replicaCount) uintOf
    if quorumSize < 1 ∨ replicaCount < quorumSize then none else some ⟨topology, replicaCount, quorumSize⟩

def standbyModeFrom (look : Bytes → Option Bytes) : Option StandbyMode :=
  givenOf (look (ascii "standby_mode")) (some .cold) fun value =>
    (textOf standbyModeNameSize value).bind fun name => (standbyModeFromString name).toOption

def rolesFrom (look : Bytes → Option Bytes) : Option (List Bytes) :=
  givenOf (look (ascii "roles")) (some []) (arrayOf (stringOf maxRoleNameLen) maxReplicas)

def channelsFrom (look : Bytes → Option Bytes) : Option (List ChannelDef) :=
  givenOf (look (ascii "channels")) (some []) (arrayOf channelItemOf maxChannels)

def configFrom (look : Bytes → Option Bytes) : Option RedundancyConfig := do
  let voting ← votingFrom look
  let standbyMode ← standbyModeFrom look
  let roles ← rolesFrom look
  let channels ← channelsFrom look
  some (filledConfig voting standbyMode roles channels)

def configOf (text : Bytes) : Option RedundancyConfig := configFrom (lookIn text)

def ofOption {α : Type} : Option α → Scan α
  | none => .refused .invalidState
  | some value => .done value

@[simp] theorem ofOptionSome {α : Type} (value : α) : ofOption (some value) = .done value := rfl

theorem ofOptionBind {α β : Type} (result : Option α) (next : α → Option β) :
    (ofOption result >>= fun value => ofOption (next value)) = ofOption (result.bind next) := by
  cases result <;> rfl

theorem ofStatusOption {α : Type} (result : Except RteStatus α) : ofStatus result = ofOption result.toOption := by
  cases result <;> rfl

def Follows {α : Type} (buf : Bytes) (limit : Nat) (scanned : Scan (α × Nat)) : Option (α × Bytes) → Prop
  | none => scanned = .refused .invalidState
  | some (value, rest) => ∃ pos, scanned = .done (value, pos) ∧ Stands buf limit pos rest

def Finds (buf : Bytes) (limit : Nat) (found : Scan Nat) : Option Bytes → Prop
  | none => ∃ status, found = .refused status
  | some value => ∃ pos, found = .done pos ∧ Stands buf limit pos value

end PlatformRte.Config
