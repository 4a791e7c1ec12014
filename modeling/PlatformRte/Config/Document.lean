import PlatformRte.Config.Reader

/-! JSON texts, and among them the documents of the configuration's schema: members in any
order, with any whitespace, and with members of other keys between them. -/
namespace PlatformRte.Config
open Bytes

def backslash : UInt8 := 0x5C

def Spaces (text : Bytes) : Prop := ∀ byte ∈ text, isWs byte = true

def isHexDigit (byte : UInt8) : Bool :=
  isDigit byte || decide (0x41 ≤ byte ∧ byte ≤ 0x46) || decide (0x61 ≤ byte ∧ byte ≤ 0x66)

inductive StringBody : Bytes → Prop where
  | nil : StringBody []
  | plain {byte : UInt8} {rest : Bytes} (visible : 0x20 ≤ byte) (notQuote : byte ≠ quote)
      (notBackslash : byte ≠ backslash) (more : StringBody rest) : StringBody (byte :: rest)
  | escape {byte : UInt8} {rest : Bytes} (known : byte ∈ quote :: backslash :: ascii "/bfnrt")
      (more : StringBody rest) : StringBody (backslash :: byte :: rest)
  | unicode {a b c d : UInt8} {rest : Bytes} (hex : ∀ digit ∈ [a, b, c, d], isHexDigit digit = true)
      (more : StringBody rest) : StringBody (backslash :: 0x75 :: a :: b :: c :: d :: rest)

def stringText (body : Bytes) : Bytes := quote :: body ++ [quote]

def Digits (text : Bytes) : Prop := text ≠ [] ∧ ∀ byte ∈ text, isDigit byte = true

structure JsonNumber (text : Bytes) : Prop where
  parts : ∃ sign whole fraction power, text = sign ++ whole ++ fraction ++ power ∧
    (sign = [] ∨ sign = ascii "-") ∧ Digits whole ∧ (whole.head? = some 0x30 → whole.length = 1) ∧
    (fraction = [] ∨ ∃ digits, fraction = 0x2E :: digits ∧ Digits digits) ∧
    (power = [] ∨ ∃ mark sign digits, power = mark :: sign ++ digits ∧ mark ∈ ascii "eE" ∧
      sign ∈ [[], ascii "+", ascii "-"] ∧ Digits digits)

mutual
inductive JsonValue : Bytes → Prop where
  | word {text : Bytes} (known : text ∈ [ascii "null", ascii "true", ascii "false"]) : JsonValue text
  | number {text : Bytes} (number : JsonNumber text) : JsonValue text
  | string {body : Bytes} (string : StringBody body) : JsonValue (stringText body)
  | emptyArray {inner : Bytes} (spaces : Spaces inner) : JsonValue (arrayStart :: inner ++ [arrayEnd])
  | array {items : Bytes} (each : JsonItems items) : JsonValue (arrayStart :: items ++ [arrayEnd])
  | emptyObject {inner : Bytes} (spaces : Spaces inner) : JsonValue (objectStart :: inner ++ [objectEnd])
  | object {members : Bytes} (each : JsonMembers members) : JsonValue (objectStart :: members ++ [objectEnd])

inductive JsonItem : Bytes → Prop where
  | spaced {before value behind : Bytes} (spaces : Spaces before) (valid : JsonValue value)
      (spaces' : Spaces behind) : JsonItem (before ++ value ++ behind)

inductive JsonItems : Bytes → Prop where
  | last {item : Bytes} (valid : JsonItem item) : JsonItems item
  | more {item rest : Bytes} (valid : JsonItem item) (others : JsonItems rest) : JsonItems (item ++ comma :: rest)

inductive JsonMembers : Bytes → Prop where
  | last {before key between item : Bytes} (spaces : Spaces before) (name : StringBody key)
      (spaces' : Spaces between) (valid : JsonItem item) :
      JsonMembers (before ++ stringText key ++ between ++ colon :: item)
  | more {before key between item rest : Bytes} (spaces : Spaces before) (name : StringBody key)
      (spaces' : Spaces between) (valid : JsonItem item) (others : JsonMembers rest) :
      JsonMembers (before ++ stringText key ++ between ++ colon :: item ++ comma :: rest)
end

structure Spaced (ν : Type) where
  before : Bytes
  value : ν
  behind : Bytes

structure Member (ν : Type) where
  before : Bytes
  key : Bytes
  between : Bytes
  value : Spaced ν

structure ChannelObject where
  inner : Bytes
  members : List (Member Bytes)

/- raw: any value that is not looked into. -/
inductive Value where
  | raw (text : Bytes)
  | roles (inner : Bytes) (names : List (Spaced Bytes))
  | channels (inner : Bytes) (objects : List (Spaced ChannelObject))

structure Document where
  before : Bytes
  inner : Bytes
  members : List (Member Value)
  behind : Bytes

def joined : List Bytes → Bytes
  | [] => []
  | [last] => last
  | piece :: next :: rest => piece ++ comma :: joined (next :: rest)

def Spaced.text {ν : Type} (text : ν → Bytes) (spaced : Spaced ν) : Bytes :=
  spaced.before ++ text spaced.value ++ spaced.behind

def Member.text {ν : Type} (text : ν → Bytes) (member : Member ν) : Bytes :=
  member.before ++ stringText member.key ++ member.between ++ colon :: member.value.text text

def arrayText (inner : Bytes) (pieces : List Bytes) : Bytes := arrayStart :: inner ++ joined pieces ++ [arrayEnd]

def openObjectText (inner : Bytes) (pieces : List Bytes) : Bytes := objectStart :: inner ++ joined pieces

def ChannelObject.openText (object : ChannelObject) : Bytes :=
  openObjectText object.inner (object.members.map (Member.text id))

def ChannelObject.text (object : ChannelObject) : Bytes := object.openText ++ [objectEnd]

def Value.text : Value → Bytes
  | .raw text => text
  | .roles inner names => arrayText inner (names.map (Spaced.text stringText))
  | .channels inner objects => arrayText inner (objects.map (Spaced.text ChannelObject.text))

def Document.text (d : Document) : Bytes :=
  d.before ++ openObjectText d.inner (d.members.map (Member.text Value.text)) ++ objectEnd :: d.behind

def stringKeys : List Bytes := [ascii "topology", ascii "standby_mode"]

def numberKeys : List Bytes := [ascii "replicas", ascii "quorum"]

def configKeys : List Bytes :=
  [ascii "topology", ascii "replicas", ascii "quorum", ascii "standby_mode", ascii "roles", ascii "channels"]

def channelStringKeys : List Bytes := [ascii "name", ascii "transport", ascii "role", ascii "host"]

def channelKeys : List Bytes :=
  [ascii "id", ascii "name", ascii "transport", ascii "role", ascii "host", ascii "port", ascii "message_size",
    ascii "connect_timeout_ms", ascii "rcvbuf_bytes", ascii "sndbuf_bytes"]

structure SpacedOk {ν : Type} (spaced : Spaced ν) : Prop where
  before : Spaces spaced.before
  behind : Spaces spaced.behind

structure MemberOk {ν : Type} (member : Member ν) : Prop where
  before : Spaces member.before
  key : StringBody member.key
  between : Spaces member.between
  value : SpacedOk member.value

def JsonString (text : Bytes) : Prop := ∃ body, StringBody body ∧ text = stringText body

/- A recognised key has a value of its type, any other key has any value. -/
def ChannelValueOk (key value : Bytes) : Prop :=
  if key ∈ channelStringKeys then JsonString value
  else if key ∈ channelKeys then JsonNumber value
  else JsonValue value

def keysAmong {ν : Type} (keys : List Bytes) (members : List (Member ν)) : List Bytes :=
  (members.map Member.key).filter fun key => key ∈ keys

structure ChannelSchema (object : ChannelObject) : Prop where
  inner : Spaces object.inner
  members : ∀ member ∈ object.members, MemberOk member
  values : ∀ member ∈ object.members, ChannelValueOk member.key member.value.value
  once : (keysAmong channelKeys object.members).Nodup

inductive ValueOk (key : Bytes) : Value → Prop where
  | string {text : Bytes} (known : key ∈ stringKeys) (string : JsonString text) : ValueOk key (.raw text)
  | number {text : Bytes} (known : key ∈ numberKeys) (number : JsonNumber text) : ValueOk key (.raw text)
  | roles {inner : Bytes} {names : List (Spaced Bytes)} (known : key = ascii "roles") (spaces : Spaces inner)
      (each : ∀ name ∈ names, SpacedOk name ∧ StringBody name.value) : ValueOk key (.roles inner names)
  | channels {inner : Bytes} {objects : List (Spaced ChannelObject)} (known : key = ascii "channels")
      (spaces : Spaces inner) (each : ∀ object ∈ objects, SpacedOk object ∧ ChannelSchema object.value) :
      ValueOk key (.channels inner objects)
  | other {text : Bytes} (unknown : key ∉ configKeys) (value : JsonValue text) : ValueOk key (.raw text)

structure Schema (d : Document) : Prop where
  before : Spaces d.before
  inner : Spaces d.inner
  behind : Spaces d.behind
  members : ∀ member ∈ d.members, MemberOk member
  values : ∀ member ∈ d.members, ValueOk member.key member.value.value
  once : (keysAmong configKeys d.members).Nodup

def memberOf {ν : Type} (members : List (Member ν)) (key : Bytes) : Option (Member ν) :=
  members.find? fun member => member.key == key

def inOrder {ν : Type} (keys : List Bytes) (members : List (Member ν)) : List (Member ν) :=
  keys.filterMap (memberOf members)

def ChannelObject.canonical (object : ChannelObject) : ChannelObject :=
  { object with members := inOrder channelKeys object.members }

def Spaced.map {ν μ : Type} (f : ν → μ) (spaced : Spaced ν) : Spaced μ := ⟨spaced.before, f spaced.value, spaced.behind⟩

def Member.map {ν μ : Type} (f : ν → μ) (member : Member ν) : Member μ :=
  ⟨member.before, member.key, member.between, member.value.map f⟩

def Value.canonical : Value → Value
  | .raw text => .raw text
  | .roles inner names => .roles inner names
  | .channels inner objects => .channels inner (objects.map (Spaced.map ChannelObject.canonical))

/- The document with the keys in the documented order and the other keys removed, at the
top and in the channels. -/
def Document.canonical (d : Document) : Document :=
  { d with members := (inOrder configKeys d.members).map (Member.map Value.canonical) }

end PlatformRte.Config
