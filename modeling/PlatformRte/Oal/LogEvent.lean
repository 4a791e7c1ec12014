import PlatformRte.Utils.Numeric

/-! The logging service: a structured event is put together in a line buffer of its own, field
by field, and handed to the adapter as a C string. No append is checked. -/
namespace PlatformRte.Oal
open Bytes Utils

def rteLogEventLineMaxLen : UInt64 := 256

/- osadapter: none for NULL, else whether its write slot is set. -/
structure LogService where
  osadapter : Option Bool
  minLevel : UInt32
  deriving DecidableEq, Repr

def rteLogLevelToString (level : UInt32) : Bytes :=
  if level = 0 then ascii "DEBUG"
  else if level = 1 then ascii "INFO"
  else if level = 2 then ascii "WARNING"
  else if level = 3 then ascii "ERROR"
  else ascii "UNKNOWN"

structure LogEvent where
  level : UInt32
  site : Option Bytes
  cycle : UInt32
  source : Option Bytes
  destination : Option Bytes
  type : Option Bytes
  info : Option Bytes
  extraFields : Option Bytes
  deriving DecidableEq, Repr

structure LogWrite where
  level : UInt32
  tag : Option Bytes
  message : Bytes
  deriving DecidableEq, Repr

-- The array behind a local string; what it holds at first is never read.
def localString (capacity : UInt64) : Option RteString :=
  (rteStringInit (some ⟨none, 0, 0⟩) (some (List.replicate capacity.toNat 0)) capacity).2

def concatUnchecked (line : Option RteString) (text : Bytes) : Option RteString := (rteStringConcat line (some text)).2

def rteLogAppendEventField (line : Option RteString) (key : Bytes) (value : Option Bytes) : Option RteString :=
  let line := concatUnchecked line (ascii " ")
  let line := concatUnchecked line key
  let line := concatUnchecked line (ascii "=")
  concatUnchecked line (value.getD [])

def cStrOf (str : Option RteString) : Option Bytes :=
  match rteStringCStr str (some []) with
  | (.ok, _, out) => out
  | _ => none

def rteLogAppendEventFieldU32 (line : Option RteString) (key : Bytes) (value : UInt32) : Option RteString :=
  let num := localString 16
  let num := (rteStringFromU32 num value).2
  rteLogAppendEventField line key (cStrOf num)

-- The time is what rte_timer_now leaves in a variable that is zero before.
def eventLine (lineMax : UInt64) (nowMs : UInt64) (event : LogEvent) : Option RteString :=
  let line := localString lineMax
  let ts := localString 24
  let line := concatUnchecked line (ascii "Site=")
  let line := concatUnchecked line (event.site.getD [])
  let ts := (rteStringFromU64 ts nowMs).2
  let line := rteLogAppendEventField line (ascii "Timestamp") (some ((cStrOf ts).getD (ascii "0")))
  let line := rteLogAppendEventField line (ascii "Level") (some (rteLogLevelToString event.level))
  let line := rteLogAppendEventFieldU32 line (ascii "Cycle") event.cycle
  let line := rteLogAppendEventField line (ascii "Source") event.source
  let line := rteLogAppendEventField line (ascii "Destination") event.destination
  let line := rteLogAppendEventField line (ascii "Type") event.type
  let line := rteLogAppendEventField line (ascii "Info") event.info
  match event.extraFields with
  | none => line
  | some extraFields =>
    if byteAt extraFields 0 = 0 then line
    else concatUnchecked (concatUnchecked line (ascii " ")) extraFields

/- The call with a line buffer of some size; none when nothing is written. -/
def rteLogWriteEventIn (lineMax : UInt64) (service : LogService) (nowMs : UInt64) (event : LogEvent) : Option LogWrite :=
  if service.osadapter ≠ some true ∨ event.level.toInt32 < service.minLevel.toInt32 then none
  else some ⟨event.level, event.source, cString ((cStrOf (eventLine lineMax nowMs event)).getD [])⟩

def rteLogWriteEvent : LogService → UInt64 → LogEvent → Option LogWrite := rteLogWriteEventIn rteLogEventLineMaxLen

end PlatformRte.Oal
