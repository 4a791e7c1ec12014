import PlatformRte.Status

/-! Safe-state levels and reason codes. Entering a level is recorded as an event. -/
namespace PlatformRte

inductive SafestateLevel where
  | degraded | safe | reboot
  deriving DecidableEq, Repr

abbrev SafestateReason := UInt16

def safestateReasonUnspecified : SafestateReason := 0
def safestateReasonCheckpointTimeout : SafestateReason := 2
def safestateReasonClockFailed : SafestateReason := 5

structure SafestateEntry where
  level : SafestateLevel
  reason : SafestateReason
  deriving DecidableEq, Repr

end PlatformRte
