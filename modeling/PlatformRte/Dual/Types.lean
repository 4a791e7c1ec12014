import PlatformRte.Status

/-! States of one instance in a dual relationship, the aggregate link status and
the STATE beacon the two negotiators exchange. -/
namespace PlatformRte.Dual

inductive DualState where
  | idle | unknown | online | hotStandby | coldStandby
  deriving DecidableEq, Repr

inductive DualChannelStatus where
  | down | degraded | full
  deriving DecidableEq, Repr

-- The numeric values travel on the wire inside the beacon.
def DualState.toByte : DualState → UInt8
  | .idle => 0
  | .unknown => 1
  | .online => 2
  | .hotStandby => 3
  | .coldStandby => 4

structure DualStateFrame where
  state : UInt8
  channelDegraded : UInt8
  timestampMs : UInt64
  deriving DecidableEq, Repr

end PlatformRte.Dual
