import Mathlib.Tactic.Basic

/-! The status codes every service of the runtime returns. -/
namespace PlatformRte

inductive RteStatus where
  | ok | invalidParam | notInitialized | alreadyInitialized | timeout | resourceExhausted
  | notSupported | notImplemented | hardwareFault | dataCorruption | internalError
  | valueOutOfRange | invalidState | notConnected
  deriving DecidableEq, Repr

end PlatformRte
