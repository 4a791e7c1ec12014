import Mathlib.Data.UInt
import PlatformRte.Status

/-! One channel of a voter: a check of the arguments, the transport callback, and
counters. What the transport answers is an argument. -/
namespace PlatformRte.Voter

abbrev Buffer (size : Nat) := Vector UInt8 size

structure ChannelHealth where
  sendCount : UInt32
  sendErrorCount : UInt32
  receiveCount : UInt32
  receiveErrorCount : UInt32
  isHealthy : Bool
  lastError : RteStatus
  deriving DecidableEq, Repr

structure RteChannel where
  health : ChannelHealth
  initialized : Bool
  deriving DecidableEq, Repr

def channelInit (setupAllowed : RteStatus) : Except RteStatus RteChannel :=
  if setupAllowed = .ok then .ok ⟨⟨0, 0, 0, 0, true, .ok⟩, true⟩ else .error setupAllowed

def channelSetHealthy (c : RteChannel) (isHealthy : Bool) : RteChannel :=
  { c with health := { c.health with isHealthy := isHealthy } }

def channelSend (c : RteChannel) (size : Nat) (answer : RteStatus) : RteChannel × RteStatus :=
  if size = 0 then (c, .invalidParam)
  else if !c.initialized then (c, .notInitialized)
  else if answer = .ok then ({ c with health := { c.health with sendCount := c.health.sendCount + 1 } }, answer)
  else
    ({ c with health := { c.health with
        sendErrorCount := c.health.sendErrorCount + 1
        lastError := answer } }, answer)

def channelReceive (c : RteChannel) (size : Nat) (answer : RteStatus) : RteChannel × RteStatus :=
  if size = 0 then (c, .invalidParam)
  else if !c.initialized then (c, .notInitialized)
  else if answer = .ok then ({ c with health := { c.health with receiveCount := c.health.receiveCount + 1 } }, answer)
  else
    ({ c with health := { c.health with
        receiveErrorCount := c.health.receiveErrorCount + 1
        lastError := answer } }, answer)

theorem sendStatus (c : RteChannel) {size : Nat} (some_ : size ≠ 0) (answer : RteStatus) :
    (channelSend c size answer).2 = if c.initialized then answer else .notInitialized := by
  simp only [channelSend, some_, if_false]
  cases c.initialized
  · simp
  · simp only [Bool.not_true, Bool.false_eq_true, if_false, if_true]
    split <;> rfl

theorem receiveStatus (c : RteChannel) {size : Nat} (some_ : size ≠ 0) (answer : RteStatus) :
    (channelReceive c size answer).2 = if c.initialized then answer else .notInitialized := by
  simp only [channelReceive, some_, if_false]
  cases c.initialized
  · simp
  · simp only [Bool.not_true, Bool.false_eq_true, if_false, if_true]
    split <;> rfl

end PlatformRte.Voter
