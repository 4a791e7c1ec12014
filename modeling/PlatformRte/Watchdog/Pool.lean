import Mathlib.Data.List.FinRange
import Mathlib.Data.UInt
import Mathlib.Logic.Function.Basic
import PlatformRte.Safestate

/-! The pool of watchdogs. A handle names a slot of the pool, and an arming call gives
the slot a deadline that the tick compares with the clock. The clock is an argument
of every call that reads it. -/
namespace PlatformRte.Watchdog

inductive WatchdogAction where
  | log | safestate | reboot | failover | custom
  | other (value : UInt32)
  deriving DecidableEq, Repr

/- customAction: whether a handler was given. -/
structure WatchdogConfig where
  timeoutMs : UInt32
  action : WatchdogAction
  customAction : Bool
  deriving DecidableEq, Repr

structure WatchdogSlot where
  inUse : Bool
  active : Bool
  fired : Bool
  config : WatchdogConfig
  deadlineMs : UInt64
  lastKickMs : UInt64
  kicks : UInt32
  fires : UInt32
  recoveries : UInt32
  deriving DecidableEq, Repr

def zeroSlot : WatchdogSlot := ⟨false, false, false, ⟨0, .log, false⟩, 0, 0, 0, 0, 0⟩

structure Watchdogs (n : Nat) where
  pool : Fin n → WatchdogSlot
  managerInitialized : Bool

/- foreign: NULL, or a pointer that is not into the pool. -/
inductive Handle (n : Nat) where
  | slot (i : Fin n)
  | foreign
  deriving DecidableEq

structure Clock where
  status : RteStatus
  nowMs : UInt64
  deriving DecidableEq, Repr

structure WatchdogStatus where
  active : Bool
  kicks : UInt32
  fires : UInt32
  recoveries : UInt32
  timeSinceLastKick : UInt32
  timeUntilFire : UInt32
  deriving DecidableEq, Repr

def isValidAction : WatchdogAction → Bool
  | .log | .safestate | .reboot | .failover | .custom => true
  | .other _ => false

def needsHandler : WatchdogAction → Bool
  | .custom | .failover => true
  | _ => false

def isSupervising (slot : WatchdogSlot) : Bool := slot.inUse && slot.active && !slot.fired

theorem supervisingIff {slot : WatchdogSlot} :
    isSupervising slot = true ↔ slot.inUse = true ∧ slot.active = true ∧ slot.fired = false := by
  simp [isSupervising, and_assoc]

section Functions
variable {n : Nat} (w : Watchdogs n)

def validSlot : Handle n → Option (Fin n)
  | .slot i => if (w.pool i).inUse then some i else none
  | .foreign => none

def setSlot (i : Fin n) (slot : WatchdogSlot) : Watchdogs n :=
  { w with pool := Function.update w.pool i slot }

def firstSupervisingIndex : Option (Fin n) :=
  (List.finRange n).find? fun i => isSupervising (w.pool i)

def watchdogManagerInitialize : Watchdogs n :=
  if w.managerInitialized then w else ⟨fun _ => zeroSlot, true⟩

def watchdogManagerShutdown : Watchdogs n :=
  ⟨fun i => { w.pool i with active := false }, false⟩

/- setup: what the lifecycle says of creating resources. -/
def watchdogCreate (handleOut : Bool) (config : Option WatchdogConfig) (setup : RteStatus) :
    Watchdogs n × Except RteStatus (Fin n) :=
  match config with
  | none => (w, .error .invalidParam)
  | some c =>
    if !handleOut || c.timeoutMs == 0 || !isValidAction c.action then (w, .error .invalidParam)
    else if needsHandler c.action && !c.customAction then (w, .error .invalidParam)
    else if !w.managerInitialized then (w, .error .notInitialized)
    else if setup ≠ .ok then (w, .error setup)
    else match (List.finRange n).find? fun i => !(w.pool i).inUse with
      | some i => (setSlot w i { zeroSlot with inUse := true, config := c }, .ok i)
      | none => (w, .error .resourceExhausted)

def rearmed (slot : WatchdogSlot) (nowMs : UInt64) : WatchdogSlot :=
  { slot with deadlineMs := nowMs + slot.config.timeoutMs.toUInt64, lastKickMs := nowMs }

def watchdogStart (handle : Handle n) (clock : Clock) : Watchdogs n × RteStatus :=
  match validSlot w handle with
  | none => (w, .invalidParam)
  | some i =>
    if clock.status = .ok then
      (setSlot w i (rearmed { w.pool i with active := true, fired := false } clock.nowMs), .ok)
    else (w, clock.status)

def watchdogStop (handle : Handle n) : Watchdogs n × RteStatus :=
  match validSlot w handle with
  | none => (w, .invalidParam)
  | some i => (setSlot w i { w.pool i with active := false }, .ok)

def watchdogKick (handle : Handle n) (clock : Clock) : Watchdogs n × RteStatus :=
  match validSlot w handle with
  | none => (w, .invalidParam)
  | some i =>
    if !(w.pool i).active || (w.pool i).fired then (w, .internalError)
    else if clock.status = .ok then
      (setSlot w i (rearmed { w.pool i with kicks := (w.pool i).kicks + 1 } clock.nowMs), .ok)
    else (w, clock.status)

/- The second value is what is written to the output, if anything is. -/
def watchdogGetStatus (handle : Handle n) (statusOut : Bool) (clock : Clock) :
    RteStatus × Option WatchdogStatus :=
  match validSlot w handle with
  | none => (.invalidParam, none)
  | some i =>
    let slot := w.pool i
    if !statusOut then (.invalidParam, none)
    else if clock.status = .ok then
      (.ok, some
        { active := slot.active, kicks := slot.kicks, fires := slot.fires, recoveries := slot.recoveries
          timeSinceLastKick := if slot.lastKickMs ≤ clock.nowMs then (clock.nowMs - slot.lastKickMs).toUInt32 else 0
          timeUntilFire := if clock.nowMs < slot.deadlineMs then (slot.deadlineMs - clock.nowMs).toUInt32 else 0 })
    else (clock.status, none)

def watchdogDestroy (handle : Handle n) : Watchdogs n × RteStatus :=
  match validSlot w handle with
  | none => (w, .invalidParam)
  | some i => (setSlot w i { w.pool i with active := false, inUse := false }, .ok)

/- What the handler goes on to do once it has marked the slot. -/
inductive Reaction where
  | nothing
  | enter (entry : SafestateEntry)
  | runCustomAction
  deriving DecidableEq, Repr

def recovers : WatchdogAction → Bool
  | .safestate | .reboot | .failover | .custom => true
  | _ => false

def reaction (config : WatchdogConfig) : Reaction :=
  match config.action with
  | .safestate => .enter ⟨.safe, safestateReasonUnspecified⟩
  | .reboot => .enter ⟨.reboot, safestateReasonUnspecified⟩
  | .failover | .custom => if config.customAction then .runCustomAction else .nothing
  | .log | .other _ => .nothing

/- No reaction: the handler returned at once. -/
def watchdogTimeoutHandler (watchdogId : Nat) : Watchdogs n × Option Reaction :=
  if h : watchdogId < n then
    let slot := w.pool ⟨watchdogId, h⟩
    if !slot.inUse || !slot.active || slot.fired then (w, none)
    else
      let recoveries := if recovers slot.config.action then slot.recoveries + 1 else slot.recoveries
      (setSlot w ⟨watchdogId, h⟩ { slot with fired := true, fires := slot.fires + 1, recoveries := recoveries },
        some (reaction slot.config))
  else (w, none)

end Functions
end PlatformRte.Watchdog
