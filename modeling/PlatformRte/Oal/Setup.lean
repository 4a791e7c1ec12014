import PlatformRte.Oal.UdpAdapter
import PlatformRte.Safestate

/-! The OSAdapters and the calls that need an open setup phase. A service checks its
arguments, asks the lifecycle where the call is one of the setup, and hands the call to the
adapter it was given. -/
namespace PlatformRte.Oal
open Bytes

inductive OsService where
  | memory | clocksync | timer | mutex | task | log | nvm | platform | reboot | ipc | netlink | flow | random | fsou
  deriving DecidableEq, Repr

inductive OsOperation where
  | memPoolCreate | memPoolAcquire | memPoolRelease | memPoolStats
  | clocksyncGetOffsetMs | clocksyncGetQuality
  | timerCreate | timerStart | timerStop | timerDestroy | timerNow
  | mutexCreate | mutexLock | mutexLockTimed | mutexUnlock | mutexDestroy
  | taskCreate | taskStart | taskSuspend | taskDestroy
  | nvmOpen | nvmRead | nvmWrite | nvmSync | nvmClose
  | platformRealtimeInit
  | rebootRequest
  | ipcCreate | ipcSend | ipcReceive | ipcDestroy
  | randomFill
  | fsouGrant | fsouRevoke
  deriving DecidableEq, Repr

namespace OsOperation

def service : OsOperation → OsService
  | memPoolCreate | memPoolAcquire | memPoolRelease | memPoolStats => .memory
  | clocksyncGetOffsetMs | clocksyncGetQuality => .clocksync
  | timerCreate | timerStart | timerStop | timerDestroy | timerNow => .timer
  | mutexCreate | mutexLock | mutexLockTimed | mutexUnlock | mutexDestroy => .mutex
  | taskCreate | taskStart | taskSuspend | taskDestroy => .task
  | nvmOpen | nvmRead | nvmWrite | nvmSync | nvmClose => .nvm
  | platformRealtimeInit => .platform
  | rebootRequest => .reboot
  | ipcCreate | ipcSend | ipcReceive | ipcDestroy => .ipc
  | randomFill => .random
  | fsouGrant | fsouRevoke => .fsou

def setupOnly : OsOperation → Bool
  | memPoolCreate | timerCreate | timerStart | mutexCreate | taskCreate | taskStart | nvmOpen | ipcCreate => true
  | _ => false

def clearsFirst : OsOperation → Bool
  | memPoolCreate | memPoolAcquire | memPoolStats | timerCreate | timerNow | mutexCreate | taskCreate | nvmOpen
  | ipcCreate => true
  | _ => false

end OsOperation

/- id: which table of functions it is. slots: those that are not NULL. -/
structure Osadapter where
  id : Nat
  slots : List OsOperation
  deriving DecidableEq, Repr

/- What the services keep. handlers: one for each level of the safe state. reported: what
the handlers were called for, and which one was. reached: the calls of the adapters. -/
structure OsLayer where
  adapters : OsService → Option Osadapter
  sockets : Option RteOsSocketOps
  handlers : SafestateLevel → Option Nat
  reported : List (SafestateEntry × Option Nat)
  reached : List (Nat × OsOperation)

def safestateReasonSetupAfterInit : SafestateReason := 3

def safestateEnter (s : OsLayer) (entry : SafestateEntry) : OsLayer :=
  { s with reported := s.reported ++ [(entry, s.handlers entry.level)] }

def setupAfterInit : SafestateEntry := ⟨.degraded, safestateReasonSetupAfterInit⟩

def lifecycleCheckSetupAllowed (setupLocked : Bool) (s : OsLayer) : OsLayer × RteStatus :=
  if setupLocked then (safestateEnter s setupAfterInit, .invalidState) else (s, .ok)

/- level: none for a value that is no level. handler: none for NULL. -/
def safestateRegisterHandler (setupLocked : Bool) (level : Option SafestateLevel) (handler : Option Nat)
    (s : OsLayer) : OsLayer × RteStatus :=
  match handler, level with
  | some handler, some level =>
    let allowed := lifecycleCheckSetupAllowed setupLocked s
    if allowed.2 ≠ .ok then allowed
    else ({ allowed.1 with handlers := Function.update allowed.1.handlers level (some handler) }, .ok)
  | _, _ => (s, .invalidParam)

/- The registration of every service; osadapter: none for NULL. -/
def osadapterRegister (service : OsService) (setupLocked : Bool) (osadapter : Option Osadapter) (s : OsLayer) :
    OsLayer × RteStatus :=
  match osadapter with
  | none => (s, .invalidParam)
  | some osadapter =>
    let allowed := lifecycleCheckSetupAllowed setupLocked s
    if allowed.2 ≠ .ok then allowed
    else ({ allowed.1 with adapters := Function.update allowed.1.adapters service (some osadapter) }, .ok)

def osadapterMemoryRegister := osadapterRegister .memory
def osadapterClocksyncRegister := osadapterRegister .clocksync
def osadapterTimerRegister := osadapterRegister .timer
def osadapterMutexRegister := osadapterRegister .mutex
def osadapterTaskRegister := osadapterRegister .task
def osadapterLogRegister := osadapterRegister .log
def osadapterNvmRegister := osadapterRegister .nvm
def osadapterPlatformRegister := osadapterRegister .platform
def osadapterRebootRegister := osadapterRegister .reboot
def osadapterIpcRegister := osadapterRegister .ipc
def osadapterNetlinkRegister := osadapterRegister .netlink
def osadapterFlowRegister := osadapterRegister .flow
def osadapterRandomRegister := osadapterRegister .random
def osadapterFsouRegister := osadapterRegister .fsou

-- the one registration that does not ask the lifecycle
def osadapterRegisterSocketOps (ops : Option RteOsSocketOps) (s : OsLayer) : OsLayer × RteStatus :=
  match ops with
  | none => (s, .invalidParam)
  | some ops => ({ s with sockets := some ops }, .ok)

structure OsadapterBundle where
  memory : Option Osadapter
  clocksync : Option Osadapter
  timer : Option Osadapter
  mutex : Option Osadapter
  task : Option Osadapter
  log : Option Osadapter
  nvm : Option Osadapter
  platform : Option Osadapter
  reboot : Option Osadapter
  ipc : Option Osadapter
  netlink : Option Osadapter
  flow : Option Osadapter
  sockets : Option RteOsSocketOps
  random : Option Osadapter
  fsou : Option Osadapter
  deriving DecidableEq, Repr

def registerNext {α : Type} (register : Option α → OsLayer → OsLayer × RteStatus) (given : Option α)
    (done : OsLayer × RteStatus) : OsLayer × RteStatus :=
  if done.2 ≠ .ok then done
  else if given.isSome then register given done.1
  else done

def osadapterRegisterAll (setupLocked : Bool) (bundle : Option OsadapterBundle) (s : OsLayer) : OsLayer × RteStatus :=
  match bundle with
  | none => (s, .invalidParam)
  | some bundle =>
    let done := registerNext (osadapterMemoryRegister setupLocked) bundle.memory (s, .ok)
    let done := registerNext (osadapterClocksyncRegister setupLocked) bundle.clocksync done
    let done := registerNext (osadapterTimerRegister setupLocked) bundle.timer done
    let done := registerNext (osadapterMutexRegister setupLocked) bundle.mutex done
    let done := registerNext (osadapterTaskRegister setupLocked) bundle.task done
    let done := registerNext (osadapterLogRegister setupLocked) bundle.log done
    let done := registerNext (osadapterNvmRegister setupLocked) bundle.nvm done
    let done := registerNext (osadapterPlatformRegister setupLocked) bundle.platform done
    let done := registerNext (osadapterRebootRegister setupLocked) bundle.reboot done
    let done := registerNext (osadapterIpcRegister setupLocked) bundle.ipc done
    let done := registerNext (osadapterNetlinkRegister setupLocked) bundle.netlink done
    let done := registerNext (osadapterFlowRegister setupLocked) bundle.flow done
    let done := registerNext osadapterRegisterSocketOps bundle.sockets done
    let done := registerNext (osadapterRandomRegister setupLocked) bundle.random done
    registerNext (osadapterFsouRegister setupLocked) bundle.fsou done

structure ServiceCall where
  operation : OsOperation
  valid : Bool
  deriving DecidableEq, Repr

inductive Results where
  | untouched | cleared | adapters
  deriving DecidableEq, Repr

def serviceCall (setupLocked : Bool) (call : ServiceCall) (answer : RteStatus) (s : OsLayer) :
    OsLayer × RteStatus × Results :=
  if !call.valid then (s, .invalidParam, .untouched)
  else
    let before := if call.operation.clearsFirst then Results.cleared else .untouched
    let allowed := if call.operation.setupOnly then lifecycleCheckSetupAllowed setupLocked s else (s, .ok)
    if allowed.2 ≠ .ok then (allowed.1, allowed.2, before)
    else
      match allowed.1.adapters call.operation.service with
      | none => (allowed.1, .notInitialized, before)
      | some osadapter =>
        if call.operation ∈ osadapter.slots then
          ({ allowed.1 with reached := allowed.1.reached ++ [(osadapter.id, call.operation)] }, answer, .adapters)
        else (allowed.1, .notSupported, before)

/- The results are the adapter's exactly where a call has reached it. -/
theorem resultsReached (setupLocked : Bool) (call : ServiceCall) (answer : RteStatus) (s : OsLayer) :
    (serviceCall setupLocked call answer s).2.2 = .adapters ↔
      (serviceCall setupLocked call answer s).1.reached ≠ s.reached := by
  have before : (if call.operation.clearsFirst then Results.cleared else .untouched) ≠ .adapters := by
    split <;> simp
  obtain ⟨allowed, asked⟩ : ∃ allowed,
      (if call.operation.setupOnly then lifecycleCheckSetupAllowed setupLocked s else (s, .ok)) = allowed := ⟨_, rfl⟩
  have reached : allowed.1.reached = s.reached := by
    rw [← asked, lifecycleCheckSetupAllowed]
    split_ifs <;> rfl
  simp only [serviceCall, asked]
  cases call.valid
  · simp
  · simp only [Bool.not_true, Bool.false_eq_true, if_false]
    split
    · simp [before, reached]
    · split
      · simp [before, reached]
      · split
        · simp [reached]
        · simp [before, reached]

/- The fields of a configuration that its service looks at; a pointer as whether it is not
NULL. -/
structure MemPoolConfig where
  blockSize : UInt64
  blockCount : UInt64
  deriving DecidableEq, Repr

structure TimerConfig where
  periodMs : UInt32
  callback : Bool
  deriving DecidableEq, Repr

structure TaskConfig where
  entry : Bool
  deriving DecidableEq, Repr

structure NvmConfig where
  regionName : Bool
  regionSize : UInt64
  deriving DecidableEq, Repr

structure IpcConfig where
  messageSize : UInt64
  queueDepth : UInt64
  deriving DecidableEq, Repr

section Calls
variable (storage outHandle handle : Bool)

def memPoolCreate (config : Option MemPoolConfig) : ServiceCall :=
  ⟨.memPoolCreate, storage && outHandle && config.any fun c => c.blockSize ≠ 0 && c.blockCount ≠ 0⟩

def memPoolAcquire (outBlock : Bool) : ServiceCall := ⟨.memPoolAcquire, handle && outBlock⟩

def memPoolRelease (block : Bool) : ServiceCall := ⟨.memPoolRelease, handle && block⟩

def memPoolStats (outFreeBlocks outUsedBlocks : Bool) : ServiceCall :=
  ⟨.memPoolStats, handle && outFreeBlocks && outUsedBlocks⟩

def clocksyncGetOffsetMs (outOffsetMs : Bool) : ServiceCall := ⟨.clocksyncGetOffsetMs, outOffsetMs⟩

def clocksyncGetQuality (outQuality : Bool) : ServiceCall := ⟨.clocksyncGetQuality, outQuality⟩

def timerCreate (config : Option TimerConfig) : ServiceCall :=
  ⟨.timerCreate, storage && outHandle && config.any fun c => c.callback && c.periodMs ≠ 0⟩

def timerStart : ServiceCall := ⟨.timerStart, handle⟩

def timerStop : ServiceCall := ⟨.timerStop, handle⟩

def timerDestroy : ServiceCall := ⟨.timerDestroy, handle⟩

def timerNow (outNowMs : Bool) : ServiceCall := ⟨.timerNow, outNowMs⟩

def mutexCreate : ServiceCall := ⟨.mutexCreate, storage && outHandle⟩

def mutexLock : ServiceCall := ⟨.mutexLock, handle⟩

-- the timeout is handed on as it is
def mutexLockTimed : ServiceCall := ⟨.mutexLockTimed, handle⟩

def mutexUnlock : ServiceCall := ⟨.mutexUnlock, handle⟩

def mutexDestroy : ServiceCall := ⟨.mutexDestroy, handle⟩

def taskCreate (config : Option TaskConfig) : ServiceCall :=
  ⟨.taskCreate, storage && outHandle && config.any fun c => c.entry⟩

def taskStart : ServiceCall := ⟨.taskStart, handle⟩

def taskSuspend : ServiceCall := ⟨.taskSuspend, handle⟩

def taskDestroy : ServiceCall := ⟨.taskDestroy, handle⟩

def nvmOpen (config : Option NvmConfig) : ServiceCall :=
  ⟨.nvmOpen, storage && outHandle && config.any fun c => c.regionName && c.regionSize ≠ 0⟩

def nvmRead (outBuffer : Bool) (bufferSize : UInt64) : ServiceCall :=
  ⟨.nvmRead, handle && outBuffer && bufferSize ≠ 0⟩

def nvmWrite (buffer : Bool) (bufferSize : UInt64) : ServiceCall := ⟨.nvmWrite, handle && buffer && bufferSize ≠ 0⟩

def nvmSync : ServiceCall := ⟨.nvmSync, handle⟩

def nvmClose : ServiceCall := ⟨.nvmClose, handle⟩

def platformRtPriorityMax : UInt32 := 99

def platformRealtimeInit (rtPriority : UInt32) : ServiceCall :=
  ⟨.platformRealtimeInit, rtPriority ≤ platformRtPriorityMax⟩

def rebootRequest : ServiceCall := ⟨.rebootRequest, true⟩

def ipcCreate (config : Option IpcConfig) : ServiceCall :=
  ⟨.ipcCreate, storage && outHandle && config.any fun c => c.messageSize ≠ 0 && c.queueDepth ≠ 0⟩

def ipcSend (message : Bool) (messageSize : UInt64) : ServiceCall :=
  ⟨.ipcSend, handle && message && messageSize ≠ 0⟩

def ipcReceive (outMessage : Bool) (bufferSize : UInt64) : ServiceCall :=
  ⟨.ipcReceive, handle && outMessage && bufferSize ≠ 0⟩

def ipcDestroy : ServiceCall := ⟨.ipcDestroy, handle⟩

def randomMaxRequest : UInt64 := 256

def randomFill (out : Bool) (len : UInt64) : ServiceCall := ⟨.randomFill, out && len ≠ 0 && len ≤ randomMaxRequest⟩

def fsouGrant : ServiceCall := ⟨.fsouGrant, true⟩

def fsouRevoke : ServiceCall := ⟨.fsouRevoke, true⟩

end Calls

inductive OsCall where
  | register (service : OsService) (osadapter : Option Osadapter)
  | registerSocketOps (ops : Option RteOsSocketOps)
  | registerAll (bundle : Option OsadapterBundle)
  | registerHandler (level : Option SafestateLevel) (handler : Option Nat)
  | service (call : ServiceCall) (answer : RteStatus)
  deriving DecidableEq, Repr

def osCall (setupLocked : Bool) (s : OsLayer) : OsCall → OsLayer × RteStatus
  | .register service osadapter => osadapterRegister service setupLocked osadapter s
  | .registerSocketOps ops => osadapterRegisterSocketOps ops s
  | .registerAll bundle => osadapterRegisterAll setupLocked bundle s
  | .registerHandler level handler => safestateRegisterHandler setupLocked level handler s
  | .service call answer =>
      let called := serviceCall setupLocked call answer s
      (called.1, called.2.1)

def OsadapterBundle.beforeSockets (bundle : OsadapterBundle) : List (OsService × Option Osadapter) :=
  [(.memory, bundle.memory), (.clocksync, bundle.clocksync), (.timer, bundle.timer), (.mutex, bundle.mutex),
    (.task, bundle.task), (.log, bundle.log), (.nvm, bundle.nvm), (.platform, bundle.platform),
    (.reboot, bundle.reboot), (.ipc, bundle.ipc), (.netlink, bundle.netlink), (.flow, bundle.flow)]

def OsadapterBundle.afterSockets (bundle : OsadapterBundle) : List (OsService × Option Osadapter) :=
  [(.random, bundle.random), (.fsou, bundle.fsou)]

def named (entries : List (OsService × Option Osadapter)) : Bool := entries.any fun entry => entry.2.isSome

namespace OsCall

def asks : OsCall → Bool
  | register _ osadapter => osadapter.isSome
  | registerSocketOps _ => false
  | registerAll bundle => bundle.any fun bundle => named (bundle.beforeSockets ++ bundle.afterSockets)
  | registerHandler level handler => level.isSome && handler.isSome
  | service call _ => call.valid && call.operation.setupOnly

def whileLocked : OsCall → List OsCall
  | register _ _ => []
  | registerSocketOps ops => [registerSocketOps ops]
  | registerAll bundle =>
      match bundle with
      | none => []
      | some bundle => if named bundle.beforeSockets then [] else [registerSocketOps bundle.sockets]
  | registerHandler _ _ => []
  | service call answer => if call.operation.setupOnly then [] else [service call answer]

end OsCall

section Bundles
variable {s : OsLayer}

def registerEach (setupLocked : Bool) (entries : List (OsService × Option Osadapter)) (done : OsLayer × RteStatus) :
    OsLayer × RteStatus :=
  entries.foldl (fun done entry => registerNext (osadapterRegister entry.1 setupLocked) entry.2 done) done

theorem registerAllEach (setupLocked : Bool) (bundle : OsadapterBundle) (s : OsLayer) :
    osadapterRegisterAll setupLocked (some bundle) s =
      registerEach setupLocked bundle.afterSockets
        (registerNext osadapterRegisterSocketOps bundle.sockets
          (registerEach setupLocked bundle.beforeSockets (s, .ok))) := by
  simp only [osadapterRegisterAll, registerEach, OsadapterBundle.beforeSockets, OsadapterBundle.afterSockets,
    List.foldl_cons, List.foldl_nil, osadapterMemoryRegister, osadapterClocksyncRegister, osadapterTimerRegister,
    osadapterMutexRegister, osadapterTaskRegister, osadapterLogRegister, osadapterNvmRegister,
    osadapterPlatformRegister, osadapterRebootRegister, osadapterIpcRegister, osadapterNetlinkRegister,
    osadapterFlowRegister, osadapterRandomRegister, osadapterFsouRegister]

theorem registerNextFailed {α : Type} (register : Option α → OsLayer → OsLayer × RteStatus) (given : Option α)
    {done : OsLayer × RteStatus} (failed : done.2 ≠ .ok) : registerNext register given done = done :=
  if_pos failed

theorem registerNextNone {α : Type} (register : Option α → OsLayer → OsLayer × RteStatus) (done : OsLayer × RteStatus) :
    registerNext register none done = done := by
  unfold registerNext
  split <;> rfl

theorem registerEachFailed (setupLocked : Bool) (entries : List (OsService × Option Osadapter))
    {done : OsLayer × RteStatus} (failed : done.2 ≠ .ok) : registerEach setupLocked entries done = done := by
  induction entries with
  | nil => rfl
  | cons entry rest ih => rw [registerEach, List.foldl_cons, registerNextFailed _ _ failed]; exact ih

theorem registerEachLocked (entries : List (OsService × Option Osadapter)) (s : OsLayer) :
    registerEach true entries (s, .ok) =
      if named entries then (safestateEnter s setupAfterInit, .invalidState) else (s, .ok) := by
  induction entries with
  | nil => rfl
  | cons entry rest ih =>
    rw [registerEach, List.foldl_cons]
    obtain ⟨service, given⟩ := entry
    cases given with
    | none =>
      rw [registerNextNone]
      exact ih
    | some osadapter =>
      have refused : registerNext (osadapterRegister service true) (some osadapter) (s, .ok) =
          (safestateEnter s setupAfterInit, .invalidState) := rfl
      dsimp only
      rw [refused]
      exact registerEachFailed true rest (by simp)

end Bundles

def OsLayer.withReports (s : OsLayer) (reported : List (SafestateEntry × Option Nat)) : OsLayer :=
  { s with reported := reported }

@[simp] theorem withReportsAdapters (s : OsLayer) (reported : List (SafestateEntry × Option Nat)) :
    (s.withReports reported).adapters = s.adapters := rfl

@[simp] theorem withReportsReported (s : OsLayer) (reported : List (SafestateEntry × Option Nat)) :
    (s.withReports reported).reported = reported := rfl

@[simp] theorem withReportsSelf (s : OsLayer) : s.withReports s.reported = s := rfl

@[simp] theorem withReportsTwice (s : OsLayer) (first reported : List (SafestateEntry × Option Nat)) :
    (s.withReports first).withReports reported = s.withReports reported := rfl

def Quiet (call : OsLayer → OsLayer × RteStatus) : Prop :=
  ∀ s reported, call (s.withReports reported) = ((call s).1.withReports reported, (call s).2)

theorem quietKeeps {call : OsLayer → OsLayer × RteStatus} (quiet : Quiet call) (s : OsLayer) :
    (call s).1.reported = s.reported := by
  have same : call (s.withReports s.reported) = _ := quiet s s.reported
  rw [withReportsSelf] at same
  rw [same, withReportsReported]

section Open

theorem registerQuiet (service : OsService) (osadapter : Option Osadapter) :
    Quiet (osadapterRegister service false osadapter) := by
  intro s reported
  cases osadapter <;> rfl

theorem socketsQuiet (ops : Option RteOsSocketOps) : Quiet (osadapterRegisterSocketOps ops) := by
  intro s reported
  cases ops <;> rfl

theorem handlerQuiet (level : Option SafestateLevel) (handler : Option Nat) :
    Quiet (safestateRegisterHandler false level handler) := by
  intro s reported
  cases handler <;> cases level <;> rfl

theorem registerNextQuiet {α : Type} {register : Option α → OsLayer → OsLayer × RteStatus}
    (quiet : ∀ given, Quiet (register given)) (given : Option α) (status : RteStatus) :
    Quiet fun s => registerNext register given (s, status) := by
  intro s reported
  simp only [registerNext]
  split_ifs
  · rfl
  · exact quiet given s reported
  · rfl

theorem thenQuiet {call : OsLayer → OsLayer × RteStatus} (next : OsLayer × RteStatus → OsLayer × RteStatus)
    (first : Quiet call) (second : ∀ status, Quiet fun s => next (s, status)) : Quiet fun s => next (call s) := by
  intro s reported
  simp only [first s reported]
  exact second (call s).2 (call s).1 reported

theorem registerEachQuiet (entries : List (OsService × Option Osadapter)) (status : RteStatus) :
    Quiet fun s => registerEach false entries (s, status) := by
  induction entries generalizing status with
  | nil => exact fun _ _ => rfl
  | cons entry rest ih =>
    exact thenQuiet (registerEach false rest) (registerNextQuiet (registerQuiet entry.1) entry.2 status) ih

theorem registerAllQuiet (bundle : Option OsadapterBundle) : Quiet (osadapterRegisterAll false bundle) := by
  cases bundle with
  | none => exact fun _ _ => rfl
  | some bundle =>
    have upTo := thenQuiet (registerNext osadapterRegisterSocketOps bundle.sockets)
      (registerEachQuiet bundle.beforeSockets .ok) (registerNextQuiet socketsQuiet bundle.sockets)
    have whole := thenQuiet (registerEach false bundle.afterSockets) upTo (registerEachQuiet bundle.afterSockets)
    intro s reported
    simp only [registerAllEach]
    exact whole s reported

theorem serviceQuiet (call : ServiceCall) (answer : RteStatus) :
    Quiet fun s => ((serviceCall false call answer s).1, (serviceCall false call answer s).2.1) := by
  intro s reported
  have allowed : ∀ s, (if call.operation.setupOnly then lifecycleCheckSetupAllowed false s else (s, .ok)) = (s, .ok) := by
    intro s
    split <;> rfl
  simp only [serviceCall, allowed]
  cases call.valid
  · rfl
  · simp only [Bool.not_true, Bool.false_eq_true, if_false, ne_eq, not_true_eq_false, withReportsAdapters]
    cases s.adapters call.operation.service with
    | none => rfl
    | some osadapter =>
      dsimp only
      split_ifs <;> rfl

theorem openQuiet (call : OsCall) : Quiet fun s => osCall false s call := by
  cases call with
  | register service osadapter => exact registerQuiet service osadapter
  | registerSocketOps ops => exact socketsQuiet ops
  | registerAll bundle => exact registerAllQuiet bundle
  | registerHandler level handler => exact handlerQuiet level handler
  | service call answer => exact serviceQuiet call answer

end Open

section Locked
variable {s : OsLayer}

def OsCall.reports (call : OsCall) (s : OsLayer) : List (SafestateEntry × Option Nat) :=
  if call.asks then [(setupAfterInit, s.handlers .degraded)] else []

def leftOf (s : OsLayer) (call : OsCall) : OsLayer :=
  call.whileLocked.foldl (fun s left => (osCall false s left).1) s

structure Refusal (s : OsLayer) (call : OsCall) (done : OsLayer × RteStatus) : Prop where
  left : done.1 = (leftOf s call).withReports (s.reported ++ call.reports s)
  status : call.asks = true → done.2 = .invalidState

theorem withReportsKept {t : OsLayer} (kept : t.reported = s.reported) : t.withReports s.reported = t := by
  rw [← kept, withReportsSelf]

theorem notAsked {call : OsCall} {done : OsLayer × RteStatus} (silent : call.asks = false)
    (left : done.1 = (leftOf s call).withReports s.reported) : Refusal s call done where
  left := by rw [left, OsCall.reports, silent, if_neg Bool.false_ne_true, List.append_nil]
  status asked := by
    rw [silent] at asked
    cases asked

theorem namedAppend (first second : List (OsService × Option Osadapter)) :
    named (first ++ second) = (named first || named second) := List.any_append

theorem registerAllLocked (bundle : OsadapterBundle) (s : OsLayer) :
    Refusal s (.registerAll (some bundle)) (osadapterRegisterAll true (some bundle) s) := by
  have asks : (OsCall.registerAll (some bundle)).asks = (named bundle.beforeSockets || named bundle.afterSockets) :=
    namedAppend bundle.beforeSockets bundle.afterSockets
  rw [registerAllEach, registerEachLocked]
  cases before : named bundle.beforeSockets with
  | true =>
    rw [if_pos rfl, registerNextFailed _ _ (by simp), registerEachFailed _ _ (by simp)]
    refine ⟨?_, fun _ => rfl⟩
    simp [leftOf, OsCall.whileLocked, OsCall.reports, asks, before, safestateEnter, OsLayer.withReports, setupAfterInit]
  | false =>
    -- the sockets are set before the entries after them are looked at
    have sockets : registerNext osadapterRegisterSocketOps bundle.sockets (s, .ok) =
        ((osadapterRegisterSocketOps bundle.sockets s).1, .ok) := by
      cases bundle.sockets <;> rfl
    have left : leftOf s (.registerAll (some bundle)) = (osadapterRegisterSocketOps bundle.sockets s).1 := by
      simp [leftOf, OsCall.whileLocked, before, osCall]
    have handlers : (osadapterRegisterSocketOps bundle.sockets s).1.handlers = s.handlers := by
      cases bundle.sockets <;> rfl
    have reported : (osadapterRegisterSocketOps bundle.sockets s).1.reported = s.reported :=
      quietKeeps (socketsQuiet bundle.sockets) s
    rw [if_neg (by simp), sockets, registerEachLocked]
    cases after : named bundle.afterSockets with
    | true =>
      refine ⟨?_, fun _ => rfl⟩
      rw [left, OsCall.reports, asks, before, after]
      simp [safestateEnter, OsLayer.withReports, setupAfterInit, handlers, reported]
    | false =>
      refine notAsked (by rw [asks, before, after]; rfl) ?_
      rw [left, withReportsKept reported]
      rfl

theorem serviceLocked (call : ServiceCall) (answer : RteStatus) (s : OsLayer) :
    Refusal s (.service call answer) (osCall true s (.service call answer)) := by
  obtain ⟨operation, valid⟩ := call
  cases only : operation.setupOnly with
  | true =>
    cases valid with
    | true =>
      refine ⟨?_, fun _ => ?_⟩ <;>
      simp [osCall, serviceCall, lifecycleCheckSetupAllowed, leftOf, OsCall.whileLocked, OsCall.reports, OsCall.asks, only,
        safestateEnter, OsLayer.withReports, setupAfterInit]
    | false =>
      refine notAsked rfl ?_
      simp [osCall, serviceCall, leftOf, OsCall.whileLocked, only]
  | false =>
    refine notAsked (by rw [OsCall.asks, only, Bool.and_false]) ?_
    have open_ : serviceCall true ⟨operation, valid⟩ answer s = serviceCall false ⟨operation, valid⟩ answer s := by
      simp [serviceCall, only]
    have quiet := quietKeeps (openQuiet (.service ⟨operation, valid⟩ answer)) s
    simp only [osCall, open_] at quiet ⊢
    simp [leftOf, OsCall.whileLocked, only, osCall, withReportsKept quiet]

theorem lockedRefusal (call : OsCall) (s : OsLayer) : Refusal s call (osCall true s call) := by
  cases call with
  | register service osadapter =>
    cases osadapter with
    | none => exact notAsked rfl rfl
    | some osadapter => exact ⟨rfl, fun _ => rfl⟩
  | registerSocketOps ops => exact notAsked rfl (withReportsKept (quietKeeps (socketsQuiet ops) s)).symm
  | registerAll bundle =>
    cases bundle with
    | none => exact notAsked rfl rfl
    | some bundle => exact registerAllLocked bundle s
  | registerHandler level handler =>
    cases handler with
    | none => exact notAsked (Bool.and_false _) rfl
    | some handler =>
      cases level with
      | none => exact notAsked rfl rfl
      | some level => exact ⟨rfl, fun _ => rfl⟩
  | service call answer => exact serviceLocked call answer s

theorem standsLocked {call left : OsCall} (member : left ∈ call.whileLocked) (s : OsLayer) :
    osCall true s left = osCall false s left := by
  cases call with
  | register service osadapter => simp [OsCall.whileLocked] at member
  | registerSocketOps ops =>
    rw [List.mem_singleton.mp member]
    rfl
  | registerAll bundle =>
    cases bundle with
    | none => simp [OsCall.whileLocked] at member
    | some bundle =>
      simp only [OsCall.whileLocked] at member
      split at member
      · simp at member
      · rw [List.mem_singleton.mp member]
        rfl
  | registerHandler level handler => simp [OsCall.whileLocked] at member
  | service call answer =>
    simp only [OsCall.whileLocked] at member
    split at member
    · simp at member
    · rename_i any
      rw [List.mem_singleton.mp member]
      simp [osCall, serviceCall, any]

theorem leftQuiet (call : OsCall) (s : OsLayer) (reported : List (SafestateEntry × Option Nat)) :
    leftOf (s.withReports reported) call = (leftOf s call).withReports reported := by
  unfold leftOf
  induction call.whileLocked generalizing s with
  | nil => rfl
  | cons left rest ih =>
    have first : (osCall false (s.withReports reported) left).1 = (osCall false s left).1.withReports reported :=
      congrArg Prod.fst (openQuiet left s reported)
    rw [List.foldl_cons, List.foldl_cons, first]
    exact ih _

def OsCall.socketsLeft : OsCall → Option RteOsSocketOps
  | registerSocketOps ops => ops
  | registerAll (some bundle) => if named bundle.beforeSockets then none else bundle.sockets
  | _ => none

def OsCall.reaches (adapters : OsService → Option Osadapter) : OsCall → List (Nat × OsOperation)
  | service call _ =>
      if call.valid && !call.operation.setupOnly then
        match adapters call.operation.service with
        | none => []
        | some osadapter => if call.operation ∈ osadapter.slots then [(osadapter.id, call.operation)] else []
      else []
  | _ => []

structure Fixed (s s' : OsLayer) (calls : List OsCall) : Prop where
  adapters : s'.adapters = s.adapters
  handlers : s'.handlers = s.handlers
  sockets : s'.sockets = calls.foldl (fun kept call => call.socketsLeft.or kept) s.sockets
  reached : s'.reached = s.reached ++ calls.flatMap (OsCall.reaches s.adapters)

theorem fixedNil (s : OsLayer) : Fixed s s [] := ⟨rfl, rfl, rfl, (List.append_nil _).symm⟩

theorem fixedCons {s m s' : OsLayer} {call : OsCall} {calls : List OsCall} (first : Fixed s m [call])
    (rest : Fixed m s' calls) : Fixed s s' (call :: calls) where
  adapters := rest.adapters.trans first.adapters
  handlers := rest.handlers.trans first.handlers
  sockets := by rw [rest.sockets, first.sockets]; rfl
  reached := by
    rw [rest.reached, first.reached, first.adapters]
    simp

theorem socketsFixed (ops : Option RteOsSocketOps) (s : OsLayer) :
    Fixed s (osadapterRegisterSocketOps ops s).1 [.registerSocketOps ops] := by
  cases ops <;> exact ⟨rfl, rfl, rfl, (List.append_nil _).symm⟩

theorem serviceFixed (call : ServiceCall) (answer : RteStatus) (any : call.operation.setupOnly = false) (s : OsLayer) :
    Fixed s (serviceCall false call answer s).1 [.service call answer] := by
  simp only [serviceCall, any, Bool.false_eq_true, if_false, ne_eq, not_true_eq_false]
  cases valid : call.valid with
  | false => exact ⟨rfl, rfl, rfl, by simp [OsCall.reaches, valid]⟩
  | true =>
    simp only [Bool.not_true, Bool.false_eq_true, if_false]
    cases given : s.adapters call.operation.service with
    | none => exact ⟨rfl, rfl, rfl, by simp [OsCall.reaches, valid, any, given]⟩
    | some osadapter =>
      dsimp only
      split
      · rename_i slot
        exact ⟨rfl, rfl, rfl, by simp [OsCall.reaches, valid, any, given, slot]⟩
      · rename_i empty
        exact ⟨rfl, rfl, rfl, by simp [OsCall.reaches, valid, any, given, empty]⟩

theorem leftFixed (call : OsCall) (s : OsLayer) : Fixed s (leftOf s call) [call] := by
  cases call with
  | register service osadapter => exact ⟨rfl, rfl, rfl, (List.append_nil _).symm⟩
  | registerSocketOps ops => exact socketsFixed ops s
  | registerAll bundle =>
    cases bundle with
    | none => exact ⟨rfl, rfl, rfl, (List.append_nil _).symm⟩
    | some bundle =>
      cases before : named bundle.beforeSockets with
      | true =>
        have nothing : leftOf s (.registerAll (some bundle)) = s := by simp [leftOf, OsCall.whileLocked, before]
        rw [nothing]
        exact ⟨rfl, rfl, by simp [OsCall.socketsLeft, before], (List.append_nil _).symm⟩
      | false =>
        have sockets : leftOf s (.registerAll (some bundle)) = (osadapterRegisterSocketOps bundle.sockets s).1 := by
          simp [leftOf, OsCall.whileLocked, before, osCall]
        have fixed := socketsFixed bundle.sockets s
        rw [sockets]
        exact ⟨fixed.adapters, fixed.handlers, by simpa [OsCall.socketsLeft, before] using fixed.sockets, fixed.reached⟩
  | registerHandler level handler => exact ⟨rfl, rfl, rfl, (List.append_nil _).symm⟩
  | service call answer =>
    cases only : call.operation.setupOnly with
    | true =>
      have nothing : leftOf s (.service call answer) = s := by simp [leftOf, OsCall.whileLocked, only]
      rw [nothing]
      exact ⟨rfl, rfl, rfl, by simp [OsCall.reaches, only]⟩
    | false =>
      have same : leftOf s (.service call answer) = (serviceCall false call answer s).1 := by
        simp [leftOf, OsCall.whileLocked, only, osCall]
      rw [same]
      exact serviceFixed call answer only s

theorem lockedFixed (call : OsCall) (s : OsLayer) : Fixed s (osCall true s call).1 [call] := by
  have fixed := leftFixed call s
  rw [(lockedRefusal call s).left]
  exact ⟨fixed.adapters, fixed.handlers, fixed.sockets, fixed.reached⟩

end Locked
end PlatformRte.Oal
