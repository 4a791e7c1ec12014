import PlatformRte.App.Nesting
import PlatformRte.Lib.Erase
import PlatformRte.Oal.Setup

/-! The setup phase of a process, whatever its callbacks do and however its runs are nested:
the lock tells the cycles of an application from everything else, and what a call of the setup
does in a cycle is a report. -/
namespace PlatformRte.App
open Machine Oal

structure System where
  process : Process
  layer : OsLayer

inductive SystemEvent where
  | app (event : Event)
  | os (call : OsCall)
  deriving DecidableEq, Repr

def systemStep (s : System) : SystemEvent → System
  | .app event => { s with process := processStep s.process event }
  | .os call => { s with layer := (osCall s.process.globals.setupLocked s.layer call).1 }

def inCycle : Stage → Bool
  | .init | .shutdown => false
  | _ => true

def inCycles (p : Process) : Bool :=
  match p.stack with
  | [] => false
  | frame :: _ => inCycle frame.stage

structure Gated (p : Process) : Prop where
  nested : Nested p
  locked : p.globals.setupLocked = inCycles p

section Resume
variable {config : AppmanagerConfig} {ops : AppmanagerOperations} {g : Globals}

theorem loopTopLocked (locked : g.setupLocked = true) :
    (loopTop config ops g).1.setupLocked = inCycle (loopTop config ops g).2 := by
  unfold loopTop
  split
  · cases ops.preExecute <;> exact locked
  · rfl

theorem afterCheckpointLocked (committed : Bool) (locked : g.setupLocked = true) :
    (afterCheckpoint config ops committed g).1.setupLocked = inCycle (afterCheckpoint config ops committed g).2 := by
  unfold afterCheckpoint
  split
  · exact locked
  · exact loopTopLocked locked

theorem afterPostExecuteLocked (locked : g.setupLocked = true) :
    (afterPostExecute config ops g).1.setupLocked = inCycle (afterPostExecute config ops g).2 := by
  unfold afterPostExecute
  split
  · exact locked
  · exact afterCheckpointLocked true locked

theorem afterStageLocked (stage : Stage) (ok : Bool) (locked : g.setupLocked = true) :
    (afterStage config ops stage ok g).1.setupLocked = inCycle (afterStage config ops stage ok g).2 := by
  cases stage with
  | preExecute =>
    cases ok
    · exact loopTopLocked locked
    · exact locked
  | execute =>
    cases ok
    · exact loopTopLocked locked
    · simp only [afterStage, if_true]
      split
      · exact locked
      · exact afterPostExecuteLocked locked
  | postExecute => exact afterPostExecuteLocked locked
  | checkpoint checkpointId => exact afterCheckpointLocked ok locked
  | onCheckpointResult committed => exact loopTopLocked locked
  | init => exact loopTopLocked locked
  | shutdown => exact loopTopLocked locked

theorem resumeLocked {stage next : Stage} {failedInit nextFailed : Bool} {status : RteStatus}
    (locked : g.setupLocked = inCycle stage)
    (calls : (resume config ops stage failedInit status g).2 = .calls next nextFailed) :
    (resume config ops stage failedInit status g).1.setupLocked = inCycle next := by
  cases stage with
  | init =>
    simp only [resume] at calls ⊢
    split at calls
    · rename_i failed
      rw [if_pos failed]
      obtain ⟨rfl, _⟩ := Next.calls.inj calls
      exact locked
    · rename_i ok
      rw [if_neg ok]
      obtain ⟨rfl, _⟩ := Next.calls.inj calls
      exact loopTopLocked rfl
  | shutdown =>
    simp only [resume] at calls
    split at calls <;> cases calls
  | preExecute | execute | postExecute | checkpoint checkpointId | onCheckpointResult committed =>
    have handled := (handleKeeps g status config.errorThreshold).2.2.2.2.2.1.trans locked
    obtain ⟨rfl, _⟩ := Next.calls.inj calls
    exact afterStageLocked _ _ handled

theorem endUnlocked {stage : Stage} {failedInit : Bool} {status : RteStatus} {exitCode : ExitCode}
    (locked : g.setupLocked = inCycle stage)
    (returns : (resume config ops stage failedInit status g).2 = .returns exitCode) :
    (resume config ops stage failedInit status g).1.setupLocked = false := by
  cases stage with
  | init =>
    simp only [resume] at returns
    split at returns <;> cases returns
  | shutdown =>
    simp only [resume]
    split <;> exact locked
  | preExecute | execute | postExecute | checkpoint checkpointId | onCheckpointResult committed => cases returns

end Resume

theorem leaveGated {p : Process} (gated : Gated p) (status : RteStatus) : Gated (leave p status) := by
  refine ⟨leaveKeeps gated.nested status, ?_⟩
  have locked := gated.locked
  unfold leave
  split
  · exact locked
  · rename_i frame below stack
    rw [inCycles, stack] at locked
    dsimp only
    split
    · rename_i stage failedInit calls
      exact resumeLocked locked calls
    · rename_i exitCode returns
      -- the run above this one was waiting in a shutdown
      have unlocked := endUnlocked locked returns
      cases below with
      | nil => exact unlocked
      | cons top rest =>
        have outer := gated.nested.below top (by simp [stack])
        simp only [inCycles, outer.2, inCycle]
        exact unlocked

theorem enterGated {p : Process} (gated : Gated p) (config : Option AppmanagerConfig) : Gated (enter p config) := by
  refine ⟨enterKeeps gated.nested config, ?_⟩
  rcases enterCases p config with refused | ⟨_, given, ops, entered⟩
  · rw [refused]
    exact gated.locked
  · rw [entered]
    rfl

theorem processGated {p : Process} (gated : Gated p) (event : Event) : Gated (processStep p event) := by
  cases event with
  | act act =>
    refine ⟨processKeeps gated.nested (.act act), ?_⟩
    exact (performKeeps p.globals act).locked.trans gated.locked
  | returns status => exact leaveGated gated status
  | call config => exact enterGated gated config

theorem systemGated (s : System) (event : SystemEvent) (gated : Gated s.process) :
    Gated (systemStep s event).process := by
  cases event with
  | app event => exact processGated gated event
  | os call => exact gated

theorem runGated (events : List SystemEvent) {s : System} (gated : Gated s.process) :
    Gated (run systemStep s events).process := by
  induction events generalizing s with
  | nil => exact gated
  | cons event rest ih => exact ih (systemGated s event gated)

def stays (s : System) : SystemEvent → List SystemEvent
  | .app event => [.app event]
  | .os call => if inCycles s.process then call.whileLocked.map .os else [.os call]

def reportsOf (s : System) : SystemEvent → List (SafestateEntry × Option Nat)
  | .app _ => []
  | .os call => if inCycles s.process then call.reports s.layer else []

def osCallsIn (events : List SystemEvent) : List OsCall :=
  events.filterMap fun
    | .app _ => none
    | .os call => some call

section Steps
variable {s t : System}

theorem stepCall (gated : Gated s.process) (call : OsCall) :
    systemStep s (.os call) = ⟨s.process, (osCall (inCycles s.process) s.layer call).1⟩ := by
  rw [← gated.locked]
  rfl

theorem reportsAdd (s : System) (event : SystemEvent) (gated : Gated s.process) :
    (systemStep s event).layer.reported = s.layer.reported ++ reportsOf s event := by
  cases event with
  | app event => exact (List.append_nil _).symm
  | os call =>
    rw [stepCall gated, reportsOf]
    cases inCycles s.process with
    | true => exact congrArg OsLayer.reported (lockedRefusal call s.layer).left
    | false => exact (quietKeeps (openQuiet call) s.layer).trans (List.append_nil _).symm

def SameSetup (reported : List (SafestateEntry × Option Nat)) (s t : System) : Prop :=
  t = ⟨s.process, s.layer.withReports reported⟩

theorem leftRuns (locked : s.process.globals.setupLocked = true) {calls : List OsCall}
    (left : ∀ call ∈ calls, ∀ layer, osCall true layer call = osCall false layer call) :
    run systemStep s (calls.map .os) = ⟨s.process, calls.foldl (fun layer call => (osCall false layer call).1) s.layer⟩ := by
  induction calls generalizing s with
  | nil => rfl
  | cons call rest ih =>
    have first : systemStep s (.os call) = ⟨s.process, (osCall false s.layer call).1⟩ := by
      rw [systemStep, locked, left call List.mem_cons_self]
    have later := ih (s := systemStep s (.os call)) locked fun call member => left call (List.mem_cons_of_mem _ member)
    rw [first] at later
    rw [List.map_cons, List.foldl_cons, ← later, ← first]
    rfl

theorem stepSame {reported : List (SafestateEntry × Option Nat)} (event : SystemEvent) (gated : Gated s.process)
    (same : SameSetup reported s t) : SameSetup reported (systemStep s event) (run systemStep t (stays s event)) := by
  subst same
  cases event with
  | app event => rfl
  | os call =>
    have locked := gated.locked
    rw [stepCall gated, stays]
    cases cycles : inCycles s.process with
    | true =>
      rw [cycles] at locked
      have runs : run systemStep ⟨s.process, s.layer.withReports reported⟩ (call.whileLocked.map .os) =
          ⟨s.process, leftOf (s.layer.withReports reported) call⟩ :=
        leftRuns (s := ⟨s.process, s.layer.withReports reported⟩) locked fun left member layer => standsLocked member layer
      rw [if_pos rfl, runs, leftQuiet, SameSetup, (lockedRefusal call s.layer).left, withReportsTwice]
    | false =>
      rw [cycles] at locked
      have opened : osCall false (s.layer.withReports reported) call =
          ((osCall false s.layer call).1.withReports reported, (osCall false s.layer call).2) :=
        openQuiet call s.layer reported
      simp only [SameSetup, Bool.false_eq_true, if_false, run, List.foldl_cons, List.foldl_nil, systemStep, locked, opened]

theorem stepFixed (event : SystemEvent) (gated : Gated s.process) (cycles : inCycles s.process = true) :
    Fixed s.layer (systemStep s event).layer (osCallsIn [event]) := by
  cases event with
  | app event => exact fixedNil s.layer
  | os call =>
    rw [stepCall gated, cycles]
    exact lockedFixed call s.layer

theorem osCallsCons (event : SystemEvent) (rest : List SystemEvent) :
    osCallsIn (event :: rest) = osCallsIn [event] ++ osCallsIn rest := by
  cases event <;> rfl

theorem fixedRun {stay : List SystemEvent} (gated : Gated s.process)
    (cycles : Always systemStep (fun m _ => inCycles m.process = true) s stay) :
    Fixed s.layer (run systemStep s stay).layer (osCallsIn stay) := by
  induction stay generalizing s with
  | nil => exact fixedNil s.layer
  | cons event rest ih =>
    obtain ⟨here, after⟩ := alwaysCons.mp cycles
    have first := stepFixed event gated here
    have later := ih (systemGated s event gated) after
    rw [osCallsCons]
    cases event with
    | app event => exact later
    | os call => exact fixedCons first later

end Steps

structure SetUp (begun : System) (events : List SystemEvent) (s : System) : Prop where
  gate : s.process.globals.setupLocked = inCycles s.process
  -- the run without the refused calls, in which nothing is refused
  asErased : run systemStep begun (erased systemStep stays begun events) =
    ⟨s.process, s.layer.withReports begun.layer.reported⟩
  reported : s.layer.reported = begun.layer.reported ++ told systemStep reportsOf begun events
  refused : ∀ call, inCycles s.process = true → call.asks = true →
    (osCall s.process.globals.setupLocked s.layer call).2 = .invalidState
  fixed : ∀ stay, Always systemStep (fun m _ => inCycles m.process = true) s stay →
    Fixed s.layer (run systemStep s stay).layer (osCallsIn stay)

/- From a process in which no run has begun and the setup phase is open. -/
theorem setUpOutsideCycles {start : Globals} (opened : start.setupLocked = false) (layer : OsLayer)
    (events : List SystemEvent) :
    SetUp ⟨⟨start, [], none⟩, layer⟩ events (run systemStep ⟨⟨start, [], none⟩, layer⟩ events) := by
  let begun : System := ⟨⟨start, [], none⟩, layer⟩
  have gatedStart : Gated begun.process := ⟨⟨by simp [begun], by simp [begun]⟩, opened⟩
  have gated : Gated (run systemStep begun events).process := runGated events gatedStart
  refine ⟨gated.locked, ?_, ?_, ?_, ?_⟩
  · have same : SameSetup layer.reported begun begun := rfl
    exact erasedRun systemGated (fun s t event gated same => stepSame event gated same) events gatedStart same
  · exact toldRun (fun s => s.layer.reported) systemGated reportsAdd events gatedStart
  · intro call cycles asks
    rw [gated.locked, cycles]
    exact (lockedRefusal call _).status asks
  · exact fun stay cycles => fixedRun gated cycles

def timerAdapter : Osadapter := ⟨1, [.timerCreate, .timerNow]⟩

def allSockets : RteOsSocketOps := ⟨⟨true, true, true⟩, true, true, true, true, true, true, true⟩

def socketsAndRandom : OsadapterBundle where
  memory := none
  clocksync := none
  timer := none
  mutex := none
  task := none
  log := none
  nvm := none
  platform := none
  reboot := none
  ipc := none
  netlink := none
  flow := none
  sockets := some allSockets
  random := some ⟨2, [.randomFill]⟩
  fsou := none

def setUpLate : List SystemEvent :=
  [.os (.register .timer (some timerAdapter)), .app (.call (some twoCycles)), .app (.returns .ok),
    .os (.registerAll (some socketsAndRandom)), .os (.service (timerCreate true true (some ⟨10, true⟩)) .ok),
    .os (.service (timerNow true) .ok)]

def nothingSetUp : OsLayer := ⟨fun _ => none, none, fun _ => none, [], []⟩

theorem socketsSetLate :
    let late := run systemStep ⟨⟨beforeRun, [], none⟩, nothingSetUp⟩ setUpLate
    SetUp ⟨⟨beforeRun, [], none⟩, nothingSetUp⟩ setUpLate late ∧
      late.layer.reported = [(setupAfterInit, none), (setupAfterInit, none)] ∧
      late.layer.sockets = some allSockets ∧ late.layer.reached = [(1, .timerNow)] :=
  ⟨setUpOutsideCycles rfl nothingSetUp setUpLate, rfl, rfl, rfl⟩

end PlatformRte.App
