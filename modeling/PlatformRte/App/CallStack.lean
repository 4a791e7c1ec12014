import PlatformRte.App.LifeCycle
import PlatformRte.Lib.Machine

/-! The application manager from one callback to the next, with the calls of
rte_appmanager_run() that have not returned yet, so that a callback may make another one. -/
namespace PlatformRte.App

/- A call of rte_appmanager_run() that waits for one of its callbacks. failedInit: the
callback is the shutdown that follows a failed init. -/
structure Frame where
  config : AppmanagerConfig
  ops : AppmanagerOperations
  stage : Stage
  failedInit : Bool
  deriving DecidableEq, Repr

inductive Next where
  | calls (stage : Stage) (failedInit : Bool)
  | returns (exitCode : ExitCode)
  deriving DecidableEq, Repr

section Resume
variable (config : AppmanagerConfig) (ops : AppmanagerOperations)

def loopTop (g : Globals) : Globals × Stage :=
  if goesOn config g then
    (checkpointSignatureReset { g with app := { g.app with iterationCount := g.app.iterationCount + 1 } },
      if ops.preExecute then .preExecute else .execute)
  else
    ({ g with
        app := { g.app with state := .shuttingDown }
        checkpointSignatureActive := false
        setupLocked := false }, .shutdown)

def afterCheckpoint (committed : Bool) (g : Globals) : Globals × Stage :=
  if ops.onCheckpointResult then (g, .onCheckpointResult committed) else loopTop config ops g

def afterPostExecute (g : Globals) : Globals × Stage :=
  if config.checkpoint && g.voter then (g, .checkpoint (checkpointFoldSignature g.checkpointSignature))
  else afterCheckpoint config ops true g

def afterStage (stage : Stage) (ok : Bool) (g : Globals) : Globals × Stage :=
  match stage with
  | .preExecute => if ok then (g, .execute) else loopTop config ops g
  | .execute =>
      if ok then if ops.postExecute then (g, .postExecute) else afterPostExecute config ops g
      else loopTop config ops g
  | .postExecute => afterPostExecute config ops g
  | .checkpoint _ => afterCheckpoint config ops ok g
  | .onCheckpointResult _ => loopTop config ops g
  | .init | .shutdown => loopTop config ops g

def resume (stage : Stage) (failedInit : Bool) (status : RteStatus) (g : Globals) : Globals × Next :=
  match stage with
  | .init =>
      if status ≠ .ok then
        ({ g with app := { g.app with state := .error, lastError := status, errorCount := g.app.errorCount + 1 } },
          .calls .shutdown true)
      else
        let looped := loopTop config ops { g with app := { g.app with state := .running }, setupLocked := true }
        (looped.1, .calls looped.2 false)
  | .shutdown =>
      if failedInit then (g, .returns .failure)
      else
        ({ g with app := { g.app with state := .shutdown } },
          .returns (if 0 < g.app.errorCount ∧ 0 < config.errorThreshold then .failure else .success))
  | stage =>
      let handled := handleStageResult g status config.errorThreshold
      let moved := afterStage config ops stage handled.2 handled.1
      (moved.1, .calls moved.2 false)

end Resume

/- stack: the calls in progress, the innermost first. returned: what the call that
returned last gave back, none once another one has started. -/
structure Process where
  globals : Globals
  stack : List Frame
  returned : Option ExitCode
  deriving DecidableEq, Repr

inductive Event where
  -- not rte_appmanager_reset_state(), which is for a run that a jump has left
  | act (act : Act)
  | returns (status : RteStatus)
  | call (config : Option AppmanagerConfig)
  deriving DecidableEq, Repr

def enter (p : Process) (config : Option AppmanagerConfig) : Process :=
  match config with
  | none => { p with returned := some .failure }
  | some config =>
    match config.ops with
    | none => { p with returned := some .failure }
    | some ops =>
      if refuses p.globals (some config) then { p with returned := some .failure }
      else ⟨startRun p.globals, ⟨config, ops, .init, false⟩ :: p.stack, none⟩

def leave (p : Process) (status : RteStatus) : Process :=
  match p.stack with
  | [] => p
  | frame :: below =>
      let resumed := resume frame.config frame.ops frame.stage frame.failedInit status p.globals
      match resumed.2 with
      | .calls stage failedInit =>
          { p with globals := resumed.1, stack := { frame with stage := stage, failedInit := failedInit } :: below }
      | .returns exitCode => ⟨resumed.1, below, some exitCode⟩

def processStep (p : Process) : Event → Process
  | .act act => { p with globals := perform p.globals act }
  | .returns status => leave p status
  | .call config => enter p config

def answerEvents (answer : Answer) : List Event := answer.acts.map .act ++ [.returns answer.status]

def answersEvents (answers : Nat → Answer) (calls : Nat) : List Event :=
  (List.range calls).flatMap fun call => answerEvents (answers call)

section Simulation
variable {config : AppmanagerConfig} {ops : AppmanagerOperations} {answers : Nat → Answer} {g : Globals}
  {below : List Frame}

theorem actsRun (p : Process) (acts : List Act) :
    Machine.run processStep p (acts.map .act) = { p with globals := acts.foldl perform p.globals } := by
  induction acts generalizing p with
  | nil => rfl
  | cons act rest ih => exact ih _

theorem answerRun (p : Process) (answer : Answer) :
    Machine.run processStep p (answerEvents answer) =
      leave { p with globals := answer.acts.foldl perform p.globals } answer.status := by
  rw [answerEvents, Machine.runSnoc, actsRun]
  rfl

theorem answersSucc (calls : Nat) :
    answersEvents answers (calls + 1) = answersEvents answers calls ++ answerEvents (answers calls) := by
  simp [answersEvents, List.range_succ]

def WaitsAt (config : AppmanagerConfig) (ops : AppmanagerOperations) (answers : Nat → Answer) (entered : Process)
    (below : List Frame) (calls : Nat) (failedInit : Bool) (moved : Globals × Stage) : Prop :=
  Machine.run processStep entered (answersEvents answers calls) =
    ⟨moved.1, ⟨config, ops, moved.2, failedInit⟩ :: below, none⟩

variable {entered : Process}

theorem waitsNext {calls : Nat} {failedInit : Bool} {moved : Globals × Stage}
    (waits : WaitsAt config ops answers entered below calls failedInit moved) :
    Machine.run processStep entered (answersEvents answers (calls + 1)) =
      leave ⟨(answers calls).acts.foldl perform moved.1, ⟨config, ops, moved.2, failedInit⟩ :: below, none⟩
        (answers calls).status := by
  rw [answersSucc, Machine.runAppend, waits, answerRun]

theorem stageMoves {w : World} {stage : Stage} (notInit : stage ≠ .init) (notShutdown : stage ≠ .shutdown)
    (waits : WaitsAt config ops answers entered below w.calls false (w.globals, stage)) :
    WaitsAt config ops answers entered below (runStage config answers w stage).1.calls false
      (afterStage config ops stage (runStage config answers w stage).2
        (runStage config answers w stage).1.globals) := by
  have next := waitsNext waits
  cases stage with
  | init => exact absurd rfl notInit
  | shutdown => exact absurd rfl notShutdown
  | preExecute => exact next
  | execute => exact next
  | postExecute => exact next
  | checkpoint checkpointId => exact next
  | onCheckpointResult committed => exact next

theorem checkpointMoves {w : World}
    (waits : WaitsAt config ops answers entered below w.calls false (afterPostExecute config ops w.globals)) :
    WaitsAt config ops answers entered below (checkpointStage config answers w).1.calls false
      (afterCheckpoint config ops (checkpointStage config answers w).2
        (checkpointStage config answers w).1.globals) := by
  unfold afterPostExecute at waits
  unfold checkpointStage
  split
  · rename_i meets
    rw [if_pos meets] at waits
    exact stageMoves (by simp) (by simp) waits
  · rename_i alone
    rw [if_neg alone] at waits
    exact waits

theorem cycleMoves {w : World} (goes : goesOn config w.globals = true)
    (waits : WaitsAt config ops answers entered below w.calls false (loopTop config ops w.globals)) :
    WaitsAt config ops answers entered below (runCycle config answers ops w).calls false
      (loopTop config ops (runCycle config answers ops w).globals) := by
  unfold runCycle
  extract_lets started prepared executed posted checked
  rw [loopTop, if_pos goes] at waits
  have afterPrepare : WaitsAt config ops answers entered below prepared.1.calls false
      (if prepared.2 then (prepared.1.globals, .execute) else loopTop config ops prepared.1.globals) := by
    cases given : ops.preExecute
    · simp only [prepared, given, Bool.false_eq_true, if_false, if_true] at waits ⊢
      exact waits
    · simp only [prepared, given, if_true] at waits ⊢
      exact stageMoves (by simp) (by simp) waits
  cases went : prepared.2
  · simpa [went] using afterPrepare
  simp only [went, if_true] at afterPrepare
  have afterExecute : WaitsAt config ops answers entered below executed.1.calls false
      (afterStage config ops .execute executed.2 executed.1.globals) :=
    stageMoves (by simp) (by simp) afterPrepare
  cases done : executed.2
  · simpa [went, done, afterStage] using afterExecute
  have afterPost : WaitsAt config ops answers entered below posted.calls false
      (afterPostExecute config ops posted.globals) := by
    cases given : ops.postExecute
    · simpa [posted, given, done, afterStage] using afterExecute
    · simp only [done, afterStage, given, if_true] at afterExecute
      simp only [posted, given, if_true]
      exact stageMoves (by simp) (by simp) afterExecute
  have afterChecked := checkpointMoves afterPost
  change WaitsAt config ops answers entered below checked.1.calls false
    (afterCheckpoint config ops checked.2 checked.1.globals) at afterChecked
  unfold afterCheckpoint at afterChecked
  cases given : ops.onCheckpointResult
  · simpa [went, done, given] using afterChecked
  · simp only [given, if_true] at afterChecked
    simp only [Bool.not_true, Bool.false_eq_true, if_false, if_true]
    exact stageMoves (by simp) (by simp) afterChecked

theorem cyclesMove (fuel : Nat) {w : World} {cycles : List (List Entry)}
    (waits : WaitsAt config ops answers entered below w.calls false (loopTop config ops w.globals)) :
    let looped := runCycles config answers ops fuel w cycles
    WaitsAt config ops answers entered below looped.1.calls false (loopTop config ops looped.1.globals) := by
  induction fuel generalizing w cycles with
  | zero => exact waits
  | succ fuel ih =>
    unfold runCycles
    split
    · rename_i goes
      exact ih (cycleMoves goes waits)
    · exact waits

/- From the call to the return, the run is what the process does when its callbacks make
no calls. -/
theorem runReturns (given : config.ops = some ops) (accepted : refuses g (some config) = false) {fuel : Nat}
    {exitCode : ExitCode} (returned : Option ExitCode)
    (ended : (appmanagerRun (some config) answers fuel g).exitCode = some exitCode) :
    ∃ calls, Machine.run processStep ⟨g, below, returned⟩ (.call (some config) :: answersEvents answers calls) =
      ⟨(appmanagerRun (some config) answers fuel g).globals, below, some exitCode⟩ := by
  let entered : Process := ⟨startRun g, ⟨config, ops, .init, false⟩ :: below, none⟩
  have enters : enter ⟨g, below, returned⟩ (some config) = entered := by
    simp only [enter, given, accepted, Bool.false_eq_true, if_false, entered]
  have run : ∀ calls,
      Machine.run processStep ⟨g, below, returned⟩ (.call (some config) :: answersEvents answers calls) =
        Machine.run processStep entered (answersEvents answers calls) :=
    fun calls => congrArg (Machine.run processStep · _) enters
  simp only [run]
  have waits : WaitsAt config ops answers entered below 0 false (startRun g, .init) := rfl
  have initialized := waitsNext waits
  by_cases ok : (answers 0).status = .ok
  · let loop := runCycles config answers ops fuel ⟨runningAfter answers g, 1, []⟩ []
    have looping : WaitsAt config ops answers entered below 1 false (loopTop config ops (runningAfter answers g)) := by
      simp only [leave, resume, ok, ne_eq, not_true_eq_false, if_false] at initialized
      exact initialized
    have looped : WaitsAt config ops answers entered below loop.1.calls false (loopTop config ops loop.1.globals) :=
      cyclesMove fuel looping
    have stops : loop.2.2 = !goesOn config loop.1.globals := cyclesStop fuel
    rw [loopedRun given accepted ok] at ended ⊢
    rcases loops : loop with ⟨w, cycles, last⟩
    rw [loops] at looped stops
    rw [show runCycles config answers ops fuel ⟨runningAfter answers g, 1, []⟩ [] = _ from loops] at ended ⊢
    cases last
    · cases ended
    · have ends : goesOn config w.globals = false := by simpa using stops
      rw [loopTop, ends] at looped
      exact ⟨w.calls + 1, (waitsNext looped).trans (by rw [← Option.some.inj ended]; rfl)⟩
  · have shuttingDown : WaitsAt config ops answers entered below 1 true (failedAfter answers g, .shutdown) := by
      simp only [leave, resume, ok, ne_eq, not_false_eq_true, if_true] at initialized
      exact initialized
    rw [failedRun given accepted ok] at ended ⊢
    exact ⟨2, (waitsNext shuttingDown).trans (by rw [← Option.some.inj ended]; rfl)⟩

end Simulation
end PlatformRte.App
