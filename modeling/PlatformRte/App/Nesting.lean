import PlatformRte.App.CallStack

/-! Calls of rte_appmanager_run() from inside a callback, at any depth: the state tells
them from a first call, except in the shutdown that follows a failed init. -/
namespace PlatformRte.App

def MidLifecycle (state : AppState) : Prop := state = .initializing ∨ state = .running ∨ state = .shuttingDown

instance (state : AppState) : Decidable (MidLifecycle state) :=
  inferInstanceAs (Decidable (state = .initializing ∨ state = .running ∨ state = .shuttingDown))

def stateIn : Stage → AppState
  | .init => .initializing
  | .shutdown => .shuttingDown
  | _ => .running

theorem stateInMid (stage : Stage) : MidLifecycle (stateIn stage) := by
  cases stage <;> simp [stateIn, MidLifecycle]

structure StateTells (g : Globals) (frame : Frame) : Prop where
  state : frame.failedInit = false → g.app.state = stateIn frame.stage
  failed : frame.failedInit = true → frame.stage = .shutdown ∧ ¬ MidLifecycle g.app.state

structure Nested (p : Process) : Prop where
  top : ∀ frame below, p.stack = frame :: below → StateTells p.globals frame
  below : ∀ frame ∈ p.stack.tail, frame.failedInit = true ∧ frame.stage = .shutdown

section Resume
variable {config : AppmanagerConfig} {ops : AppmanagerOperations} {g : Globals}

theorem loopTopTold (running : g.app.state = .running) :
    (loopTop config ops g).1.app.state = stateIn (loopTop config ops g).2 := by
  unfold loopTop
  split
  · cases ops.preExecute <;> exact running
  · rfl

theorem afterCheckpointTold (committed : Bool) (running : g.app.state = .running) :
    (afterCheckpoint config ops committed g).1.app.state = stateIn (afterCheckpoint config ops committed g).2 := by
  unfold afterCheckpoint
  split
  · exact running
  · exact loopTopTold running

theorem afterPostExecuteTold (running : g.app.state = .running) :
    (afterPostExecute config ops g).1.app.state = stateIn (afterPostExecute config ops g).2 := by
  unfold afterPostExecute
  split
  · exact running
  · exact afterCheckpointTold true running

theorem afterStageTold (stage : Stage) (ok : Bool) (running : g.app.state = .running) :
    (afterStage config ops stage ok g).1.app.state = stateIn (afterStage config ops stage ok g).2 := by
  cases stage with
  | preExecute =>
    cases ok
    · exact loopTopTold running
    · exact running
  | execute =>
    cases ok
    · exact loopTopTold running
    · simp only [afterStage, if_true]
      split
      · exact running
      · exact afterPostExecuteTold running
  | postExecute => exact afterPostExecuteTold running
  | checkpoint checkpointId => exact afterCheckpointTold ok running
  | onCheckpointResult committed => exact loopTopTold running
  | init => exact loopTopTold running
  | shutdown => exact loopTopTold running

end Resume

section Processes
variable {p : Process}

theorem StateTells.inCycle {g : Globals} {frame : Frame} (told : StateTells g frame) (notInit : frame.stage ≠ .init)
    (notShutdown : frame.stage ≠ .shutdown) : g.app.state = .running := by
  have normal : frame.failedInit = false := by
    rw [← Bool.not_eq_true]
    exact fun failed => notShutdown (told.failed failed).1
  rw [told.state normal]
  cases stage : frame.stage with
  | init => exact absurd stage notInit
  | shutdown => exact absurd stage notShutdown
  | preExecute | execute | postExecute | checkpoint checkpointId | onCheckpointResult committed => rfl

theorem resumeCycle {g : Globals} {frame : Frame} (told : StateTells g frame) (notInit : frame.stage ≠ .init)
    (notShutdown : frame.stage ≠ .shutdown) (status : RteStatus) :
    ∃ next, (resume frame.config frame.ops frame.stage frame.failedInit status g).2 = .calls next false ∧
      (resume frame.config frame.ops frame.stage frame.failedInit status g).1.app.state = stateIn next := by
  have running := told.inCycle notInit notShutdown
  obtain ⟨config, ops, stage, failedInit⟩ := frame
  have handled := (handleKeeps g status config.errorThreshold).2.1.trans running
  cases stage with
  | init => exact absurd rfl notInit
  | shutdown => exact absurd rfl notShutdown
  | preExecute => exact ⟨_, rfl, afterStageTold .preExecute _ handled⟩
  | execute => exact ⟨_, rfl, afterStageTold .execute _ handled⟩
  | postExecute => exact ⟨_, rfl, afterStageTold .postExecute _ handled⟩
  | checkpoint checkpointId => exact ⟨_, rfl, afterStageTold (.checkpoint checkpointId) _ handled⟩
  | onCheckpointResult committed => exact ⟨_, rfl, afterStageTold (.onCheckpointResult committed) _ handled⟩

theorem nextTold {g : Globals} {frame : Frame} {status : RteStatus} {stage : Stage} {failedInit : Bool}
    (told : StateTells g frame)
    (calls : (resume frame.config frame.ops frame.stage frame.failedInit status g).2 = .calls stage failedInit) :
    StateTells (resume frame.config frame.ops frame.stage frame.failedInit status g).1
      { frame with stage := stage, failedInit := failedInit } := by
  by_cases init : frame.stage = .init
  · simp only [init, resume] at calls ⊢
    by_cases ok : status = .ok
    · simp only [ok, ne_eq, not_true_eq_false, if_false, Next.calls.injEq] at calls ⊢
      obtain ⟨rfl, rfl⟩ := calls
      exact ⟨fun _ => loopTopTold rfl, fun failed => Bool.noConfusion failed⟩
    · simp only [ok, ne_eq, not_false_eq_true, if_true, Next.calls.injEq] at calls ⊢
      obtain ⟨rfl, rfl⟩ := calls
      exact ⟨fun normal => Bool.noConfusion normal, fun _ => ⟨rfl, by simp [MidLifecycle]⟩⟩
  by_cases shutdown : frame.stage = .shutdown
  · simp only [shutdown, resume] at calls
    split at calls <;> cases calls
  · obtain ⟨next, same, state⟩ := resumeCycle told init shutdown status
    rw [calls] at same
    obtain ⟨rfl, rfl⟩ := Next.calls.inj same
    exact ⟨fun _ => state, fun failed => Bool.noConfusion failed⟩

theorem endTold {g : Globals} {frame : Frame} {status : RteStatus} {exitCode : ExitCode} (told : StateTells g frame)
    (returns : (resume frame.config frame.ops frame.stage frame.failedInit status g).2 = .returns exitCode) :
    ¬ MidLifecycle (resume frame.config frame.ops frame.stage frame.failedInit status g).1.app.state := by
  by_cases init : frame.stage = .init
  · simp only [init, resume] at returns
    split at returns <;> cases returns
  by_cases shutdown : frame.stage = .shutdown
  · simp only [shutdown, resume]
    split
    · rename_i failed
      exact (told.failed failed).2
    · simp [MidLifecycle]
  · obtain ⟨next, same, _⟩ := resumeCycle told init shutdown status
    rw [returns] at same
    cases same

theorem leaveKeeps (nested : Nested p) (status : RteStatus) : Nested (leave p status) := by
  unfold leave
  split
  · exact nested
  · rename_i frame below stack
    have told := nested.top frame below stack
    have outer : ∀ frame ∈ below, frame.failedInit = true ∧ frame.stage = .shutdown := by
      simpa [stack] using nested.below
    dsimp only
    split
    · rename_i stage failedInit calls
      refine ⟨fun top rest same => ?_, outer⟩
      obtain ⟨rfl, _⟩ := List.cons.inj same
      exact nextTold told calls
    · rename_i exitCode returns
      -- the run above this one was waiting in the shutdown after its failed init
      refine ⟨fun top rest same => ?_, fun frame member => outer frame (List.mem_of_mem_tail member)⟩
      cases same
      obtain ⟨failed, shutdown⟩ := outer top List.mem_cons_self
      exact ⟨fun normal => absurd failed (by simp [normal]), fun _ => ⟨shutdown, endTold told returns⟩⟩

theorem enterCases (p : Process) (config : Option AppmanagerConfig) :
    enter p config = { p with returned := some .failure } ∨
      ¬ MidLifecycle p.globals.app.state ∧
        ∃ given ops, enter p config = ⟨startRun p.globals, ⟨given, ops, .init, false⟩ :: p.stack, none⟩ := by
  cases config with
  | none => exact Or.inl rfl
  | some config =>
    cases given : config.ops with
    | none => exact Or.inl (by simp only [enter, given])
    | some ops =>
      simp only [enter, given]
      split
      · exact Or.inl rfl
      · rename_i accepted
        refine Or.inr ⟨fun middle => accepted ?_, config, ops, rfl⟩
        simp only [refuses, given, Bool.or_eq_true, decide_eq_true_eq]
        exact Or.inr middle

theorem enterKeeps (nested : Nested p) (config : Option AppmanagerConfig) : Nested (enter p config) := by
  rcases enterCases p config with refused | ⟨free, given, ops, entered⟩
  · rw [refused]
    exact ⟨nested.top, nested.below⟩
  · rw [entered]
    refine ⟨fun frame below same => ?_, fun frame member => ?_⟩
    · cases same
      exact ⟨fun _ => rfl, fun failed => Bool.noConfusion failed⟩
    · -- a callback that could start a run is the shutdown after a failed init
      rcases split : p.stack with _ | ⟨top, below⟩
      · simp [split] at member
      rcases List.mem_cons.mp (split ▸ member) with rfl | outer
      · have told := nested.top frame below split
        cases failed : frame.failedInit
        · exact absurd (told.state failed ▸ stateInMid frame.stage) free
        · exact ⟨rfl, (told.failed failed).1⟩
      · exact nested.below frame (by simpa [split] using outer)

theorem processKeeps (nested : Nested p) (event : Event) : Nested (processStep p event) := by
  cases event with
  | act act =>
    have same := (performKeeps p.globals act).app
    refine ⟨fun frame below stack => ?_, nested.below⟩
    obtain ⟨state, failed⟩ := nested.top frame below stack
    rw [← same] at state failed
    exact ⟨state, failed⟩
  | returns status => exact leaveKeeps nested status
  | call config => exact enterKeeps nested config

theorem processRuns (start : Globals) (events : List Event) :
    Nested (Machine.run processStep ⟨start, [], none⟩ events) :=
  Machine.invariantRun (P := fun _ _ => True) ⟨by simp, by simp⟩ (fun _ event nested _ => processKeeps nested event)
    fun _ _ _ _ => trivial

end Processes

def Complete (config : AppmanagerConfig) : Prop :=
  ∃ ops, config.ops = some ops ∧ (ops.init && ops.execute && ops.shutdown && ops.getName && ops.getVersion) = true

structure RefusedWithoutEffect (p : Process) (config : AppmanagerConfig) : Prop where
  returned : (processStep p (.call (some config))).returned = some .failure
  stack : (processStep p (.call (some config))).stack = p.stack
  globals : (processStep p (.call (some config))).globals = p.globals

theorem completeRefused {p : Process} {config : AppmanagerConfig} (complete : Complete config) :
    RefusedWithoutEffect p config ↔ MidLifecycle p.globals.app.state := by
  obtain ⟨ops, given, whole⟩ := complete
  have guard : refuses p.globals (some config) = decide (MidLifecycle p.globals.app.state) := by
    simp only [refuses, given, whole, Bool.not_true, Bool.false_or]
    rfl
  by_cases middle : MidLifecycle p.globals.app.state
  · have refused : processStep p (.call (some config)) = { p with returned := some .failure } := by
      simp only [processStep, enter, given, guard, middle, decide_true, if_true]
    refine ⟨fun _ => middle, fun _ => ⟨?_, ?_, ?_⟩⟩ <;> rw [refused]
  · have entered : (processStep p (.call (some config))).returned = none := by
      simp only [processStep, enter, given, guard, middle, decide_false, Bool.false_eq_true, if_false]
    refine ⟨fun refused => ?_, fun mid => absurd mid middle⟩
    have returned := refused.returned
    rw [entered] at returned
    cases returned

/- In any run of the process, to any depth, a nested call is refused exactly outside the
shutdown that follows a failed init. -/
theorem nestedRefusedIff {start : Globals} {events : List Event} {frame : Frame} {below : List Frame}
    (inside : (Machine.run processStep ⟨start, [], none⟩ events).stack = frame :: below) {config : AppmanagerConfig}
    (complete : Complete config) :
    RefusedWithoutEffect (Machine.run processStep ⟨start, [], none⟩ events) config ↔ frame.failedInit = false := by
  have told := (processRuns start events).top frame below inside
  rw [completeRefused complete]
  constructor
  · intro middle
    rw [← Bool.not_eq_true]
    exact fun failed => (told.failed failed).2 middle
  · intro normal
    rw [told.state normal]
    exact stateInMid frame.stage

theorem executeNested : RefusedWithoutEffect
    (Machine.run processStep ⟨beforeRun, [], none⟩ [.call (some twoCycles), .returns .ok, .act .requestShutdown])
    twoCycles :=
  have inside : (Machine.run processStep ⟨beforeRun, [], none⟩
      [.call (some twoCycles), .returns .ok, .act .requestShutdown]).stack =
        [⟨twoCycles, plainOps, .execute, false⟩] := rfl
  (nestedRefusedIff inside ⟨plainOps, rfl, rfl⟩).mpr rfl

/- The shutdown after a failed init finds the state of a run that has ended. -/
theorem failedInitEntered : ¬ ∀ start events frame below,
    (Machine.run processStep ⟨start, [], none⟩ events).stack = frame :: below → ∀ config, Complete config →
      RefusedWithoutEffect (Machine.run processStep ⟨start, [], none⟩ events) config := by
  intro claimed
  have refused := claimed beforeRun [.call (some twoCycles), .returns .hardwareFault]
    ⟨twoCycles, plainOps, .shutdown, true⟩ [] rfl twoCycles ⟨plainOps, rfl, rfl⟩
  exact absurd refused.returned (by decide)

end PlatformRte.App
