import PlatformRte.App.Cycles

/-! The life cycle of an application: what rte_appmanager_run() promises of the calls of a
run, whatever its callbacks do and return. -/
namespace PlatformRte.App
open Bytes Checksum History

structure LifeCycle (config : AppmanagerConfig) (ops : AppmanagerOperations) (r : AppRun) : Prop where
  initOnce : r.trace.countP (fun entry => entry.stage = .init) = 1
  shutdownOnce : r.trace.countP (fun entry => entry.stage = .shutdown) = if r.exitCode.isSome then 1 else 0
  initFirst : ∀ entry ∈ r.start, entry.stage = .init ∧ (entry.status ≠ .ok → r.cycles = [])
  shutdownLast : ∀ entry ∈ r.finish, entry.stage = .shutdown
  locked : ∀ entry ∈ r.trace, (entry.locked = true ↔ entry.stage ≠ .init ∧ entry.stage ≠ .shutdown)
  lockedStill : r.globals.setupLocked = true ↔ r.exitCode = none
  bounded : config.maxIterations ≠ 0 → r.cycles.length ≤ config.maxIterations.toNat
  stopsAt : StopsAt config r.cycles
  justified : ∀ cycle ∈ r.cycles, Each (Justified ops) cycle

section Runs
variable {config : AppmanagerConfig} {ops : AppmanagerOperations} {answers : Nat → Answer} {g : Globals}

theorem noneInCycles {cycles : List (List Entry)} (calls : ∀ cycle ∈ cycles, ∀ entry ∈ cycle, FromCycle entry) :
    cycles.flatten.countP (fun entry => entry.stage = .init) = 0 ∧
      cycles.flatten.countP (fun entry => entry.stage = .shutdown) = 0 := by
  constructor <;>
  · rw [List.countP_eq_zero]
    intro entry member
    obtain ⟨cycle, inside, here⟩ := List.mem_flatten.mp member
    simp [(calls cycle inside entry here).notInit, (calls cycle inside entry here).notShutdown]

theorem oneOfEach {r : AppRun} {first : Entry} (start : r.start = [first]) (init : first.stage = .init)
    (unlocked : first.locked = false) (stops : first.status ≠ .ok → r.cycles = [])
    (finish : if r.exitCode.isSome then ∃ last, r.finish = [last] ∧ last.stage = .shutdown ∧ last.locked = false
      else r.finish = [])
    (still : r.globals.setupLocked = true ↔ r.exitCode = none)
    (counted : config.maxIterations ≠ 0 → r.cycles.length ≤ config.maxIterations.toNat)
    (calls : ∀ cycle ∈ r.cycles, ∀ entry ∈ cycle, FromCycle entry) (stopsAt : StopsAt config r.cycles)
    (justified : ∀ cycle ∈ r.cycles, Each (Justified ops) cycle) : LifeCycle config ops r := by
  obtain ⟨noInit, noShutdown⟩ := noneInCycles calls
  have inCycles : ∀ entry ∈ r.cycles.flatten,
      (entry.locked = true ↔ entry.stage ≠ .init ∧ entry.stage ≠ .shutdown) := by
    intro entry member
    obtain ⟨cycle, inside, here⟩ := List.mem_flatten.mp member
    have call := calls cycle inside entry here
    exact ⟨fun _ => ⟨call.notInit, call.notShutdown⟩, fun _ => call.locked⟩
  cases ended : r.exitCode.isSome
  all_goals simp only [ended, if_true, Bool.false_eq_true, if_false] at finish
  · refine ⟨?_, ?_, ?_, ?_, ?_, still, counted, stopsAt, justified⟩
    · simp [AppRun.trace, finish, start, init, noInit]
    · simp [AppRun.trace, finish, start, init, noShutdown, ended]
    · simpa [start] using ⟨init, stops⟩
    · simp [finish]
    · intro entry member
      simp only [AppRun.trace, finish, start, List.nil_append, List.mem_append, List.mem_singleton] at member
      rcases member with inside | rfl
      · exact inCycles entry inside
      · simp [init, unlocked]
  · obtain ⟨last, finish, shutdown, opened⟩ := finish
    refine ⟨?_, ?_, ?_, ?_, ?_, still, counted, stopsAt, justified⟩
    · simp [AppRun.trace, finish, start, init, shutdown, noInit]
    · simp [AppRun.trace, finish, start, init, shutdown, noShutdown, ended]
    · simpa [start] using ⟨init, stops⟩
    · simp [finish, shutdown]
    · intro entry member
      simp only [AppRun.trace, finish, start, List.mem_append, List.mem_singleton] at member
      rcases member with (rfl | inside) | rfl
      · simp [shutdown, opened]
      · exact inCycles entry inside
      · simp [init, unlocked]

theorem loopStarts {w : World} (running : w.globals.app.state = .running) (locked : w.globals.setupLocked = true)
    (count : w.globals.app.iterationCount = 0) (errors : w.globals.app.errorCount = 0) : Ran config ops w [] := by
  refine ⟨⟨running, locked, fun reached => ?_⟩, fun _ => ⟨by rw [count]; rfl, Nat.zero_le _⟩, by simp, by simp,
    True.intro, by simp⟩
  have ⟨positive, below⟩ := reached
  rw [errors] at below
  exact absurd positive (UInt32.not_lt.mpr below)

def runningAfter (answers : Nat → Answer) (g : Globals) : Globals :=
  let initialized := (answers 0).acts.foldl perform (startRun g)
  { initialized with app := { initialized.app with state := .running }, setupLocked := true }

theorem loopRan (config : AppmanagerConfig) (ops : AppmanagerOperations) (answers : Nat → Answer) (g : Globals)
    (fuel : Nat) : Ran config ops
    (runCycles config answers ops fuel ⟨runningAfter answers g, 1, []⟩ []).1
    (runCycles config answers ops fuel ⟨runningAfter answers g, 1, []⟩ []).2.1 := by
  have kept := actsKeep (startRun g) (answers 0).acts
  exact cyclesRan fuel (loopStarts rfl rfl (congrArg AppmanagerState.iterationCount kept.app)
    (congrArg AppmanagerState.errorCount kept.app))

def failedAfter (answers : Nat → Answer) (g : Globals) : Globals :=
  let initialized := (answers 0).acts.foldl perform (startRun g)
  { initialized with
    app := { initialized.app with
      state := .error, lastError := (answers 0).status, errorCount := initialized.app.errorCount + 1 } }

def closingAfter (w : World) : Globals :=
  { w.globals with
    app := { w.globals.app with state := .shuttingDown }, checkpointSignatureActive := false, setupLocked := false }

theorem failedRun (given : config.ops = some ops) (accepted : refuses g (some config) = false)
    (failed : (answers 0).status ≠ .ok) (fuel : Nat) : appmanagerRun (some config) answers fuel g =
      ⟨(answers 1).acts.foldl perform (failedAfter answers g),
        [entryOf (startRun g) .init (answers 0) (failedAfter answers g).app.errorCount], [],
        [entryOf (failedAfter answers g) .shutdown (answers 1) (failedAfter answers g).app.errorCount],
        some .failure⟩ := by
  simp only [appmanagerRun, given, accepted, Bool.false_eq_true, if_false, failed, ne_eq, not_false_eq_true, if_true]
  rfl

def startEntry (answers : Nat → Answer) (g : Globals) : Entry :=
  entryOf (startRun g) .init (answers 0) (runningAfter answers g).app.errorCount

theorem loopedRun (given : config.ops = some ops) (accepted : refuses g (some config) = false)
    (ok : (answers 0).status = .ok) (fuel : Nat) : appmanagerRun (some config) answers fuel g =
      match runCycles config answers ops fuel ⟨runningAfter answers g, 1, []⟩ [] with
      | (w, cycles, false) => ⟨w.globals, [startEntry answers g], cycles, [], none⟩
      | (w, cycles, true) =>
          let closed := (answers w.calls).acts.foldl perform (closingAfter w)
          ⟨{ closed with app := { closed.app with state := .shutdown } }, [startEntry answers g], cycles,
            [entryOf (closingAfter w) .shutdown (answers w.calls) (closingAfter w).app.errorCount],
            some (if 0 < closed.app.errorCount ∧ 0 < config.errorThreshold then .failure else .success)⟩ := by
  simp only [appmanagerRun, given, accepted, Bool.false_eq_true, if_false, ok, ne_eq, not_true_eq_false]
  rfl

theorem runKeeps (given : config.ops = some ops) (accepted : refuses g (some config) = false) (fuel : Nat) :
    LifeCycle config ops (appmanagerRun (some config) answers fuel g) := by
  by_cases ok : (answers 0).status = .ok
  · have ran := loopRan config ops answers g fuel
    have went : (startEntry answers g).status ≠ .ok → ∀ cycles : List (List Entry), cycles = [] :=
      fun failed => absurd ok failed
    rw [loopedRun given accepted ok]
    rcases loops : runCycles config answers ops fuel ⟨runningAfter answers g, 1, []⟩ [] with ⟨w, cycles, ended⟩
    rw [loops] at ran
    cases ended
    · exact oneOfEach rfl rfl rfl (fun failed => went failed _) rfl
        (by simpa using ran.looping.locked) (fun bounded => (ran.counted bounded).2) ran.calls ran.stopsAt ran.justified
    · refine oneOfEach rfl rfl rfl (fun failed => went failed _) ⟨_, rfl, rfl, rfl⟩ ?_
        (fun bounded => (ran.counted bounded).2) ran.calls ran.stopsAt ran.justified
      simp only [reduceCtorEq, iff_false, Bool.not_eq_true]
      exact (actsKeep _ _).locked
  · -- shutdown is called after a failed init, with the setup still open
    have kept := actsKeep (startRun g) (answers 0).acts
    rw [failedRun given accepted ok]
    refine oneOfEach rfl rfl rfl (fun _ => rfl) ⟨_, rfl, rfl, kept.locked⟩ ?_ (fun _ => Nat.zero_le _) (by simp)
      True.intro (by simp)
    simp only [reduceCtorEq, iff_false, Bool.not_eq_true]
    exact (actsKeep _ _).locked.trans kept.locked

theorem runEnds (given : config.ops = some ops) (accepted : refuses g (some config) = false) {fuel : Nat}
    (bounded : config.maxIterations ≠ 0) (enough : config.maxIterations.toNat ≤ fuel) :
    (appmanagerRun (some config) answers fuel g).exitCode.isSome = true := by
  by_cases ok : (answers 0).status = .ok
  · have kept := actsKeep (startRun g) (answers 0).acts
    have ended : (runCycles config answers ops fuel ⟨runningAfter answers g, 1, []⟩ []).2.2 = true :=
      cyclesEnd fuel (loopStarts rfl rfl (congrArg AppmanagerState.iterationCount kept.app)
        (congrArg AppmanagerState.errorCount kept.app)) bounded (by simpa using enough)
    rw [loopedRun given accepted ok]
    rcases loops : runCycles config answers ops fuel ⟨runningAfter answers g, 1, []⟩ [] with ⟨w, cycles, returned⟩
    rw [loops] at ended
    subst ended
    rfl
  · rw [failedRun given accepted ok]
    rfl

theorem runSettled (given : config.ops = some ops) (accepted : refuses g (some config) = false) {fuel : Nat}
    (ended : (appmanagerRun (some config) answers fuel g).exitCode.isSome = true) (more : Nat) :
    appmanagerRun (some config) answers (fuel + more) g = appmanagerRun (some config) answers fuel g := by
  by_cases ok : (answers 0).status = .ok
  · have settled : (runCycles config answers ops fuel ⟨runningAfter answers g, 1, []⟩ []).2.2 = true →
        runCycles config answers ops (fuel + more) ⟨runningAfter answers g, 1, []⟩ [] =
          runCycles config answers ops fuel ⟨runningAfter answers g, 1, []⟩ [] := cyclesSettled more
    rw [loopedRun given accepted ok] at ended
    rw [loopedRun given accepted ok, loopedRun given accepted ok]
    rcases loops : runCycles config answers ops fuel ⟨runningAfter answers g, 1, []⟩ [] with ⟨w, cycles, returned⟩
    rw [loops] at settled ended
    cases returned
    · cases ended
    · rw [settled rfl]
  · rw [failedRun given accepted ok, failedRun given accepted ok]

end Runs

def marksIn (log : List Entry) : List Mark := log.reverse.flatMap Entry.marks

def Meets (r : AppRun) (checkpointId : UInt32) (marks : List Mark) : Prop :=
  ∃ cycle ∈ r.cycles, ∃ later entry earlier, cycle = later ++ entry :: earlier ∧
    entry.stage = .checkpoint checkpointId ∧ marksIn earlier = marks

structure SameText (a b : Mark) : Prop where
  file : a.file = b.file
  line : a.line = b.line
  label : a.label = b.label

structure SameMark (a b : Mark) : Prop where
  text : SameText a b
  checksum : SameTable a.checksum b.checksum

theorem foldDepends {a b : Mark} (same : SameMark a b) (signature : UInt64) :
    (foldMark signature b).2 = (foldMark signature a).2 := by
  unfold foldMark
  rw [same.text.file, same.text.line, same.text.label]
  split
  · rfl
  · rename_i text _
    dsimp only
    rw [crcDepends same.checksum text]
    exact crcDepends ((crcKeeps _ _).symm.trans (same.checksum.trans (crcKeeps _ _))) _

theorem signatureDepends {marks marks' : List Mark} (same : List.Forall₂ SameMark marks marks') (signature : UInt64) :
    signatureFrom signature marks' = signatureFrom signature marks := by
  induction same generalizing signature with
  | nil => rfl
  | cons head _ ih =>
    simp only [signatureFrom, List.foldl_cons, foldDepends head]
    exact ih _

theorem meetingId {config : AppmanagerConfig} {ops : AppmanagerOperations} {r : AppRun}
    (cycle : LifeCycle config ops r) {checkpointId : UInt32} {marks : List Mark} (meets : Meets r checkpointId marks) :
    checkpointId = checkpointFoldSignature (signatureFrom checkpointSignatureSeed marks) := by
  obtain ⟨log, member, later, entry, earlier, rfl, stage, rfl⟩ := meets
  exact (eachEntry (cycle.justified _ member)).checkpointId checkpointId stage

theorem runsLifeCycle {config : AppmanagerConfig} {ops : AppmanagerOperations} {g : Globals}
    (given : config.ops = some ops) (accepted : refuses g (some config) = false) (answers : Nat → Answer) (fuel : Nat) :
    LifeCycle config ops (appmanagerRun (some config) answers fuel g) ∧
      (config.maxIterations ≠ 0 → config.maxIterations.toNat ≤ fuel →
        (appmanagerRun (some config) answers fuel g).exitCode.isSome = true) ∧
      ((appmanagerRun (some config) answers fuel g).exitCode.isSome = true → ∀ more,
        appmanagerRun (some config) answers (fuel + more) g = appmanagerRun (some config) answers fuel g) ∧
      ∀ otherConfig otherOps other, otherConfig.ops = some otherOps → refuses other (some otherConfig) = false →
        ∀ otherAnswers otherFuel checkpointId otherId marks otherMarks,
          Meets (appmanagerRun (some config) answers fuel g) checkpointId marks →
          Meets (appmanagerRun (some otherConfig) otherAnswers otherFuel other) otherId otherMarks →
          List.Forall₂ SameMark marks otherMarks → checkpointId = otherId := by
  refine ⟨runKeeps given accepted fuel, fun bounded enough => runEnds given accepted bounded enough,
    fun ended more => runSettled given accepted ended more, ?_⟩
  intro otherConfig otherOps other otherGiven otherAccepted otherAnswers otherFuel checkpointId otherId marks otherMarks
    meets otherMeets same
  rw [meetingId (runKeeps given accepted fuel) meets,
    meetingId (runKeeps otherGiven otherAccepted otherFuel) otherMeets, signatureDepends same]

def unready : ChecksumManager := ⟨false, .ertms, none, noStats⟩

def ready : ChecksumManager := (checksumCrc64Init unready .ertms).1

def plainOps : AppmanagerOperations := ⟨true, false, true, false, false, true, true, true⟩

def twoCycles : AppmanagerConfig := ⟨some plainOps, 2, 0, true⟩

def beforeRun : Globals := ⟨⟨.uninitialized, 0, 0, .ok⟩, false, 0, false, false, true, unready⟩

def labelledTwice : Nat → Answer
  | 1 => ⟨[.mark none 0 (some [0x41])], .ok⟩
  | 2 => ⟨[], .notInitialized⟩
  | 3 => ⟨[.useChecksum ready, .mark none 0 (some [0x41])], .ok⟩
  | _ => ⟨[], .ok⟩

theorem twoCyclesRun :
    LifeCycle twoCycles plainOps (appmanagerRun (some twoCycles) labelledTwice 2 beforeRun) ∧
      (appmanagerRun (some twoCycles) labelledTwice 2 beforeRun).exitCode.isSome = true :=
  have accepted : refuses beforeRun (some twoCycles) = false := by decide
  have run := runsLifeCycle rfl accepted labelledTwice 2
  ⟨run.1, run.2.1 (by decide) (by decide)⟩

def markedUnready : Entry := ⟨.execute, .running, true, .ok, [⟨unready, none, 0, some [0x41]⟩], 0⟩

def markedReady : Entry := ⟨.execute, .running, true, .ok, [⟨ready, none, 0, some [0x41]⟩], 1⟩

theorem labelledCycles : (appmanagerRun (some twoCycles) labelledTwice 2 beforeRun).cycles =
    [[⟨.checkpoint 3518034764, .running, true, .ok, [], 1⟩, markedReady],
      [⟨.checkpoint 0, .running, true, .notInitialized, [], 1⟩, markedUnready]] := by decide +kernel

/- The id follows the checksum module too: before it is initialized every hash is 0. -/
theorem sameTextOtherId : ¬ ∀ config ops g, config.ops = some ops → refuses g (some config) = false →
    ∀ answers fuel checkpointId otherId marks otherMarks,
      Meets (appmanagerRun (some config) answers fuel g) checkpointId marks →
      Meets (appmanagerRun (some config) answers fuel g) otherId otherMarks →
      List.Forall₂ SameText marks otherMarks → checkpointId = otherId := by
  intro claimed
  have ids := claimed twoCycles plainOps beforeRun rfl (by decide) labelledTwice 2 0 3518034764
    markedUnready.marks markedReady.marks
  rw [Meets, Meets, labelledCycles] at ids
  have same := ids
    ⟨_, List.mem_cons_of_mem _ List.mem_cons_self, [], _, [markedUnready], rfl, rfl, rfl⟩
    ⟨_, List.mem_cons_self, [], _, [markedReady], rfl, rfl, rfl⟩
    (List.Forall₂.cons ⟨rfl, rfl, rfl⟩ List.Forall₂.nil)
  exact absurd same (by decide)

end PlatformRte.App
