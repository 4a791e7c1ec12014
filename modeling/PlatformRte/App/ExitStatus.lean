import PlatformRte.App.LifeCycle

/-! The exit code of a run against the errors it counted. It is taken from the error count
alone, so a run that ends below the threshold with an error fails too. -/
namespace PlatformRte.App
open History

def failures (log : List Entry) : Nat := log.countP fun entry => entry.status ≠ .ok

def Counts (entry : Entry) (earlier : List Entry) : Prop :=
  entry.errorCount = UInt32.ofNat (failures (entry :: earlier))

structure Tallied (g : Globals) (log : List Entry) : Prop where
  total : g.app.errorCount = UInt32.ofNat (failures log)
  each : Each Counts log

theorem failuresCons (entry : Entry) (log : List Entry) :
    failures (entry :: log) = failures log + if entry.status = .ok then 0 else 1 := by
  unfold failures
  rw [List.countP_cons]
  by_cases ok : entry.status = .ok <;> simp [ok]

theorem failuresAppend (later earlier : List Entry) : failures (later ++ earlier) = failures later + failures earlier :=
  List.countP_append

section Stages
variable {config : AppmanagerConfig} {answers : Nat → Answer} {ops : AppmanagerOperations} {w : World}
  {past : List Entry}

theorem handleCounts (g : Globals) (status : RteStatus) (errorThreshold : UInt32) :
    (handleStageResult g status errorThreshold).1.app.errorCount =
      g.app.errorCount + if status = .ok then 0 else 1 := by
  unfold handleStageResult
  split <;> simp_all

theorem stageTallied (tallied : Tallied w.globals (w.log ++ past)) (stage : Stage) :
    Tallied (runStage config answers w stage).1.globals ((runStage config answers w stage).1.log ++ past) := by
  have acted := (actsKeep w.globals (answers w.calls).acts).app
  have total : (runStage config answers w stage).1.globals.app.errorCount =
      UInt32.ofNat (failures ((runStage config answers w stage).1.log ++ past)) := by
    simp only [runStage, handleCounts, List.cons_append, failuresCons, acted, tallied.total]
    split <;> simp
  exact ⟨total, total, tallied.each⟩

theorem cyclePariant {P : World → Prop} (start : P (startCycle w))
    (stage : ∀ w stage, P w → P (runStage config answers w stage).1) : P (runCycle config answers ops w) := by
  unfold runCycle
  extract_lets started prepared executed posted checked
  have afterPrepare : P prepared.1 := by
    cases given : ops.preExecute
    · simp only [prepared, given, Bool.false_eq_true, if_false]
      exact start
    · simp only [prepared, given, if_true]
      exact stage _ _ start
  have afterExecute : P executed.1 := stage _ _ afterPrepare
  have afterPost : P posted := by
    cases given : ops.postExecute
    · simp only [posted, given, Bool.false_eq_true, if_false]
      exact afterExecute
    · simp only [posted, given, if_true]
      exact stage _ _ afterExecute
  have afterChecked : P checked.1 := by
    simp only [checked, checkpointStage]
    split
    · exact stage _ _ afterPost
    · exact afterPost
  split
  · exact afterPrepare
  split
  · exact afterExecute
  split
  · exact stage _ _ afterChecked
  · exact afterChecked

theorem cycleTallied (tallied : Tallied w.globals past) :
    Tallied (runCycle config answers ops w).globals ((runCycle config answers ops w).log ++ past) :=
  cyclePariant (P := fun w => Tallied w.globals (w.log ++ past)) ⟨tallied.total, tallied.each⟩
    fun _ stage tallied => stageTallied tallied stage

theorem cyclesTallied (fuel : Nat) {cycles : List (List Entry)} (tallied : Tallied w.globals cycles.flatten) :
    Tallied (runCycles config answers ops fuel w cycles).1.globals
      (runCycles config answers ops fuel w cycles).2.1.flatten := by
  induction fuel generalizing w cycles with
  | zero => exact tallied
  | succ fuel ih =>
    unfold runCycles
    split
    · exact ih (cycleTallied tallied)
    · exact tallied

theorem stageLength (stage : Stage) :
    (runStage config answers w stage).1.log.length = w.log.length + 1 := rfl

theorem cycleLength : (runCycle config answers ops w).log.length ≤ 5 := by
  unfold runCycle
  extract_lets started prepared executed posted checked
  have none : started.log.length = 0 := rfl
  have one : prepared.1.log.length ≤ 1 := by
    simp only [prepared]
    split
    · rw [stageLength, none]
    · exact none ▸ Nat.zero_le 1
  have two : executed.1.log.length ≤ 2 := by
    simp only [executed, stageLength]
    omega
  have three : posted.log.length ≤ 3 := by
    simp only [posted]
    split
    · rw [stageLength]
      omega
    · omega
  have four : checked.1.log.length ≤ 4 := by
    simp only [checked, checkpointStage]
    split
    · rw [stageLength]
      omega
    · exact three.trans (by omega)
  split
  · omega
  split
  · omega
  split
  · rw [stageLength]
    omega
  · omega

theorem cyclesLength (fuel : Nat) {cycles : List (List Entry)} (short : ∀ cycle ∈ cycles, cycle.length ≤ 5) :
    ∀ cycle ∈ (runCycles config answers ops fuel w cycles).2.1, cycle.length ≤ 5 := by
  induction fuel generalizing w cycles with
  | zero => exact short
  | succ fuel ih =>
    unfold runCycles
    split
    · exact ih (List.forall_mem_cons.mpr ⟨cycleLength, short⟩)
    · exact short

end Stages

section Thresholds
variable {config : AppmanagerConfig} {log : List Entry}

theorem reachedIff (positive : 0 < config.errorThreshold) (each : Each Counts log) :
    (∃ entry ∈ log, Reached config entry.errorCount) ↔ config.errorThreshold.toNat ≤ failures log := by
  have nonzero : 0 < config.errorThreshold.toNat := UInt32.lt_iff_toNat_lt.mp positive
  induction log with
  | nil => simp [failures, Nat.ne_of_gt nonzero]
  | cons entry earlier ih =>
    have ih := ih each.2
    have counts : entry.errorCount = UInt32.ofNat (failures (entry :: earlier)) := each.1
    have grows : failures (entry :: earlier) ≤ failures earlier + 1 := by
      rw [failuresCons]
      split <;> omega
    have most : failures earlier ≤ failures (entry :: earlier) := by
      rw [failuresCons]
      omega
    constructor
    · rintro ⟨x, member, reached⟩
      rcases List.mem_cons.mp member with rfl | inside
      · have below := UInt32.le_iff_toNat_le.mp reached.2
        rw [counts, UInt32.toNat_ofNat'] at below
        exact below.trans (Nat.mod_le _ _)
      · exact (ih.mp ⟨x, inside, reached⟩).trans most
    · intro enough
      by_cases before : config.errorThreshold.toNat ≤ failures earlier
      · obtain ⟨x, inside, reached⟩ := ih.mpr before
        exact ⟨x, List.mem_cons_of_mem _ inside, reached⟩
      · -- this call made the count exactly the threshold
        have exact' : failures (entry :: earlier) = config.errorThreshold.toNat := by omega
        refine ⟨entry, List.mem_cons_self, positive, ?_⟩
        rw [counts, exact', UInt32.ofNat_toNat]
        exact UInt32.le_refl _

theorem failuresBounded {cycles : List (List Entry)} (positive : 0 < config.errorThreshold)
    (each : Each Counts cycles.flatten) (stopsAt : StopsAt config cycles) (short : ∀ cycle ∈ cycles, cycle.length ≤ 5) :
    failures cycles.flatten < config.errorThreshold.toNat + 5 := by
  cases cycles with
  | nil => simp [failures]
  | cons last earlier =>
    have before : failures earlier.flatten < config.errorThreshold.toNat := by
      by_contra enough
      obtain ⟨entry, member, reached⟩ := (reachedIff positive (eachEarlier each)).mpr (Nat.le_of_not_lt enough)
      obtain ⟨cycle, inside, here⟩ := List.mem_flatten.mp member
      exact stopsAt.1 cycle inside entry here reached
    have here : failures last ≤ 5 := List.countP_le_length.trans (short last List.mem_cons_self)
    rw [List.flatten_cons, failuresAppend]
    omega

end Thresholds

def InitFailed (r : AppRun) : Prop := ∃ entry ∈ r.start, entry.status ≠ .ok

def failedStages (r : AppRun) : Nat := failures r.cycles.flatten

def ThresholdReached (config : AppmanagerConfig) (r : AppRun) : Prop :=
  ∃ cycle ∈ r.cycles, ∃ entry ∈ cycle, Reached config entry.errorCount

section Runs
variable {config : AppmanagerConfig} {ops : AppmanagerOperations} {answers : Nat → Answer} {g : Globals} {fuel : Nat}

theorem thresholdReachedIff {cycles : List (List Entry)} (positive : 0 < config.errorThreshold)
    (each : Each Counts cycles.flatten) :
    (∃ cycle ∈ cycles, ∃ entry ∈ cycle, Reached config entry.errorCount) ↔
      config.errorThreshold.toNat ≤ failures cycles.flatten := by
  rw [← reachedIff positive each]
  constructor
  · rintro ⟨cycle, inside, entry, here, reached⟩
    exact ⟨entry, List.mem_flatten.mpr ⟨cycle, inside, here⟩, reached⟩
  · rintro ⟨entry, member, reached⟩
    obtain ⟨cycle, inside, here⟩ := List.mem_flatten.mp member
    exact ⟨cycle, inside, entry, here, reached⟩

structure LoopCounts (config : AppmanagerConfig) (w : World) (cycles : List (List Entry)) : Prop where
  total : w.globals.app.errorCount = UInt32.ofNat (failures cycles.flatten)
  reached : (∃ cycle ∈ cycles, ∃ entry ∈ cycle, Reached config entry.errorCount) ↔
    config.errorThreshold.toNat ≤ failures cycles.flatten
  bounded : failures cycles.flatten < config.errorThreshold.toNat + 5
  stops : config.errorThreshold.toNat ≤ failures cycles.flatten → goesOn config w.globals = false

theorem loopCounts (positive : 0 < config.errorThreshold) (ops : AppmanagerOperations) (answers : Nat → Answer)
    (g : Globals) (fuel : Nat) :
    LoopCounts config (runCycles config answers ops fuel ⟨runningAfter answers g, 1, []⟩ []).1
      (runCycles config answers ops fuel ⟨runningAfter answers g, 1, []⟩ []).2.1 := by
  have ran := loopRan config ops answers g fuel
  have errors : (runningAfter answers g).app.errorCount = 0 :=
    congrArg AppmanagerState.errorCount (actsKeep (startRun g) (answers 0).acts).app
  let started : World := ⟨runningAfter answers g, 1, []⟩
  obtain ⟨total, each⟩ : Tallied (runCycles config answers ops fuel started []).1.globals
    (runCycles config answers ops fuel started []).2.1.flatten := cyclesTallied fuel ⟨errors, True.intro⟩
  have short : ∀ cycle ∈ (runCycles config answers ops fuel started []).2.1, cycle.length ≤ 5 :=
    cyclesLength fuel (by simp)
  have reached := thresholdReachedIff positive each
  refine ⟨total, reached, failuresBounded positive each ran.stopsAt short, fun enough => ?_⟩
  obtain ⟨cycle, inside, entry, here, count⟩ := reached.mpr enough
  have requested := ran.reached cycle inside entry here count
  simp [goesOn, requested]

theorem exitFailsIff (positive : 0 < config.errorThreshold) (errorCount : UInt32) :
    some (if 0 < errorCount ∧ 0 < config.errorThreshold then ExitCode.failure else .success) = some .failure ↔
      errorCount ≠ 0 := by
  simp [positive, UInt32.pos_iff_ne_zero]

theorem failedInitExit (given : config.ops = some ops) (accepted : refuses g (some config) = false)
    (failed : (answers 0).status ≠ .ok) :
    InitFailed (appmanagerRun (some config) answers fuel g) ∧
      (appmanagerRun (some config) answers fuel g).exitCode = some .failure := by
  rw [failedRun given accepted failed]
  exact ⟨⟨_, List.mem_cons_self, failed⟩, rfl⟩

structure LoopExit (config : AppmanagerConfig) (r : AppRun) : Prop where
  initialized : ¬ InitFailed r
  reached : ThresholdReached config r ↔ config.errorThreshold.toNat ≤ failedStages r
  bounded : failedStages r < config.errorThreshold.toNat + 5
  ends : config.errorThreshold.toNat ≤ failedStages r → r.exitCode.isSome = true
  exitCode : r.exitCode.isSome = true → (r.exitCode = some .failure ↔ UInt32.ofNat (failedStages r) ≠ 0)

theorem loopExit (given : config.ops = some ops) (accepted : refuses g (some config) = false)
    (positive : 0 < config.errorThreshold) (ok : (answers 0).status = .ok) :
    LoopExit config (appmanagerRun (some config) answers fuel g) := by
  have counts := loopCounts positive ops answers g fuel
  have stops : (runCycles config answers ops fuel ⟨runningAfter answers g, 1, []⟩ []).2.2 =
      !goesOn config (runCycles config answers ops fuel ⟨runningAfter answers g, 1, []⟩ []).1.globals := cyclesStop fuel
  have initialized : ¬ ∃ entry ∈ [startEntry answers g], entry.status ≠ .ok := by
    simpa using (show (startEntry answers g).status = .ok from ok)
  rw [loopedRun given accepted ok]
  rcases loops : runCycles config answers ops fuel ⟨runningAfter answers g, 1, []⟩ [] with ⟨w, cycles, returned⟩
  rw [loops] at counts stops
  cases returned
  · refine ⟨initialized, counts.reached, counts.bounded, fun enough => ?_, fun ended => Bool.noConfusion ended⟩
    have ended := counts.stops enough
    simp [ended] at stops
  · -- the error count is that of the loop, whatever shutdown does
    have errors : ((answers w.calls).acts.foldl perform (closingAfter w)).app.errorCount =
        UInt32.ofNat (failures cycles.flatten) :=
      (congrArg AppmanagerState.errorCount (actsKeep (closingAfter w) _).app).trans counts.total
    refine ⟨initialized, counts.reached, counts.bounded, fun _ => rfl, fun _ => ?_⟩
    exact (exitFailsIff positive _).trans (iff_of_eq (congrArg (· ≠ 0) errors))

theorem countZeroIff {count : Nat} (bounded : count < config.errorThreshold.toNat + 5) :
    UInt32.ofNat count = 0 ↔ count = 0 ∨ count = 2 ^ 32 := by
  have top := config.errorThreshold.toNat_lt
  rw [← UInt32.toNat_inj, UInt32.toNat_ofNat', UInt32.toNat_zero]
  constructor
  · intro wrapped
    omega
  · rintro (rfl | rfl) <;> rfl

end Runs

/- With a threshold the exit code reports a failed init or a reached threshold, and nothing
else, exactly when init failed, no stage failed, or as many failed as the threshold asks for;
and a counter that has come round to 0 reports nothing. -/
theorem exitCodeReflectsIff {config : AppmanagerConfig} {ops : AppmanagerOperations} {g : Globals}
    (given : config.ops = some ops) (accepted : refuses g (some config) = false) (positive : 0 < config.errorThreshold)
    (answers : Nat → Answer) (fuel : Nat) :
    let r := appmanagerRun (some config) answers fuel g
    (config.maxIterations ≠ 0 → config.maxIterations.toNat ≤ fuel → r.exitCode.isSome = true) ∧
      (InitFailed r ∨ ThresholdReached config r → r.exitCode.isSome = true) ∧
      (r.exitCode.isSome = true →
        ((r.exitCode = some .failure ↔ InitFailed r ∨ ThresholdReached config r) ↔
          InitFailed r ∨ failedStages r = 0 ∨
            config.errorThreshold.toNat ≤ failedStages r ∧ failedStages r ≠ 2 ^ 32)) := by
  intro r
  refine ⟨fun bounded enough => runEnds given accepted bounded enough, ?_⟩
  by_cases ok : (answers 0).status = .ok
  · obtain ⟨initialized, reached, bounded, ends, exitCode⟩ : LoopExit config r := loopExit given accepted positive ok
    have nonzero : 0 < config.errorThreshold.toNat := UInt32.lt_iff_toNat_lt.mp positive
    have top := config.errorThreshold.toNat_lt
    refine ⟨fun early => ends (reached.mp (early.resolve_left initialized)), fun ended => ?_⟩
    have zero := countZeroIff bounded
    rw [exitCode ended, reached, ne_eq, zero]
    simp only [initialized, false_or]
    omega
  · obtain ⟨failed, exitCode⟩ : InitFailed r ∧ r.exitCode = some .failure := failedInitExit given accepted ok
    refine ⟨fun _ => by rw [exitCode]; rfl, fun _ => ?_⟩
    exact ⟨fun _ => Or.inl failed, fun _ => ⟨fun _ => Or.inl failed, fun _ => exitCode⟩⟩

def threeAllowed : AppmanagerConfig := ⟨some plainOps, 2, 3, false⟩

def failsOnce : Nat → Answer
  | 1 => ⟨[], .hardwareFault⟩
  | _ => ⟨[], .ok⟩

theorem noErrorExit : (appmanagerRun (some threeAllowed) (fun _ => ⟨[], .ok⟩) 2 beforeRun).exitCode = some .success ∧
    ((appmanagerRun (some threeAllowed) (fun _ => ⟨[], .ok⟩) 2 beforeRun).exitCode = some .failure ↔
      InitFailed (appmanagerRun (some threeAllowed) (fun _ => ⟨[], .ok⟩) 2 beforeRun) ∨
        ThresholdReached threeAllowed (appmanagerRun (some threeAllowed) (fun _ => ⟨[], .ok⟩) 2 beforeRun)) :=
  have reflects := exitCodeReflectsIff (rfl : threeAllowed.ops = some plainOps) (by decide) (by decide)
    (fun _ => ⟨[], .ok⟩) 2
  ⟨by decide, (reflects.2.2 (by decide)).mpr (Or.inr (Or.inl (by decide)))⟩

/- max_iterations ends the run after one of the three errors. -/
theorem oneErrorFails : ¬ ∀ config ops g, config.ops = some ops → refuses g (some config) = false →
    0 < config.errorThreshold → ∀ answers fuel, (appmanagerRun (some config) answers fuel g).exitCode.isSome = true →
      ((appmanagerRun (some config) answers fuel g).exitCode = some .failure ↔
        InitFailed (appmanagerRun (some config) answers fuel g) ∨
          ThresholdReached config (appmanagerRun (some config) answers fuel g)) := by
  intro claimed
  have reflects := claimed threeAllowed plainOps beforeRun rfl (by decide) (by decide) failsOnce 2 (by decide)
  have fails : InitFailed (appmanagerRun (some threeAllowed) failsOnce 2 beforeRun) ∨
    ThresholdReached threeAllowed (appmanagerRun (some threeAllowed) failsOnce 2 beforeRun) := reflects.mp (by decide)
  exact absurd fails (by unfold InitFailed ThresholdReached Reached; decide)

end PlatformRte.App
