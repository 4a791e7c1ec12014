import PlatformRte.App.Manager
import PlatformRte.Lib.History

/-! What holds of every run of the application manager, whatever its callbacks do. -/
namespace PlatformRte.App
open Checksum History

structure SameRun (g h : Globals) : Prop where
  app : h.app = g.app
  active : h.checkpointSignatureActive = g.checkpointSignatureActive
  locked : h.setupLocked = g.setupLocked
  requested : g.shutdownRequested = true → h.shutdownRequested = true

theorem SameRun.refl (g : Globals) : SameRun g g := ⟨rfl, rfl, rfl, id⟩

theorem SameRun.trans {g h k : Globals} (first : SameRun g h) (second : SameRun h k) : SameRun g k :=
  ⟨second.app.trans first.app, second.active.trans first.active, second.locked.trans first.locked,
    fun requested => second.requested (first.requested requested)⟩

theorem performKeeps (g : Globals) (act : Act) : SameRun g (perform g act) := by
  cases act with
  | mark file line label =>
    by_cases active : g.checkpointSignatureActive = true
    · simp only [perform, checkpointMark, active, if_true]
      exact ⟨rfl, active.symm, rfl, id⟩
    · simp only [perform, checkpointMark, active]
      exact SameRun.refl g
  | requestShutdown => exact ⟨rfl, rfl, rfl, fun _ => rfl⟩
  | setVoter given => exact ⟨rfl, rfl, rfl, id⟩
  | useChecksum left => exact ⟨rfl, rfl, rfl, id⟩

theorem actsKeep (g : Globals) (acts : List Act) : SameRun g (acts.foldl perform g) := by
  induction acts generalizing g with
  | nil => exact SameRun.refl g
  | cons act rest ih => exact (performKeeps g act).trans (ih _)

def signatureFrom (signature : UInt64) (marks : List Mark) : UInt64 :=
  marks.foldl (fun signature mark => (foldMark signature mark).2) signature

theorem actsFold {g : Globals} (active : g.checkpointSignatureActive = true) (acts : List Act) :
    (acts.foldl perform g).checkpointSignature = signatureFrom g.checkpointSignature (marksOf g acts) := by
  induction acts generalizing g with
  | nil => rfl
  | cons act rest ih =>
    have kept := (performKeeps g act).active.trans active
    rw [List.foldl_cons, ih kept]
    cases act with
    | mark file line label => simp only [marksOf, perform, checkpointMark, active, if_true, signatureFrom, List.foldl_cons]
    | requestShutdown => rfl
    | setVoter given => rfl
    | useChecksum left => rfl

def signatureOf (log : List Entry) : UInt64 := signatureFrom checkpointSignatureSeed (log.reverse.flatMap Entry.marks)

theorem signatureCons (entry : Entry) (log : List Entry) :
    signatureOf (entry :: log) = signatureFrom (signatureOf log) entry.marks := by
  simp [signatureOf, signatureFrom]

def Reached (config : AppmanagerConfig) (errorCount : UInt32) : Prop :=
  0 < config.errorThreshold ∧ config.errorThreshold ≤ errorCount

def Prepared (ops : AppmanagerOperations) (earlier : List Entry) : Prop :=
  ops.preExecute = true → ∃ p ∈ earlier, p.stage = .preExecute ∧ p.status = .ok

def Executed (earlier : List Entry) : Prop := ∃ x ∈ earlier, x.stage = .execute ∧ x.status = .ok

def Rendezvous (entry : Entry) : Prop := ∃ checkpointId, entry.stage = .checkpoint checkpointId

structure Justified (ops : AppmanagerOperations) (entry : Entry) (earlier : List Entry) : Prop where
  execute : entry.stage = .execute → Prepared ops earlier
  later : (entry.stage = .postExecute ∨ Rendezvous entry ∨ ∃ committed, entry.stage = .onCheckpointResult committed) →
    Prepared ops earlier ∧ Executed earlier
  committed : ∀ committed, entry.stage = .onCheckpointResult committed →
    (committed = false ↔ ∃ k ∈ earlier, Rendezvous k ∧ k.status ≠ .ok)
  checkpointId : ∀ checkpointId, entry.stage = .checkpoint checkpointId →
    checkpointId = checkpointFoldSignature (signatureOf earlier)

structure FromCycle (entry : Entry) : Prop where
  notInit : entry.stage ≠ .init
  notShutdown : entry.stage ≠ .shutdown
  locked : entry.locked = true
  running : entry.state = .running

structure Looping (config : AppmanagerConfig) (g : Globals) : Prop where
  running : g.app.state = .running
  locked : g.setupLocked = true
  spent : Reached config g.app.errorCount → g.shutdownRequested = true

structure InCycle (config : AppmanagerConfig) (ops : AppmanagerOperations) (iterationCount : UInt32) (w : World) : Prop where
  looping : Looping config w.globals
  count : w.globals.app.iterationCount = iterationCount
  active : w.globals.checkpointSignatureActive = true
  signature : w.globals.checkpointSignature = signatureOf w.log
  justified : Each (Justified ops) w.log
  calls : ∀ entry ∈ w.log, FromCycle entry
  reached : ∀ entry ∈ w.log, Reached config entry.errorCount → w.globals.shutdownRequested = true

section Stages
variable {config : AppmanagerConfig} {ops : AppmanagerOperations} (answers : Nat → Answer) {n : UInt32} {w : World}

theorem handleKeeps (g : Globals) (status : RteStatus) (errorThreshold : UInt32) :
    ((handleStageResult g status errorThreshold).2 = true ↔ status = .ok) ∧
      (handleStageResult g status errorThreshold).1.app.state = g.app.state ∧
      (handleStageResult g status errorThreshold).1.app.iterationCount = g.app.iterationCount ∧
      (handleStageResult g status errorThreshold).1.checkpointSignatureActive = g.checkpointSignatureActive ∧
      (handleStageResult g status errorThreshold).1.checkpointSignature = g.checkpointSignature ∧
      (handleStageResult g status errorThreshold).1.setupLocked = g.setupLocked ∧
      (g.shutdownRequested = true → (handleStageResult g status errorThreshold).1.shutdownRequested = true) := by
  unfold handleStageResult
  split
  · rename_i ok
    exact ⟨⟨fun _ => ok, fun _ => rfl⟩, rfl, rfl, rfl, rfl, rfl, id⟩
  · rename_i failed
    refine ⟨⟨fun same => Bool.noConfusion same, fun ok => absurd ok failed⟩, rfl, rfl, rfl, rfl, rfl, fun requested => ?_⟩
    simp [requested]

theorem handleSpent {g : Globals} (spent : Reached config g.app.errorCount → g.shutdownRequested = true)
    (status : RteStatus) :
    Reached config (handleStageResult g status config.errorThreshold).1.app.errorCount →
      (handleStageResult g status config.errorThreshold).1.shutdownRequested = true := by
  unfold handleStageResult
  split
  · exact spent
  · intro reached
    simp only [Bool.or_eq_true, decide_eq_true_eq]
    exact Or.inr reached

theorem stageKeeps (inCycle : InCycle config ops n w) (stage : Stage) (notInit : stage ≠ .init)
    (notShutdown : stage ≠ .shutdown)
    (justified : ∀ entry : Entry, entry.stage = stage → Justified ops entry w.log) :
    InCycle config ops n (runStage config answers w stage).1 ∧
      ∃ entry, entry.stage = stage ∧ (runStage config answers w stage).1.log = entry :: w.log ∧
        ((runStage config answers w stage).2 = true ↔ entry.status = .ok) := by
  have acted := actsKeep w.globals (answers w.calls).acts
  obtain ⟨ok, state, count, active, signature, locked, requested⟩ :=
    handleKeeps ((answers w.calls).acts.foldl perform w.globals) (answers w.calls).status config.errorThreshold
  have looping : Looping config (runStage config answers w stage).1.globals := by
    refine ⟨state.trans ((congrArg _ acted.app).trans inCycle.looping.running),
      locked.trans (acted.locked.trans inCycle.looping.locked), handleSpent (fun reached => ?_) _⟩
    rw [acted.app] at reached
    exact acted.requested (inCycle.looping.spent reached)
  refine ⟨⟨looping, count.trans ((congrArg _ acted.app).trans inCycle.count),
    active.trans (acted.active.trans inCycle.active), ?_, ⟨justified _ rfl, inCycle.justified⟩, ?_, ?_⟩, _, rfl, rfl, ok⟩
  · exact signature.trans (by rw [actsFold inCycle.active, inCycle.signature, runStage, signatureCons])
  · intro entry member
    rcases List.mem_cons.mp member with rfl | earlier
    · exact ⟨notInit, notShutdown, inCycle.looping.locked, inCycle.looping.running⟩
    · exact inCycle.calls entry earlier
  · intro entry member reached
    rcases List.mem_cons.mp member with rfl | earlier
    · exact looping.spent reached
    · exact requested (acted.requested (inCycle.reached entry earlier reached))

def NoRendezvous (log : List Entry) : Prop := ∀ entry ∈ log, ¬ Rendezvous entry

structure Fresh (ops : AppmanagerOperations) (log : List Entry) : Prop where
  prepared : Prepared ops log
  noRendezvous : NoRendezvous log

structure Worked (ops : AppmanagerOperations) (log : List Entry) : Prop where
  prepared : Prepared ops log
  executed : Executed log

theorem Prepared.cons {log : List Entry} (prepared : Prepared ops log) (entry : Entry) :
    Prepared ops (entry :: log) := fun given =>
  have ⟨p, member, rest⟩ := prepared given
  ⟨p, List.mem_cons_of_mem _ member, rest⟩

theorem Executed.cons {log : List Entry} (executed : Executed log) (entry : Entry) : Executed (entry :: log) :=
  have ⟨x, member, rest⟩ := executed
  ⟨x, List.mem_cons_of_mem _ member, rest⟩

theorem Worked.cons {log : List Entry} (worked : Worked ops log) (entry : Entry) : Worked ops (entry :: log) :=
  ⟨worked.prepared.cons entry, worked.executed.cons entry⟩

theorem NoRendezvous.cons {log : List Entry} (none : NoRendezvous log) {entry : Entry} {stage : Stage}
    (here : entry.stage = stage) (other : ∀ checkpointId, stage ≠ .checkpoint checkpointId) :
    NoRendezvous (entry :: log) := by
  intro k member
  rcases List.mem_cons.mp member with rfl | earlier
  · rintro ⟨checkpointId, same⟩
    exact other checkpointId (here.symm.trans same)
  · exact none k earlier

theorem startsCycle (looping : Looping config w.globals) :
    InCycle config ops (w.globals.app.iterationCount + 1) (startCycle w) := by
  refine ⟨⟨looping.running, looping.locked, looping.spent⟩, rfl, rfl, rfl, True.intro, ?_, ?_⟩
  · intro entry member
    cases member
  · intro entry member
    cases member

theorem preExecuteKeeps (inCycle : InCycle config ops n w) (first : w.log = []) :
    let prepared := if ops.preExecute then runStage config answers w .preExecute else (w, true)
    InCycle config ops n prepared.1 ∧ (prepared.2 = true → Fresh ops prepared.1.log) := by
  intro prepared
  by_cases given : ops.preExecute = true
  · simp only [prepared, given, if_true]
    obtain ⟨kept, entry, stage, log, ok⟩ := stageKeeps answers inCycle .preExecute
      (by simp) (by simp) fun entry stage => by constructor <;> simp [stage, Rendezvous]
    refine ⟨kept, fun went => ⟨fun _ => ⟨entry, log ▸ List.mem_cons_self, stage, ok.mp went⟩, ?_⟩⟩
    rw [log, first]
    exact NoRendezvous.cons (by simp [NoRendezvous]) stage (by simp)
  · simp only [prepared, given]
    exact ⟨inCycle, fun _ => ⟨fun given' => absurd given' given, by simp [NoRendezvous, first]⟩⟩

theorem executeKeeps (inCycle : InCycle config ops n w) (fresh : Fresh ops w.log) :
    InCycle config ops n (runStage config answers w .execute).1 ∧
      ((runStage config answers w .execute).2 = true →
        Worked ops (runStage config answers w .execute).1.log ∧
          NoRendezvous (runStage config answers w .execute).1.log) := by
  obtain ⟨kept, entry, stage, log, ok⟩ := stageKeeps answers inCycle .execute
    (by simp) (by simp) fun entry stage => by
      constructor <;> simp [stage, Rendezvous, fresh.prepared]
  refine ⟨kept, fun went => ?_⟩
  rw [log]
  exact ⟨⟨fresh.prepared.cons entry, entry, List.mem_cons_self, stage, ok.mp went⟩,
    fresh.noRendezvous.cons stage (by simp)⟩

theorem postExecuteKeeps (inCycle : InCycle config ops n w) (worked : Worked ops w.log)
    (none : NoRendezvous w.log) :
    let posted := if ops.postExecute then (runStage config answers w .postExecute).1 else w
    InCycle config ops n posted ∧ Worked ops posted.log ∧ NoRendezvous posted.log := by
  intro posted
  by_cases given : ops.postExecute = true
  · simp only [posted, given, if_true]
    obtain ⟨kept, entry, stage, log, _⟩ := stageKeeps answers inCycle .postExecute
      (by simp) (by simp) fun entry stage => by
        constructor <;> simp [stage, Rendezvous, worked.prepared, worked.executed]
    rw [log]
    exact ⟨kept, worked.cons entry, none.cons stage (by simp)⟩
  · simp only [posted, given]
    exact ⟨inCycle, worked, none⟩

def Told (committed : Bool) (log : List Entry) : Prop :=
  committed = false ↔ ∃ k ∈ log, Rendezvous k ∧ k.status ≠ .ok

theorem checkpointKeeps (inCycle : InCycle config ops n w) (worked : Worked ops w.log)
    (none : NoRendezvous w.log) :
    InCycle config ops n (checkpointStage config answers w).1 ∧ Worked ops (checkpointStage config answers w).1.log ∧
      Told (checkpointStage config answers w).2 (checkpointStage config answers w).1.log := by
  unfold checkpointStage
  split
  · obtain ⟨kept, entry, stage, log, ok⟩ := stageKeeps answers inCycle
      (.checkpoint (checkpointFoldSignature w.globals.checkpointSignature))
      (by simp) (by simp) fun entry stage => by
        constructor <;> simp [stage, worked.prepared, worked.executed, inCycle.signature]
    rw [log]
    refine ⟨kept, worked.cons entry, ?_⟩
    rw [Told, ← Bool.not_eq_true, ok]
    constructor
    · intro failed
      exact ⟨entry, List.mem_cons_self, ⟨_, stage⟩, failed⟩
    · rintro ⟨k, member, rendezvous, failed⟩
      rcases List.mem_cons.mp member with rfl | earlier
      · exact failed
      · exact absurd rendezvous (none k earlier)
  · refine ⟨inCycle, worked, ⟨fun same => Bool.noConfusion same, ?_⟩⟩
    rintro ⟨k, member, rendezvous, _⟩
    exact absurd rendezvous (none k member)

theorem resultKeeps (inCycle : InCycle config ops n w) (worked : Worked ops w.log) {committed : Bool}
    (told : Told committed w.log) :
    InCycle config ops n (runStage config answers w (.onCheckpointResult committed)).1 := by
  refine (stageKeeps answers inCycle _ (by simp) (by simp) fun entry stage => ?_).1
  constructor
  · simp [stage]
  · simp [worked.prepared, worked.executed]
  · intro committed' same
    rw [stage] at same
    injection same with same
    exact same ▸ told
  · simp [stage]

theorem cycleKeeps (looping : Looping config w.globals) :
    InCycle config ops (w.globals.app.iterationCount + 1) (runCycle config answers ops w) := by
  unfold runCycle
  extract_lets w₁ prepared executed posted checked
  obtain ⟨inPre, freshAfter⟩ := preExecuteKeeps answers (startsCycle looping) rfl
  change InCycle _ _ _ prepared.1 at inPre
  change prepared.2 = true → _ at freshAfter
  cases went : prepared.2
  · simpa [went] using inPre
  obtain ⟨inExecute, workedAfter⟩ := executeKeeps answers inPre (freshAfter went)
  change InCycle _ _ _ executed.1 at inExecute
  change executed.2 = true → _ at workedAfter
  cases done : executed.2
  · simpa [went, done] using inExecute
  obtain ⟨worked, none⟩ := workedAfter done
  obtain ⟨inPost, worked, none⟩ := postExecuteKeeps answers inExecute worked none
  obtain ⟨inCheckpoint, worked, told⟩ := checkpointKeeps answers inPost worked none
  cases given : ops.onCheckpointResult
  · simpa [went, done, given] using inCheckpoint
  · simpa [went, done, given] using resultKeeps answers inCheckpoint worked told

end Stages

def StopsAt (config : AppmanagerConfig) (cycles : List (List Entry)) : Prop :=
  Each (fun _ earlier => ∀ cycle ∈ earlier, ∀ entry ∈ cycle, ¬ Reached config entry.errorCount) cycles

structure Ran (config : AppmanagerConfig) (ops : AppmanagerOperations) (w : World) (cycles : List (List Entry)) : Prop where
  looping : Looping config w.globals
  counted : config.maxIterations ≠ 0 →
    w.globals.app.iterationCount.toNat = cycles.length ∧ cycles.length ≤ config.maxIterations.toNat
  justified : ∀ cycle ∈ cycles, Each (Justified ops) cycle
  calls : ∀ cycle ∈ cycles, ∀ entry ∈ cycle, FromCycle entry
  stopsAt : StopsAt config cycles
  reached : ∀ cycle ∈ cycles, ∀ entry ∈ cycle, Reached config entry.errorCount → w.globals.shutdownRequested = true

section Cycles
variable {config : AppmanagerConfig} {ops : AppmanagerOperations} {answers : Nat → Answer} {w : World}
  {cycles : List (List Entry)}

theorem goesOnIff (g : Globals) : goesOn config g = true ↔
    g.shutdownRequested = false ∧ (config.maxIterations = 0 ∨ g.app.iterationCount < config.maxIterations) := by
  simp [goesOn]

theorem oneMore {count : UInt32} (below : count < config.maxIterations) : (count + 1).toNat = count.toNat + 1 := by
  have bound := config.maxIterations.toNat_lt
  have less := UInt32.lt_iff_toNat_lt.mp below
  rw [UInt32.toNat_add]
  exact Nat.mod_eq_of_lt (by change count.toNat + 1 < _; omega)

theorem cycleRan (ran : Ran config ops w cycles) (goes : goesOn config w.globals = true) :
    Ran config ops (runCycle config answers ops w) ((runCycle config answers ops w).log :: cycles) := by
  obtain ⟨notRequested, room⟩ := (goesOnIff _).mp goes
  have cycle : InCycle config ops _ (runCycle config answers ops w) := cycleKeeps answers ran.looping
  -- a cycle that had reached the threshold would have left a request behind
  have notReached : ∀ cycle ∈ cycles, ∀ entry ∈ cycle, ¬ Reached config entry.errorCount := by
    intro cycle member entry inside reached
    have requested := ran.reached cycle member entry inside reached
    rw [notRequested] at requested
    cases requested
  refine ⟨cycle.looping, fun bounded => ?_, ?_, ?_, ⟨notReached, ran.stopsAt⟩, ?_⟩
  · have below := room.resolve_left bounded
    obtain ⟨count, _⟩ := ran.counted bounded
    have less := UInt32.lt_iff_toNat_lt.mp below
    rw [cycle.count, oneMore below, List.length_cons]
    omega
  · intro log member
    rcases List.mem_cons.mp member with rfl | earlier
    · exact cycle.justified
    · exact ran.justified log earlier
  · intro log member
    rcases List.mem_cons.mp member with rfl | earlier
    · exact cycle.calls
    · exact ran.calls log earlier
  · intro log member entry inside reached
    rcases List.mem_cons.mp member with rfl | earlier
    · exact cycle.reached entry inside reached
    · exact absurd reached (notReached log earlier entry inside)

theorem cyclesRan (fuel : Nat) (ran : Ran config ops w cycles) :
    Ran config ops (runCycles config answers ops fuel w cycles).1 (runCycles config answers ops fuel w cycles).2.1 := by
  induction fuel generalizing w cycles with
  | zero => exact ran
  | succ fuel ih =>
    unfold runCycles
    split
    · rename_i goes
      exact ih (cycleRan ran goes)
    · exact ran

theorem cyclesEnd (fuel : Nat) (ran : Ran config ops w cycles) (bounded : config.maxIterations ≠ 0)
    (enough : config.maxIterations.toNat ≤ cycles.length + fuel) :
    (runCycles config answers ops fuel w cycles).2.2 = true := by
  induction fuel generalizing w cycles with
  | zero =>
    simp only [runCycles, Bool.not_eq_true']
    rw [← Bool.not_eq_true, goesOnIff]
    rintro ⟨_, room⟩
    have below := UInt32.lt_iff_toNat_lt.mp (room.resolve_left bounded)
    obtain ⟨count, _⟩ := ran.counted bounded
    omega
  | succ fuel ih =>
    unfold runCycles
    split
    · rename_i goes
      refine ih (cycleRan ran goes) ?_
      rw [List.length_cons]
      omega
    · rfl

theorem cyclesStop (fuel : Nat) : (runCycles config answers ops fuel w cycles).2.2 =
    !goesOn config (runCycles config answers ops fuel w cycles).1.globals := by
  induction fuel generalizing w cycles with
  | zero => rfl
  | succ fuel ih =>
    unfold runCycles
    split
    · exact ih
    · rename_i stops
      simp [stops]

theorem cyclesSettled {fuel : Nat} (more : Nat)
    (ended : (runCycles config answers ops fuel w cycles).2.2 = true) :
    runCycles config answers ops (fuel + more) w cycles = runCycles config answers ops fuel w cycles := by
  induction fuel generalizing w cycles with
  | zero =>
    simp only [runCycles, Bool.not_eq_true'] at ended
    cases more with
    | zero => rfl
    | succ more => simp [runCycles, ended]
  | succ fuel ih =>
    rw [Nat.succ_add_eq_add_succ, Nat.add_succ]
    unfold runCycles at ended ⊢
    split at ended
    · rename_i goes
      simp only [goes, if_true]
      exact ih ended
    · rename_i stops
      simp [stops]

end Cycles
end PlatformRte.App
