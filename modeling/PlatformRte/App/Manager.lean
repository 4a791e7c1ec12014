import PlatformRte.Checksum.VitalMessage

/-! The application manager: initialize, run the cycles, shut down. What a callback does
and returns comes from outside, one answer for each call in the order of the calls. -/
namespace PlatformRte.App
open Bytes Checksum

inductive AppState where
  | uninitialized | initializing | running | shuttingDown | shutdown | error
  deriving DecidableEq, Repr

structure AppmanagerState where
  state : AppState
  iterationCount : UInt32
  errorCount : UInt32
  lastError : RteStatus
  deriving DecidableEq, Repr

/- Which operations are not NULL. -/
structure AppmanagerOperations where
  init : Bool
  preExecute : Bool
  execute : Bool
  postExecute : Bool
  onCheckpointResult : Bool
  shutdown : Bool
  getName : Bool
  getVersion : Bool
  deriving DecidableEq, Repr

/- ops: none for NULL. checkpoint: whether a checkpoint configuration is attached. -/
structure AppmanagerConfig where
  ops : Option AppmanagerOperations
  maxIterations : UInt32
  errorThreshold : UInt32
  checkpoint : Bool
  deriving DecidableEq, Repr

/- voter: whether the attached checkpoint configuration names a voter just now. -/
structure Globals where
  app : AppmanagerState
  shutdownRequested : Bool
  checkpointSignature : UInt64
  checkpointSignatureActive : Bool
  setupLocked : Bool
  voter : Bool
  checksum : ChecksumManager
  deriving DecidableEq, Repr

def handleStageResult (g : Globals) (status : RteStatus) (errorThreshold : UInt32) : Globals × Bool :=
  if status = .ok then (g, true)
  else
    let errorCount := g.app.errorCount + 1
    ({ g with
        app := { g.app with errorCount := errorCount, lastError := status }
        shutdownRequested := g.shutdownRequested || decide (0 < errorThreshold ∧ errorThreshold ≤ errorCount) }, false)

def checkpointSignatureSeed : UInt64 := 0xFFFFFFFFFFFFFFFF

def checkpointSignatureReset (g : Globals) : Globals :=
  { g with checkpointSignature := checkpointSignatureSeed, checkpointSignatureActive := true }

def checkpointFoldSignature (signature : UInt64) : UInt32 :=
  (signature &&& 0xFFFFFFFF).toUInt32 ^^^ ((signature >>> 32) &&& 0xFFFFFFFF).toUInt32

def markTextSize : Nat := 128

def decimal (line : Int32) : Bytes :=
  let digits := (Nat.toDigits 10 line.toInt.natAbs).map fun digit => UInt8.ofNat digit.toNat
  if line < 0 then 0x2D :: digits else digits

/- What is hashed for a mark, cut to the buffer; none when there is nothing to hash. -/
def markText (file : Option Bytes) (line : Int32) (label : Option Bytes) : Option Bytes :=
  match label, file with
  | some label, _ => some ((cString label).take (markTextSize - 1))
  | none, some file => some ((cString file ++ 0x3A :: decimal line).take (markTextSize - 1))
  | none, none => none

structure Mark where
  checksum : ChecksumManager
  file : Option Bytes
  line : Int32
  label : Option Bytes
  deriving DecidableEq, Repr

def foldMark (signature : UInt64) (mark : Mark) : ChecksumManager × UInt64 :=
  match markText mark.file mark.line mark.label with
  | none => (mark.checksum, signature)
  | some text =>
      let markHash := checksumCrc64 mark.checksum text
      checksumCrc64 markHash.1 (leBytes 8 signature.toNat ++ leBytes 8 markHash.2.toNat)

def checkpointMark (g : Globals) (mark : Mark) : Globals :=
  if g.checkpointSignatureActive then
    let folded := foldMark g.checkpointSignature mark
    { g with checksum := folded.1, checkpointSignature := folded.2 }
  else g

inductive Act where
  | mark (file : Option Bytes) (line : Int32) (label : Option Bytes)
  -- also what a signal handler does, at any time until the next look at the request
  | requestShutdown
  | setVoter (given : Bool)
  -- what all its other work leaves of the checksum module
  | useChecksum (left : ChecksumManager)
  deriving DecidableEq, Repr

structure Answer where
  acts : List Act
  status : RteStatus
  deriving DecidableEq, Repr

def perform (g : Globals) : Act → Globals
  | .mark file line label => checkpointMark g ⟨g.checksum, file, line, label⟩
  | .requestShutdown => { g with shutdownRequested := true }
  | .setVoter given => { g with voter := given }
  | .useChecksum left => { g with checksum := left }

def marksOf (g : Globals) : List Act → List Mark
  | [] => []
  | .mark file line label :: rest =>
      ⟨g.checksum, file, line, label⟩ :: marksOf (perform g (.mark file line label)) rest
  | act :: rest => marksOf (perform g act) rest

inductive Stage where
  | init | preExecute | execute | postExecute
  | checkpoint (checkpointId : UInt32)
  | onCheckpointResult (committed : Bool)
  | shutdown
  deriving DecidableEq, Repr

structure Entry where
  stage : Stage
  state : AppState
  locked : Bool
  status : RteStatus
  marks : List Mark
  errorCount : UInt32
  deriving DecidableEq, Repr

/- calls: how many answers were used up. log: the calls of the cycle, newest first. -/
structure World where
  globals : Globals
  calls : Nat
  log : List Entry

section Run
variable (config : AppmanagerConfig) (answers : Nat → Answer)

def runStage (w : World) (stage : Stage) : World × Bool :=
  let answer := answers w.calls
  let handled := handleStageResult (answer.acts.foldl perform w.globals) answer.status config.errorThreshold
  (⟨handled.1, w.calls + 1,
    ⟨stage, w.globals.app.state, w.globals.setupLocked, answer.status, marksOf w.globals answer.acts,
      handled.1.app.errorCount⟩ :: w.log⟩, handled.2)

def startCycle (w : World) : World where
  globals := checkpointSignatureReset
    { w.globals with app := { w.globals.app with iterationCount := w.globals.app.iterationCount + 1 } }
  calls := w.calls
  log := []

def checkpointStage (w : World) : World × Bool :=
  if config.checkpoint && w.globals.voter then
    runStage config answers w (.checkpoint (checkpointFoldSignature w.globals.checkpointSignature))
  else (w, true)

def runCycle (ops : AppmanagerOperations) (w : World) : World :=
  let w := startCycle w
  let prepared := if ops.preExecute then runStage config answers w .preExecute else (w, true)
  if !prepared.2 then prepared.1
  else
    let executed := runStage config answers prepared.1 .execute
    if !executed.2 then executed.1
    else
      let posted := if ops.postExecute then (runStage config answers executed.1 .postExecute).1 else executed.1
      let checked := checkpointStage config answers posted
      if ops.onCheckpointResult then (runStage config answers checked.1 (.onCheckpointResult checked.2)).1
      else checked.1

def goesOn (g : Globals) : Bool :=
  !g.shutdownRequested && (config.maxIterations == 0 || decide (g.app.iterationCount < config.maxIterations))

/- The cycle loop, for as many cycles as there is fuel, with the logs of the cycles, newest
first; true when it has come to its end. -/
def runCycles (ops : AppmanagerOperations) : Nat → World → List (List Entry) → World × List (List Entry) × Bool
  | 0, w, cycles => (w, cycles, !goesOn config w.globals)
  | fuel + 1, w, cycles =>
      if goesOn config w.globals then
        let w := runCycle config answers ops w
        runCycles ops fuel w (w.log :: cycles)
      else (w, cycles, true)

end Run

inductive ExitCode where
  | success | failure
  deriving DecidableEq, Repr

structure AppRun where
  globals : Globals
  start : List Entry
  cycles : List (List Entry)
  finish : List Entry
  exitCode : Option ExitCode

def AppRun.trace (r : AppRun) : List Entry := r.finish ++ r.cycles.flatten ++ r.start

def refuses (g : Globals) (config : Option AppmanagerConfig) : Bool :=
  match config with
  | none => true
  | some config =>
    match config.ops with
    | none => true
    | some ops =>
        !(ops.init && ops.execute && ops.shutdown && ops.getName && ops.getVersion) ||
          -- the single entry point is not entered twice
          decide (g.app.state = .initializing ∨ g.app.state = .running ∨ g.app.state = .shuttingDown)

def startRun (g : Globals) : Globals :=
  { g with
    app := ⟨.initializing, 0, 0, .ok⟩
    shutdownRequested := false
    checkpointSignatureActive := false
    setupLocked := false }

def entryOf (g : Globals) (stage : Stage) (answer : Answer) (errorCount : UInt32) : Entry :=
  ⟨stage, g.app.state, g.setupLocked, answer.status, marksOf g answer.acts, errorCount⟩

/- rte_appmanager_run(), which may be in its loop still when the fuel is used up. -/
def appmanagerRun (config : Option AppmanagerConfig) (answers : Nat → Answer) (fuel : Nat) (g : Globals) : AppRun :=
  match config with
  | none => ⟨g, [], [], [], some .failure⟩
  | some config =>
    match config.ops with
    | none => ⟨g, [], [], [], some .failure⟩
    | some ops =>
      if refuses g (some config) then ⟨g, [], [], [], some .failure⟩
      else
        let started := startRun g
        let initialized := (answers 0).acts.foldl perform started
        if (answers 0).status ≠ .ok then
          let failed : Globals :=
            { initialized with
              app := { initialized.app with
                state := .error
                lastError := (answers 0).status
                errorCount := initialized.app.errorCount + 1 } }
          ⟨(answers 1).acts.foldl perform failed, [entryOf started .init (answers 0) failed.app.errorCount], [],
            [entryOf failed .shutdown (answers 1) failed.app.errorCount], some .failure⟩
        else
          let running : Globals :=
            { initialized with app := { initialized.app with state := .running }, setupLocked := true }
          let start := [entryOf started .init (answers 0) initialized.app.errorCount]
          match runCycles config answers ops fuel ⟨running, 1, []⟩ [] with
          | (w, cycles, false) => ⟨w.globals, start, cycles, [], none⟩
          | (w, cycles, true) =>
              let closing : Globals :=
                { w.globals with
                  app := { w.globals.app with state := .shuttingDown }
                  checkpointSignatureActive := false
                  setupLocked := false }
              let closed := (answers w.calls).acts.foldl perform closing
              ⟨{ closed with app := { closed.app with state := .shutdown } }, start, cycles,
                [entryOf closing .shutdown (answers w.calls) closing.app.errorCount],
                some (if 0 < closed.app.errorCount ∧ 0 < config.errorThreshold then .failure else .success)⟩

end PlatformRte.App
