import PlatformRte.Watchdog.Fires

/-! Missed deadlines. A kick that comes when the timeout has passed, but before a tick
has looked, moves the deadline on and leaves nothing of the miss. As long as no kick is
late, a tick leaves no watchdog it looks at with a miss that was not reported. -/
namespace PlatformRte.Watchdog
open Machine History Standing

variable {n : Nat}

def reading : Record n → Option UInt64
  | .started _ nowMs | .kicked _ nowMs | .fired _ nowMs => some nowMs
  | _ => none

def ClockRuns (r : Record n) (earlier : List (Record n)) : Prop :=
  ∀ nowMs ∈ reading r, ∀ other ∈ earlier, ∀ before ∈ reading other, before ≤ nowMs

def Punctual : Record n → List (Record n) → Prop
  | .kicked i nowMs, earlier => ¬TimedOut i nowMs earlier
  | _, _ => True

def Hidden (i : Fin n) (log : List (Record n)) : Prop :=
  ∃ later nowMs earlier, log = later ++ .kicked i nowMs :: earlier ∧ TimedOut i nowMs earlier ∧
    ∀ firedMs, .fired i firedMs ∉ later

/- The scan of a tick looks at the slot: no watchdog before it has stopped the system. -/
def Reaches (nowMs : UInt64) (custom : Fin n → List (Call n)) (w : World n) (i : Fin n) : Prop :=
  (scanUpTo nowMs custom w i).halted = none

/- The tick has entered the level that a watchdog before this one asks for: to fire it
was the last thing done. The tick does not return. -/
def StopsBefore (nowMs : UInt64) (after : World n) (i : Fin n) : Prop :=
  ∃ j < i, after.log.head? = some (.fired j nowMs) ∧
    ∃ level, (level = .safe ∨ level = .reboot) ∧ after.halted = some ⟨level, safestateReasonUnspecified⟩

def Reports (w : World n) (e : Event n) : Prop :=
  ∀ nowMs custom, e = .tick ⟨.ok, nowMs⟩ custom → w.halted = none → w.watchdogs.managerInitialized = true →
    ∀ i, (¬TimedOut i nowMs (step w e).log ∧ ¬Hidden i (step w e).log) ∨ StopsBefore nowMs (step w e) i

section Times
variable {i : Fin n} {nowMs : UInt64} {log : List (Record n)} {r : Record n}

theorem timedOutKeeps (arm : armed i r = .keeps) (conf : configured i r = .keeps) :
    TimedOut i nowMs (r :: log) ↔ TimedOut i nowMs log := by
  simp only [TimedOut, standingKeeps arm, standingKeeps conf]

theorem timedOutClears (arm : armed i r = .clears) : ¬TimedOut i nowMs (r :: log) := by
  rintro ⟨since, some, _⟩
  rw [standingClears arm] at some
  cases some

theorem timedOutIff {b : Book n} (kept : Kept b)
    (wraps : ∀ since ∈ standing (armed i) b.log, ∀ config ∈ standing (configured i) b.log,
      since.toNat + config.timeoutMs.toNat < 2 ^ 64) :
    TimedOut i nowMs b.log ↔
      isSupervising (b.watchdogs.pool i) = true ∧ (b.watchdogs.pool i).deadlineMs ≤ nowMs := by
  have tells := kept.tells i
  by_cases on : isSupervising (b.watchdogs.pool i) = true
  · have arm : standing (armed i) b.log = some (b.watchdogs.pool i).lastKickMs := by
      rw [tells.armed, if_pos on]
    have conf := tells.configured (supervisingIff.mp on).1
    have fits := wraps _ arm _ conf
    rw [UInt64.le_iff_toNat_le, tells.deadline on, deadlineNat fits]
    simp only [TimedOut, arm, conf, on]
    simp
  · have arm : standing (armed i) b.log = none := by
      rw [tells.armed, if_neg on]
    simp [TimedOut, arm, on]

theorem timedOutDue {b : Book n} (kept : Kept b) (out : TimedOut i nowMs b.log) :
    isSupervising (b.watchdogs.pool i) = true ∧ (b.watchdogs.pool i).deadlineMs ≤ nowMs := by
  refine (timedOutIff kept fun since some config same => ?_).mp out
  obtain ⟨since', some', config', same', passed⟩ := out
  cases some.symm.trans some'
  cases same.symm.trans same'
  exact lt_of_le_of_lt passed nowMs.toNat_lt

theorem movesInTime {b : Book n} {w : Watchdogs n} (kept : Kept b) (moves : Moves b.watchdogs r w)
    (after : ∀ t ∈ reading r, nowMs ≤ t) (inTime : ¬TimedOut i nowMs b.log) : ¬TimedOut i nowMs (r :: b.log) := by
  have rearmed (t : UInt64) (arm : armed i r = .sets t) (conf : configured i r = .keeps) (late : nowMs ≤ t)
      (used : (b.watchdogs.pool i).inUse = true) : ¬TimedOut i nowMs (r :: b.log) := by
    rintro ⟨since, some, config, same, passed⟩
    rw [standingSets arm] at some
    rw [standingKeeps conf, (kept.tells i).configured used] at same
    cases some
    cases same
    have timed : (b.watchdogs.pool i).config.timeoutMs.toNat ≠ 0 :=
      fun zero => (kept.tells i).timed used (UInt32.toNat_inj.mp zero)
    have order := UInt64.le_iff_toNat_le.mp late
    omega
  rcases armedCases i r with ⟨arm, conf⟩ | arm | ⟨t, rfl | rfl⟩
  · exact fun out => inTime ((timedOutKeeps arm conf).mp out)
  · exact timedOutClears arm
  · cases moves with
    | started _ _ used => exact rearmed t (armedStarted i t) rfl (after t rfl) used
  · cases moves with
    | kicked _ _ on => exact rearmed t (armedKicked i t) rfl (after t rfl) (supervisingIff.mp on).1

theorem extendsInTime {allowed : Record n → Prop} {b b' : Book n} (ext : Extends allowed b b') (kept : Kept b)
    (inTime : ¬TimedOut i nowMs b.log)
    (after : ∀ newer, b'.log = newer ++ b.log → ∀ r ∈ newer, ∀ t ∈ reading r, nowMs ≤ t) :
    ¬TimedOut i nowMs b'.log := by
  have both : Kept b' ∧ ¬TimedOut i nowMs b'.log :=
    extendsKeeps (I := fun b => Kept b ∧ ¬TimedOut i nowMs b.log)
      (fun _ _ _ allowed inv moves => ⟨keptMoves inv.1 moves, movesInTime inv.1 moves allowed.2 inv.2⟩)
      (extendsOnly ext after) ⟨kept, inTime⟩
  exact both.2

end Times

section Ticks
variable {i : Fin n} {nowMs : UInt64} {custom : Fin n → List (Call n)} {w : World n}

theorem afterFire {newer earlier : List (Record n)} {j : Fin n}
    (clock : Each ClockRuns (newer ++ .fired j nowMs :: earlier)) :
    ∀ r ∈ newer, ∀ t ∈ reading r, nowMs ≤ t := by
  intro r member t read
  obtain ⟨later, rest, rfl⟩ := List.append_of_mem member
  rw [List.append_assoc, List.cons_append] at clock
  exact eachEntry clock t read (.fired j nowMs) (by simp) nowMs rfl

theorem scanLog (nowMs : UInt64) (custom : Fin n → List (Call n)) (slots : List (Fin n)) (w : World n) :
    ∃ newer, (slots.foldl (scan nowMs custom) w).log = newer ++ w.log := by
  obtain ⟨newer, grown, _⟩ := extendsGrows (scansExtend nowMs custom slots w)
  exact ⟨newer, grown⟩

theorem scanInTime (kept : Kept w.toBook) (clock : Each ClockRuns (scan nowMs custom w i).log) {j : Fin n}
    (inTime : ¬TimedOut j nowMs w.log ∨
      (j = i ∧ w.halted = none)) : ¬TimedOut j nowMs (scan nowMs custom w i).log := by
  by_cases due : w.halted = none ∧ isSupervising (w.watchdogs.pool i) = true ∧ (w.watchdogs.pool i).deadlineMs ≤ nowMs
  · obtain ⟨running, on, passed⟩ := due
    obtain ⟨fired, moves, result⟩ := scanDue custom running on passed
    have later := reactExtends (custom i) ⟨⟨fired, .fired i nowMs :: w.log⟩, none⟩ (reaction (w.watchdogs.pool i).config)
    rw [← result] at later
    refine extendsInTime later (keptMoves kept moves) ?_ fun newer grown => ?_
    · rcases inTime with inTime | ⟨rfl, _⟩
      · refine movesInTime kept moves (fun t read => ?_) inTime
        cases read
        exact UInt64.le_refl nowMs
      · exact timedOutClears (if_pos rfl)
    · rw [grown] at clock
      exact afterFire clock
  · have same : scan nowMs custom w i = w := by
      by_cases running : w.halted = none
      · exact scanEarly fun due' => due ⟨running, due'⟩
      · exact scanStopped (Option.isSome_iff_ne_none.mpr running)
    rw [same]
    rcases inTime with inTime | ⟨rfl, running⟩
    · exact inTime
    · exact fun out => due ⟨running, timedOutDue kept out⟩

theorem scansInTime (slots : List (Fin n)) (kept : Kept w.toBook)
    (clock : Each ClockRuns (slots.foldl (scan nowMs custom) w).log) (inTime : ¬TimedOut i nowMs w.log) :
    ¬TimedOut i nowMs (slots.foldl (scan nowMs custom) w).log := by
  induction slots generalizing w with
  | nil => exact inTime
  | cons j rest ih =>
    obtain ⟨newer, grown⟩ := scanLog nowMs custom rest (scan nowMs custom w j)
    have here : Each ClockRuns (scan nowMs custom w j).log := eachEarlier (by rw [← grown]; exact clock)
    exact ih (keptExtends (scanExtends nowMs custom w j) kept) clock (scanInTime kept here (Or.inl inTime))

theorem tickInTime (kept : Kept w.toBook) (reached : Reaches nowMs custom w i)
    (clock : Each ClockRuns (scanUpTo nowMs custom w n).log) : ¬TimedOut i nowMs (scanUpTo nowMs custom w n).log := by
  rw [scanAround nowMs custom w i] at clock ⊢
  have before : Kept (scanUpTo nowMs custom w i).toBook := keptExtends (scansExtend nowMs custom _ w) kept
  obtain ⟨newer, grown⟩ := scanLog nowMs custom ((List.finRange n).drop (i + 1))
    (scan nowMs custom (scanUpTo nowMs custom w i) i)
  have here : Each ClockRuns (scan nowMs custom (scanUpTo nowMs custom w i) i).log :=
    eachEarlier (by rw [← grown]; exact clock)
  exact scansInTime _ (keptExtends (scanExtends nowMs custom _ i) before) clock
    (scanInTime before here (Or.inr ⟨rfl, reached⟩))

theorem stopsBefore (running : w.halted = none) (missed : ¬Reaches nowMs custom w i) :
    StopsBefore nowMs (scanUpTo nowMs custom w n) i := by
  have whole : scanUpTo nowMs custom w n = scanUpTo nowMs custom w i := by
    have stopped : (scanUpTo nowMs custom w i).halted.isSome = true := Option.isSome_iff_ne_none.mpr missed
    rw [scanAround nowMs custom w i, scanStopped stopped, scansStopped _ stopped]
  rw [whole]
  obtain ⟨j, member, last⟩ := scansStop nowMs custom ((List.finRange n).take i) running missed
  exact ⟨j, memTake.mp member, last⟩

end Ticks

theorem punctualNotHidden {log : List (Record n)} (punctual : Each Punctual log) (i : Fin n) : ¬Hidden i log := by
  rintro ⟨later, nowMs, earlier, rfl, out, _⟩
  exact eachEntry punctual out

theorem scansSpare {w : World n} (i : Fin n) (nowMs : UInt64) (slots : List (Fin n))
    (early : ¬(isSupervising (w.watchdogs.pool i) = true ∧ (w.watchdogs.pool i).deadlineMs ≤ nowMs)) :
    ∃ newer, (slots.foldl (scan nowMs fun _ => []) w).log = newer ++ w.log ∧ ∀ firedMs, .fired i firedMs ∉ newer := by
  induction slots generalizing w with
  | nil => exact ⟨[], rfl, by simp⟩
  | cons j rest ih =>
    by_cases due : w.halted = none ∧ isSupervising (w.watchdogs.pool j) = true ∧
        (w.watchdogs.pool j).deadlineMs ≤ nowMs
    · obtain ⟨running, on, passed⟩ := due
      have other : i ≠ j := by
        rintro rfl
        exact early ⟨on, passed⟩
      obtain ⟨fired, moves, result⟩ := scanDue (fun _ => []) running on passed
      have book : (scan nowMs (fun _ => []) w j).toBook = ⟨fired, .fired j nowMs :: w.log⟩ := by
        rw [result]
        cases reaction (w.watchdogs.pool j).config <;> rfl
      have same : fired.pool i = w.watchdogs.pool i := by
        cases moves
        exact poolOther _ _ other
      obtain ⟨newer, grown, none⟩ := ih (w := scan nowMs (fun _ => []) w j) (by rw [book, same]; exact early)
      refine ⟨newer ++ [.fired j nowMs], ?_, fun firedMs member => ?_⟩
      · rw [List.foldl_cons, grown, book]
        simp
      · rcases List.mem_append.mp member with before | here
        · exact none firedMs before
        · cases List.mem_singleton.mp here
          exact other rfl
    · have same : scan nowMs (fun _ => []) w j = w := by
        by_cases running : w.halted = none
        · exact scanEarly fun due' => due ⟨running, due'⟩
        · exact scanStopped (Option.isSome_iff_ne_none.mpr running)
      rw [List.foldl_cons, same]
      exact ih early

theorem punctualReports (events : List (Event n)) (clock : Each ClockRuns (run step (powerUp n) events).log)
    (punctual : Each Punctual (run step (powerUp n) events).log) : Always step Reports (powerUp n) events := by
  rintro before e after rfl nowMs custom rfl running up i
  obtain ⟨newer, grown, _⟩ := extendsGrows
    (runExtends after (step (run step (powerUp n) before) (.tick ⟨.ok, nowMs⟩ custom)))
  have whole : (run step (powerUp n) (before ++ .tick ⟨.ok, nowMs⟩ custom :: after)).log =
      newer ++ (step (run step (powerUp n) before) (.tick ⟨.ok, nowMs⟩ custom)).log := by
    rw [runAppend]
    exact grown
  rw [whole] at clock punctual
  have ticked := eachEarlier clock
  have kicked := punctualNotHidden (eachEarlier punctual) i
  rw [stepTick running up] at ticked kicked ⊢
  by_cases reached : Reaches nowMs custom (run step (powerUp n) before) i
  · exact Or.inl ⟨tickInTime (keptRun before) reached ticked, kicked⟩
  · exact Or.inr (stopsBefore running reached)

theorem kickedBook {w : World n} {i : Fin n} {nowMs : UInt64} (running : w.halted = none)
    (kicks : (watchdogKick w.watchdogs (.slot i) ⟨.ok, nowMs⟩).2 = .ok) :
    Moves w.watchdogs (.kicked i nowMs) (step w (.call (.kick (.slot i) ⟨.ok, nowMs⟩))).watchdogs ∧
      (step w (.call (.kick (.slot i) ⟨.ok, nowMs⟩))).log = .kicked i nowMs :: w.log ∧
      (step w (.call (.kick (.slot i) ⟨.ok, nowMs⟩))).halted = none := by
  rw [stepRunning running]
  rcases kickAnswers w.watchdogs (.slot i) ⟨.ok, nowMs⟩ with ⟨_, failed⟩ | ⟨j, same, _, moves⟩
  · exact absurd kicks failed
  · cases same
    refine ⟨moves, ?_, running⟩
    simp only [call, returns, onSlot, if_pos kicks, List.singleton_append]

theorem lateKickHides {w : World n} {i : Fin n} {nowMs : UInt64} (kept : Kept w.toBook) (running : w.halted = none)
    (up : w.watchdogs.managerInitialized = true)
    (kicks : (watchdogKick w.watchdogs (.slot i) ⟨.ok, nowMs⟩).2 = .ok) (late : TimedOut i nowMs w.log)
    (wraps : ∀ config ∈ standing (configured i) w.log, nowMs.toNat + config.timeoutMs.toNat < 2 ^ 64) :
    Hidden i (step (step w (.call (.kick (.slot i) ⟨.ok, nowMs⟩))) (.tick ⟨.ok, nowMs⟩ fun _ => [])).log := by
  obtain ⟨moves, grown, still⟩ := kickedBook running kicks
  generalize step w (.call (.kick (.slot i) ⟨.ok, nowMs⟩)) = w' at moves grown still ⊢
  obtain ⟨⟨watchdogs, log⟩, halted⟩ := w'
  cases moves with
  | kicked _ _ on =>
    obtain ⟨used, _, _⟩ := supervisingIff.mp on
    have fits := wraps _ ((kept.tells i).configured used)
    have timed : (w.watchdogs.pool i).config.timeoutMs.toNat ≠ 0 :=
      fun zero => (kept.tells i).timed used (UInt32.toNat_inj.mp zero)
    rw [stepTick still (by exact up)]
    obtain ⟨newer, longer, none⟩ := scansSpare i nowMs ((List.finRange n).take n)
      (w := ⟨⟨setSlot w.watchdogs i (rearmed { w.watchdogs.pool i with kicks := (w.watchdogs.pool i).kicks + 1 } nowMs),
        log⟩, halted⟩) (by
        rintro ⟨_, due⟩
        rw [poolSame, rearmed, UInt64.le_iff_toNat_le, deadlineNat fits] at due
        omega)
    refine ⟨newer, nowMs, w.log, ?_, late, none⟩
    rw [← grown]
    exact longer

/- No miss is hidden as long as no kick is late, and every late kick hides one from the
tick that follows it at once. -/
theorem missedDeadlineReportedIfPunctual (events : List (Event n))
    (clock : Each ClockRuns (run step (powerUp n) events).log) :
    (Each Punctual (run step (powerUp n) events).log → Always step Reports (powerUp n) events) ∧
      ∀ i nowMs, (watchdogKick (run step (powerUp n) events).watchdogs (.slot i) ⟨.ok, nowMs⟩).2 = .ok →
        TimedOut i nowMs (run step (powerUp n) events).log →
        (∀ config ∈ standing (configured i) (run step (powerUp n) events).log,
          nowMs.toNat + config.timeoutMs.toNat < 2 ^ 64) →
        (run step (powerUp n) events).halted = none →
        (run step (powerUp n) events).watchdogs.managerInitialized = true →
        (run step (powerUp n)
          (events ++ [.call (.kick (.slot i) ⟨.ok, nowMs⟩)] ++ [.tick ⟨.ok, nowMs⟩ fun _ => []])).halted = none →
        ¬Always step Reports (powerUp n)
          (events ++ [.call (.kick (.slot i) ⟨.ok, nowMs⟩)] ++ [.tick ⟨.ok, nowMs⟩ fun _ => []]) := by
  refine ⟨punctualReports events clock, fun i nowMs kicks late wraps running up returned always => ?_⟩
  have last := (alwaysSnoc.mp always).2
  rw [runSnoc, runSnoc] at returned
  rw [runSnoc] at last
  obtain ⟨moves, _, still⟩ := kickedBook running kicks
  have stillUp : (step (run step (powerUp n) events)
      (.call (.kick (.slot i) ⟨.ok, nowMs⟩))).watchdogs.managerInitialized = true := by
    generalize step (run step (powerUp n) events) (.call (.kick (.slot i) ⟨.ok, nowMs⟩)) = w' at moves
    obtain ⟨⟨watchdogs, log⟩, halted⟩ := w'
    cases moves
    exact up
  rcases last nowMs (fun _ => []) rfl still stillUp i with ⟨_, reported⟩ | ⟨_, _, _, _, _, halted⟩
  · exact reported (lateKickHides (keptRun events) running up kicks late wraps)
  · rw [returned] at halted
    cases halted

def lateKick : List (Event 8) :=
  [.call .managerInitialize, .call (.create true (some ⟨100, .log, false⟩) .ok), .call (.start firstHandle ⟨.ok, 0⟩),
    .call (.kick firstHandle ⟨.ok, 150⟩), .tick ⟨.ok, 151⟩ fun _ => []]

/- Started at 0 with a timeout of 100 and kicked at 150: the tick at 151 reports nothing. -/
theorem lateKickUnreported : ¬Always step Reports (powerUp 8) lateKick := by
  intro always
  have last := always (lateKick.take 4) (.tick ⟨.ok, 151⟩ fun _ => []) [] rfl 151 (fun _ => []) rfl rfl rfl 0
  rcases last with ⟨_, reported⟩ | ⟨j, before, _⟩
  · refine reported ⟨[], 150, [.started 0 0, .created 0 ⟨100, .log, false⟩, .initialized], rfl, ?_, by simp⟩
    exact ⟨0, rfl, ⟨100, .log, false⟩, rfl, by decide⟩
  · exact Nat.not_lt_zero j before

def kickedInTime : List (Event 8) :=
  [.call .managerInitialize, .call (.create true (some ⟨100, .log, false⟩) .ok), .call (.start firstHandle ⟨.ok, 0⟩),
    .call (.kick firstHandle ⟨.ok, 50⟩), .tick ⟨.ok, 150⟩ fun _ => []]

theorem kickedInTimeReports : Always step Reports (powerUp 8) kickedInTime := by
  have log : (run step (powerUp 8) kickedInTime).log = [.fired 0 150, .kicked 0 50, .started 0 0,
      .created 0 ⟨100, .log, false⟩, .initialized] := rfl
  refine (missedDeadlineReportedIfPunctual kickedInTime ?_).1 ?_
  · rw [log]
    simp [Each, ClockRuns, reading]
  · rw [log]
    refine ⟨True.intro, ?_, True.intro, True.intro, True.intro, True.intro⟩
    rintro ⟨since, some, config, same, passed⟩
    cases some
    cases same
    revert passed
    decide

end PlatformRte.Watchdog
