import PlatformRte.Watchdog.Ledger

/-! A watchdog fires only when it should: at a tick, while it counts down, once for each
start and not before its timeout has passed since it was last started or kicked. What
fails to read the clock changes no watchdog. -/
namespace PlatformRte.Watchdog
open Machine History Standing

variable {n : Nat}

/- The clock is not so close to its end that the deadline wraps. -/
def NoWrap : Record n → List (Record n) → Prop
  | .started i nowMs, earlier | .kicked i nowMs, earlier =>
    ∀ config ∈ standing (configured i) earlier, nowMs.toNat + config.timeoutMs.toNat < 2 ^ 64
  | _, _ => True

def TimedOut (i : Fin n) (nowMs : UInt64) (log : List (Record n)) : Prop :=
  ∃ since ∈ standing (armed i) log, ∃ config ∈ standing (configured i) log,
    since.toNat + config.timeoutMs.toNat ≤ nowMs.toNat

def FiresWhenDue : Record n → List (Record n) → Prop
  | .fired i nowMs, earlier => TimedOut i nowMs earlier ∧ standing (fresh i) earlier = some ()
  | _, _ => True

instance (r : Record n) (earlier : List (Record n)) : Decidable (NoWrap r earlier) := by
  cases r <;> unfold NoWrap <;> infer_instance

theorem armedCases (i : Fin n) (r : Record n) : (armed i r = .keeps ∧ configured i r = .keeps) ∨
    armed i r = .clears ∨ ∃ nowMs, r = .started i nowMs ∨ r = .kicked i nowMs := by
  cases r <;> grind [armed, configured]

theorem armedNoWrap {log : List (Record n)} {i : Fin n} {since : UInt64} {config : WatchdogConfig}
    (wraps : Each NoWrap log) (arm : standing (armed i) log = some since)
    (conf : standing (configured i) log = some config) : since.toNat + config.timeoutMs.toNat < 2 ^ 64 := by
  induction log with
  | nil => cases arm
  | cons r earlier ih =>
    rcases armedCases i r with ⟨keeps, same⟩ | clears | ⟨nowMs, rfl | rfl⟩
    · rw [standingKeeps keeps] at arm
      rw [standingKeeps same] at conf
      exact ih wraps.2 arm conf
    · rw [standingClears clears] at arm
      cases arm
    · rw [standingSets (armedStarted i nowMs)] at arm
      cases arm
      exact wraps.1 config conf
    · rw [standingSets (armedKicked i nowMs)] at arm
      cases arm
      exact wraps.1 config conf

theorem deadlineNat {since : UInt64} {timeoutMs : UInt32} (fits : since.toNat + timeoutMs.toNat < 2 ^ 64) :
    (since + timeoutMs.toUInt64).toNat = since.toNat + timeoutMs.toNat := by
  rw [UInt64.toNat_add, UInt32.toNat_toUInt64, Nat.mod_eq_of_lt fits]

theorem firesMoves {b : Book n} {w : Watchdogs n} {r : Record n} (kept : Kept b) (moves : Moves b.watchdogs r w)
    (wraps : Each NoWrap b.log) : FiresWhenDue r b.log := by
  cases moves with
  | fired i nowMs recoveries on due =>
    have tells := kept.tells i
    have arm : standing (armed i) b.log = some (b.watchdogs.pool i).lastKickMs := by
      rw [tells.armed, if_pos on]
    have conf := tells.configured (supervisingIff.mp on).1
    refine ⟨⟨_, arm, _, conf, ?_⟩, tells.fresh on⟩
    rw [← deadlineNat (armedNoWrap wraps arm conf), ← tells.deadline on]
    exact UInt64.le_iff_toNat_le.mp due
  | _ => exact True.intro

theorem firesRun (events : List (Event n)) (wraps : Each NoWrap (run step (powerUp n) events).log) :
    Each FiresWhenDue (run step (powerUp n) events).log := by
  have both : Kept (run step (powerUp n) events).toBook ∧ (Each NoWrap (run step (powerUp n) events).log →
      Each FiresWhenDue (run step (powerUp n) events).log) := by
    refine extendsKeeps (I := fun b => Kept b ∧ (Each NoWrap b.log → Each FiresWhenDue b.log))
      (fun b w r _ inv moves => ?_) (runExtends events (powerUp n)) ⟨keptRun [], fun _ => True.intro⟩
    exact ⟨keptMoves inv.1 moves, fun wraps => ⟨firesMoves inv.1 moves wraps.2, inv.2 wraps.2⟩⟩
  exact both.2 wraps

structure ClockFails (w : World n) (clock : Clock) : Prop where
  start : ∀ handle, call w.toBook (.start handle clock) = w.toBook
  kick : ∀ handle, call w.toBook (.kick handle clock) = w.toBook
  getStatus : ∀ handle statusOut, call w.toBook (.getStatus handle statusOut clock) = w.toBook ∧
    (watchdogGetStatus w.watchdogs handle statusOut clock).2 = none
  enters : w.halted = none → w.watchdogs.managerInitialized = true → ∀ custom,
    ((step w (.tick clock custom)).halted = some ⟨.safe, safestateReasonClockFailed⟩ ↔
      ∃ i, (w.watchdogs.pool i).inUse = true ∧ (w.watchdogs.pool i).active = true ∧ (w.watchdogs.pool i).fired = false)
  unchanged : w.halted = none → w.watchdogs.managerInitialized = true → ∀ custom,
    (step w (.tick clock custom)).toBook = w.toBook ∧
      ((step w (.tick clock custom)).halted ≠ some ⟨.safe, safestateReasonClockFailed⟩ →
        step w (.tick clock custom) = w)

theorem returnsFailed {b : Book n} {result : Watchdogs n × RteStatus} {record : Fin n → Record n} {handle : Handle n}
    (failed : ∃ status, status ≠ .ok ∧ result = (b.watchdogs, status)) : returns b result record handle = b := by
  obtain ⟨status, other, rfl⟩ := failed
  rw [returns, onSlotFailed other, List.nil_append]

theorem startFails (w : Watchdogs n) (handle : Handle n) {clock : Clock} (failed : clock.status ≠ .ok) :
    ∃ status, status ≠ .ok ∧ watchdogStart w handle clock = (w, status) := by
  rw [watchdogStart]
  cases validSlot w handle with
  | none => exact ⟨.invalidParam, by decide, rfl⟩
  | some i => exact ⟨clock.status, failed, if_neg failed⟩

theorem kickFails (w : Watchdogs n) (handle : Handle n) {clock : Clock} (failed : clock.status ≠ .ok) :
    ∃ status, status ≠ .ok ∧ watchdogKick w handle clock = (w, status) := by
  rw [watchdogKick]
  cases validSlot w handle with
  | none => exact ⟨.invalidParam, by decide, rfl⟩
  | some i =>
    by_cases idle : (!(w.pool i).active || (w.pool i).fired) = true
    · exact ⟨.internalError, by decide, if_pos idle⟩
    · exact ⟨clock.status, failed, by simp only [if_neg idle, if_neg failed]⟩

theorem getStatusFails (w : Watchdogs n) (handle : Handle n) (statusOut : Bool) {clock : Clock}
    (failed : clock.status ≠ .ok) : (watchdogGetStatus w handle statusOut clock).2 = none := by
  rw [watchdogGetStatus]
  cases validSlot w handle with
  | none => rfl
  | some i =>
    simp only [if_neg failed]
    split_ifs <;> rfl

theorem firstSupervisingNone {w : Watchdogs n} :
    firstSupervisingIndex w = none ↔ ¬∃ i, isSupervising (w.pool i) = true := by
  simp [firstSupervisingIndex]

theorem tickFails {w : World n} {clock : Clock} (running : w.halted = none)
    (up : w.watchdogs.managerInitialized = true) (failed : clock.status ≠ .ok) (custom : Fin n → List (Call n)) :
    step w (.tick clock custom) =
      if (firstSupervisingIndex w.watchdogs).isSome then { w with halted := some ⟨.safe, safestateReasonClockFailed⟩ }
      else w := by
  rw [stepRunning running]
  simp only [watchdogTimerTick, if_pos up, if_neg failed]
  cases firstSupervisingIndex w.watchdogs with
  | none => rfl
  | some i => rfl

theorem clockFails (w : World n) {clock : Clock} (failed : clock.status ≠ .ok) : ClockFails w clock := by
  refine ⟨fun handle => ?_, fun handle => ?_, fun handle statusOut => ?_, fun running up custom => ?_,
    fun running up custom => ?_⟩
  · exact returnsFailed (startFails _ handle failed)
  · exact returnsFailed (kickFails _ handle failed)
  · exact ⟨rfl, getStatusFails _ handle statusOut failed⟩
  · have supervised : (∃ i, (w.watchdogs.pool i).inUse = true ∧ (w.watchdogs.pool i).active = true ∧
        (w.watchdogs.pool i).fired = false) ↔ (firstSupervisingIndex w.watchdogs).isSome = true := by
      rw [Option.isSome_iff_ne_none, Ne, firstSupervisingNone, not_not]
      exact exists_congr fun i => supervisingIff.symm
    rw [supervised, tickFails running up failed]
    split_ifs with watched <;> simp [running, watched]
  · rw [tickFails running up failed]
    split_ifs with watched
    · exact ⟨rfl, fun other => absurd rfl other⟩
    · exact ⟨rfl, fun _ => rfl⟩

theorem watchdogFiresOnlyWhenDue (events : List (Event n)) (wraps : Each NoWrap (run step (powerUp n) events).log) :
    Each FiresWhenDue (run step (powerUp n) events).log ∧
      Always step (fun w e => ∃ newer, (step w e).log = newer ++ w.log ∧ ∀ r ∈ newer, Allowed e r) (powerUp n) events ∧
      ∀ clock, clock.status ≠ .ok → ClockFails (run step (powerUp n) events) clock := by
  refine ⟨firesRun events wraps, fun before e after _ => ?_, fun clock failed => ?_⟩
  · exact extendsGrows (stepExtends _ e)
  · exact clockFails _ failed

def firstHandle : Handle 8 := .slot 0

def firedAtDeadline : List (Event 8) :=
  [.call .managerInitialize, .call (.create true (some ⟨50, .log, false⟩) .ok),
    .call (.start firstHandle ⟨.ok, 100⟩), .tick ⟨.ok, 150⟩ fun _ => []]

theorem firedAtDeadlineWhenDue : Each FiresWhenDue (run step (powerUp 8) firedAtDeadline).log :=
  (watchdogFiresOnlyWhenDue firedAtDeadline (by decide)).1

end PlatformRte.Watchdog
