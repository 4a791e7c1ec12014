import PlatformRte.Watchdog.Ledger

/-! Handles of destroyed watchdogs. A handle names a slot of the pool and nothing else, so it
is good again as soon as a create takes the slot for another watchdog. -/
namespace PlatformRte.Watchdog
open Machine Standing

variable {n : Nat}

structure Rejected (w : Watchdogs n) (handle : Handle n) : Prop where
  start : ∀ clock, watchdogStart w handle clock = (w, .invalidParam)
  stop : watchdogStop w handle = (w, .invalidParam)
  kick : ∀ clock, watchdogKick w handle clock = (w, .invalidParam)
  getStatus : ∀ statusOut clock, watchdogGetStatus w handle statusOut clock = (.invalidParam, none)
  destroy : watchdogDestroy w handle = (w, .invalidParam)

def issued (i : Fin n) : Record n → Effect Unit
  | .created j _ => if j = i then .sets () else .keeps
  | .destroyed j => if j = i then .clears else .keeps
  | .initialized => .clears
  | .shutDown | .started _ _ | .kicked _ _ | .stopped _ | .fired _ _ => .keeps

theorem issuedCreated (i : Fin n) (config : WatchdogConfig) : issued i (.created i config) = .sets () := if_pos rfl

theorem issuedDestroyed (i : Fin n) : issued i (.destroyed i) = .clears := if_pos rfl

def Issued (log : List (Record n)) (i : Fin n) : Prop := standing (issued i) log = some ()

instance (log : List (Record n)) (i : Fin n) : Decidable (Issued log i) :=
  inferInstanceAs (Decidable (standing (issued i) log = some ()))

def Occupied (b : Book n) : Prop := ∀ i, Issued b.log i ↔ (b.watchdogs.pool i).inUse = true

theorem rejectedIff (w : Watchdogs n) (i : Fin n) : Rejected w (.slot i) ↔ (w.pool i).inUse = false := by
  constructor
  · intro rejected
    by_contra used
    have valid : validSlot w (.slot i) = some i := if_pos (by simpa using used)
    have stopped := rejected.stop
    rw [watchdogStop, valid] at stopped
    cases congrArg Prod.snd stopped
  · intro free
    have invalid : validSlot w (.slot i) = none := if_neg (by simp [free])
    exact ⟨fun _ => by rw [watchdogStart, invalid], by rw [watchdogStop, invalid],
      fun _ => by rw [watchdogKick, invalid], fun _ _ => by rw [watchdogGetStatus, invalid],
      by rw [watchdogDestroy, invalid]⟩

section Moves
variable {b : Book n} {i : Fin n} {slot : WatchdogSlot} {r : Record n}

theorem occupiedSet (occupied : Occupied b) (about : ∀ j, i ≠ j → issued j r = .keeps)
    (here : Issued (r :: b.log) i ↔ slot.inUse = true) : Occupied ⟨setSlot b.watchdogs i slot, r :: b.log⟩ := by
  intro j
  by_cases same : i = j
  · subst same
    rw [poolSame]
    exact here
  · rw [poolOther _ _ (Ne.symm same), Issued, standingKeeps (about j same)]
    exact occupied j

theorem occupiedKept (occupied : Occupied b) (keeps : ∀ j, issued j r = .keeps)
    (same : slot.inUse = (b.watchdogs.pool i).inUse) : Occupied ⟨setSlot b.watchdogs i slot, r :: b.log⟩ := by
  refine occupiedSet occupied (fun j _ => keeps j) ?_
  rw [Issued, standingKeeps (keeps i), same]
  exact occupied i

end Moves

theorem occupiedMoves {b : Book n} {w : Watchdogs n} {r : Record n} (occupied : Occupied b)
    (moves : Moves b.watchdogs r w) : Occupied ⟨w, r :: b.log⟩ := by
  cases moves with
  | initialized down =>
    intro i
    rw [Issued, standingClears rfl]
    simp [zeroSlot]
  | shutDown =>
    intro i
    rw [Issued, standingKeeps rfl]
    exact occupied i
  | created i c up free timed =>
    refine occupiedSet occupied (fun j other => if_neg other) ?_
    rw [Issued, standingSets (issuedCreated i c)]
    simp
  | started i nowMs used => exact occupiedKept occupied (fun _ => rfl) rfl
  | kicked i nowMs on => exact occupiedKept occupied (fun _ => rfl) rfl
  | stopped i used => exact occupiedKept occupied (fun _ => rfl) rfl
  | destroyed i used =>
    refine occupiedSet occupied (fun j other => if_neg other) ?_
    rw [Issued, standingClears (issuedDestroyed i)]
    simp
  | fired i nowMs recoveries on due => exact occupiedKept occupied (fun _ => rfl) rfl

theorem occupiedExtends {allowed : Record n → Prop} {b b' : Book n} (ext : Extends allowed b b')
    (occupied : Occupied b) : Occupied b' :=
  extendsKeeps (fun _ _ _ _ inv moves => occupiedMoves inv moves) ext occupied

theorem occupiedRun (events : List (Event n)) : Occupied (run step (powerUp n) events).toBook := by
  refine occupiedExtends (runExtends events (powerUp n)) fun i => ?_
  simp [Issued, standing, powerUp, zeroSlot]

/- After every run, and wherever the next event makes its calls: a destroyed handle is refused
exactly when no create has returned it since. -/
theorem destroyedRejectedIff (events : List (Event n)) {b : Book n}
    (reached : Extends (fun _ => True) (run step (powerUp n) events).toBook b) (i : Fin n) :
    (.destroyed i ∈ b.log → Rejected b.watchdogs (.slot i)) ↔ (.destroyed i ∈ b.log → ¬Issued b.log i) := by
  rw [rejectedIff, occupiedExtends reached (occupiedRun events) i, Bool.not_eq_true]

def logWatchdog : WatchdogConfig := ⟨100, .log, false⟩

def replaced : List (Event 2) :=
  [.call .managerInitialize, .call (.create true (some logWatchdog) .ok), .call (.destroy (.slot 0)),
    .call (.create true (some logWatchdog) .ok), .call (.start (.slot 0) ⟨.ok, 10⟩)]

/- The handle of the destroyed watchdog kicks the new one. -/
theorem staleKick : ¬∀ (events : List (Event 2)) (i : Fin 2), .destroyed i ∈ (run step (powerUp 2) events).log →
    Rejected (run step (powerUp 2) events).watchdogs (.slot i) := by
  intro claimed
  have rejected := claimed replaced 0 (by decide)
  have kicked : (watchdogKick (run step (powerUp 2) replaced).watchdogs (.slot 0) ⟨.ok, 50⟩).2 = .ok := by decide
  rw [rejected.kick] at kicked
  cases kicked

theorem replacedHandle :
    (.destroyed 0 ∈ (run step (powerUp 2) replaced).log → Rejected (run step (powerUp 2) replaced).watchdogs (.slot 0)) ↔
      (.destroyed 0 ∈ (run step (powerUp 2) replaced).log → ¬Issued (run step (powerUp 2) replaced).log 0) :=
  destroyedRejectedIff replaced .refl 0

end PlatformRte.Watchdog
