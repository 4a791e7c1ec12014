import PlatformRte.Lib.Standing
import PlatformRte.Watchdog.Runs

/-! What the log of a run says of each watchdog: since when it counts down, what it was
created with, whether it was started since it last fired. The pool keeps in its flags
and times what the log says. -/
namespace PlatformRte.Watchdog
open Machine Standing

variable {n : Nat}

def armed (i : Fin n) : Record n → Effect UInt64
  | .started j nowMs | .kicked j nowMs => if j = i then .sets nowMs else .keeps
  | .created j _ | .stopped j | .destroyed j | .fired j _ => if j = i then .clears else .keeps
  | .initialized | .shutDown => .clears

theorem armedStarted (i : Fin n) (nowMs : UInt64) : armed i (.started i nowMs) = .sets nowMs := if_pos rfl

theorem armedKicked (i : Fin n) (nowMs : UInt64) : armed i (.kicked i nowMs) = .sets nowMs := if_pos rfl

def configured (i : Fin n) : Record n → Effect WatchdogConfig
  | .created j config => if j = i then .sets config else .keeps
  | .destroyed j => if j = i then .clears else .keeps
  | .initialized => .clears
  | _ => .keeps

def fresh (i : Fin n) : Record n → Effect Unit
  | .started j _ => if j = i then .sets () else .keeps
  | .fired j _ => if j = i then .clears else .keeps
  | _ => .keeps

def managed : Record n → Effect Unit
  | .initialized => .sets ()
  | .shutDown => .clears
  | _ => .keeps

structure Tells (slot : WatchdogSlot) (log : List (Record n)) (i : Fin n) : Prop where
  armed : standing (armed i) log = if isSupervising slot then some slot.lastKickMs else none
  deadline : isSupervising slot = true → slot.deadlineMs = slot.lastKickMs + slot.config.timeoutMs.toUInt64
  configured : slot.inUse = true → standing (configured i) log = some slot.config
  timed : slot.inUse = true → slot.config.timeoutMs ≠ 0
  fresh : isSupervising slot = true → standing (fresh i) log = some ()

structure Kept (b : Book n) : Prop where
  tells : ∀ i, Tells (b.watchdogs.pool i) b.log i
  managed : standing managed b.log = if b.watchdogs.managerInitialized then some () else none

section Moves
variable {slot : WatchdogSlot} {log : List (Record n)} {i : Fin n} {r : Record n}

theorem tellsOther (tells : Tells slot log i) (arm : armed i r = .keeps) (conf : configured i r = .keeps)
    (start : fresh i r = .keeps) : Tells slot (r :: log) i :=
  ⟨by rw [standingKeeps arm]; exact tells.armed, tells.deadline,
    fun used => by rw [standingKeeps conf]; exact tells.configured used, tells.timed,
    fun on => by rw [standingKeeps start]; exact tells.fresh on⟩

theorem tellsIdle {slot' : WatchdogSlot} (tells : Tells slot log i) (idle : isSupervising slot' = false)
    (same : slot'.inUse = true → slot.inUse = true ∧ slot'.config = slot.config)
    (arm : armed i r = .clears) (conf : slot'.inUse = true → configured i r = .keeps) :
    Tells slot' (r :: log) i := by
  refine ⟨by rw [standingClears arm, idle]; rfl, by simp [idle], fun used => ?_, fun used => ?_, by simp [idle]⟩
  · rw [standingKeeps (conf used), (same used).2]
    exact tells.configured (same used).1
  · rw [(same used).2]
    exact tells.timed (same used).1

theorem tellsArmed {slot' : WatchdogSlot} {nowMs : UInt64} (tells : Tells slot log i) (used : slot.inUse = true)
    (same : slot'.config = slot.config) (arm : armed i r = .sets nowMs) (conf : configured i r = .keeps)
    (on : isSupervising (rearmed slot' nowMs) = true) (start : standing (fresh i) (r :: log) = some ()) :
    Tells (rearmed slot' nowMs) (r :: log) i := by
  refine ⟨by rw [standingSets arm, if_pos on]; rfl, fun _ => rfl, fun _ => ?_, fun _ => ?_, fun _ => start⟩
  · rw [standingKeeps conf, tells.configured used]
    exact congrArg some same.symm
  · show slot'.config.timeoutMs ≠ 0
    rw [same]
    exact tells.timed used

end Moves

theorem poolSame (w : Watchdogs n) (i : Fin n) (slot : WatchdogSlot) : (setSlot w i slot).pool i = slot := by
  simp [setSlot]

theorem poolOther (w : Watchdogs n) {i j : Fin n} (slot : WatchdogSlot) (other : j ≠ i) :
    (setSlot w i slot).pool j = w.pool j := by
  simp [setSlot, other]

theorem tellsSet {b : Book n} {i : Fin n} {slot : WatchdogSlot} {r : Record n} (kept : Kept b)
    (about : ∀ j, i ≠ j → armed j r = .keeps ∧ configured j r = .keeps ∧ fresh j r = .keeps)
    (here : Tells slot (r :: b.log) i) (j : Fin n) : Tells ((setSlot b.watchdogs i slot).pool j) (r :: b.log) j := by
  by_cases same : i = j
  · subst same
    rw [poolSame]
    exact here
  · obtain ⟨arm, conf, start⟩ := about j same
    rw [poolOther _ _ (Ne.symm same)]
    exact tellsOther (kept.tells j) arm conf start

theorem keptMoves {b : Book n} {w : Watchdogs n} {r : Record n} (kept : Kept b) (moves : Moves b.watchdogs r w) :
    Kept ⟨w, r :: b.log⟩ := by
  cases moves with
  | initialized down =>
    exact ⟨fun i => ⟨standingClears rfl, by simp [isSupervising, zeroSlot], by simp [zeroSlot], by simp [zeroSlot],
      by simp [isSupervising, zeroSlot]⟩, standingSets rfl⟩
  | shutDown =>
    refine ⟨fun i => ?_, standingClears rfl⟩
    exact tellsIdle (kept.tells i) (by simp [isSupervising, watchdogManagerShutdown]) (fun used => ⟨used, rfl⟩) rfl
      fun _ => rfl
  | created i c up free timed =>
    refine ⟨tellsSet kept (fun j other => by simp [armed, configured, fresh, other]) ?_, ?_⟩
    · exact ⟨by rw [standingClears (by simp [armed])]; rfl, by simp [isSupervising, zeroSlot],
        fun _ => standingSets (by simp [configured]), fun _ => timed, by simp [isSupervising, zeroSlot]⟩
    · rw [standingKeeps rfl]
      exact kept.managed
  | started i nowMs used =>
    refine ⟨tellsSet kept (fun j other => by simp [armed, configured, fresh, other]) ?_, ?_⟩
    · exact tellsArmed (kept.tells i) used rfl (by simp [armed]) rfl
        (by simp [isSupervising, rearmed, used]) (standingSets (by simp [fresh]))
    · rw [standingKeeps rfl]
      exact kept.managed
  | kicked i nowMs on =>
    refine ⟨tellsSet kept (fun j other => by simp [armed, configured, fresh, other]) ?_, ?_⟩
    · refine tellsArmed (kept.tells i) (supervisingIff.mp on).1 rfl (by simp [armed]) rfl on ?_
      rw [standingKeeps rfl]
      exact (kept.tells i).fresh on
    · rw [standingKeeps rfl]
      exact kept.managed
  | stopped i used =>
    refine ⟨tellsSet kept (fun j other => by simp [armed, configured, fresh, other]) ?_, ?_⟩
    · exact tellsIdle (kept.tells i) (by simp [isSupervising]) (fun _ => ⟨used, rfl⟩) (by simp [armed]) fun _ => rfl
    · rw [standingKeeps rfl]
      exact kept.managed
  | destroyed i used =>
    refine ⟨tellsSet kept (fun j other => by simp [armed, configured, fresh, other]) ?_, ?_⟩
    · exact tellsIdle (kept.tells i) (by simp [isSupervising]) (by simp) (by simp [armed]) (by simp)
    · rw [standingKeeps rfl]
      exact kept.managed
  | fired i nowMs recoveries on due =>
    refine ⟨tellsSet kept (fun j other => by simp [armed, configured, fresh, other]) ?_, ?_⟩
    · exact tellsIdle (kept.tells i) (by simp [isSupervising]) (fun used => ⟨used, rfl⟩) (by simp [armed]) fun _ => rfl
    · rw [standingKeeps rfl]
      exact kept.managed

theorem keptExtends {allowed : Record n → Prop} {b b' : Book n} (ext : Extends allowed b b') (kept : Kept b) :
    Kept b' :=
  extendsKeeps (fun _ _ _ _ inv moves => keptMoves inv moves) ext kept

theorem keptRun (events : List (Event n)) : Kept (run step (powerUp n) events).toBook := by
  refine keptExtends (runExtends events (powerUp n)) ?_
  exact ⟨fun i => ⟨rfl, by simp [isSupervising, powerUp, zeroSlot], by simp [powerUp, zeroSlot],
    by simp [powerUp, zeroSlot], by simp [isSupervising, powerUp, zeroSlot]⟩, rfl⟩

end PlatformRte.Watchdog
