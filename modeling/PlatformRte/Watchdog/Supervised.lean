import PlatformRte.Watchdog.Missed

/-! Started watchdogs. A start is accepted for every slot in use, a tick looks at the
pool only while the manager is initialized, and a shutdown leaves the slots in use: what
is started under an initialized manager is fired by the first tick at or past its
deadline, what is started without one never is. -/
namespace PlatformRte.Watchdog
open Machine History Standing

variable {n : Nat}

def Spares (i : Fin n) : Record n → Prop
  | .started j _ | .kicked j _ | .stopped j | .destroyed j => j ≠ i
  | .shutDown => False
  | _ => True

instance (i : Fin n) : DecidablePred (Spares i)
  | .started j _ | .kicked j _ | .stopped j | .destroyed j => inferInstanceAs (Decidable (j ≠ i))
  | .shutDown => isFalse False.elim
  | .initialized | .created .. | .fired .. => isTrue True.intro

section Statement
variable (before middle : List (Event n)) (i : Fin n) (startMs nowMs : UInt64) (custom : Fin n → List (Call n))

def atStart : World n := run step (powerUp n) before
def onceStarted : World n := step (atStart before) (.call (.start (.slot i) ⟨.ok, startMs⟩))
def atTick : World n := run step (onceStarted before i startMs) middle
def onceTicked : World n := step (atTick before middle i startMs) (.tick ⟨.ok, nowMs⟩ custom)

structure FirstDueTick : Prop where
  starts : (watchdogStart (atStart before).watchdogs (.slot i) ⟨.ok, startMs⟩).2 = .ok
  running : (atTick before middle i startMs).halted = none
  spared : ∀ newer, (onceTicked before middle i startMs nowMs custom).log = newer ++ (onceStarted before i startMs).log →
    ∀ r ∈ newer, Spares i r
  first : ∀ earlierMs calls, .tick ⟨.ok, earlierMs⟩ calls ∈ middle →
    earlierMs.toNat < startMs.toNat + ((atStart before).watchdogs.pool i).config.timeoutMs.toNat
  due : startMs.toNat + ((atStart before).watchdogs.pool i).config.timeoutMs.toNat ≤ nowMs.toNat

def Fires : Prop :=
  ∃ newer, (onceTicked before middle i startMs nowMs custom).log = newer ++ (atTick before middle i startMs).log ∧
    .fired i nowMs ∈ newer

end Statement

section Unmanaged
variable {i : Fin n}

theorem sparedIdle {w w' : Watchdogs n} {r : Record n} (spared : Spares i r) (moves : Moves w r w')
    (idle : isSupervising (w.pool i) = false) : isSupervising (w'.pool i) = false ∧ ∀ nowMs, r ≠ .fired i nowMs := by
  have other (j : Fin n) (slot : WatchdogSlot) (apart : j ≠ i) :
      isSupervising ((setSlot w j slot).pool i) = false := by
    rw [poolOther w slot (Ne.symm apart)]
    exact idle
  cases moves with
  | initialized down => exact ⟨rfl, by simp⟩
  | shutDown => exact spared.elim
  | created j c up free timed =>
    refine ⟨?_, by simp⟩
    by_cases same : j = i
    · subst same
      rw [poolSame]
      rfl
    · exact other j _ same
  | started j t used => exact ⟨other j _ spared, by simp⟩
  | kicked j t on => exact ⟨other j _ spared, by simp⟩
  | stopped j used => exact ⟨other j _ spared, by simp⟩
  | destroyed j used => exact ⟨other j _ spared, by simp⟩
  | fired j t recoveries on due =>
    have apart : j ≠ i := by
      rintro rfl
      rw [idle] at on
      cases on
    exact ⟨other j _ apart, fun nowMs same => apart (by cases same; rfl)⟩

theorem extendsIdle {b b' : Book n} (ext : Extends (Spares i) b b') (idle : isSupervising (b.watchdogs.pool i) = false) :
    isSupervising (b'.watchdogs.pool i) = false ∧
      ∃ newer, b'.log = newer ++ b.log ∧ ∀ nowMs, .fired i nowMs ∉ newer := by
  induction ext with
  | refl => exact ⟨idle, [], rfl, by simp⟩
  | tail before last ih =>
    obtain ⟨r, spared, moves, longer⟩ := last
    obtain ⟨still, newer, grown, none⟩ := ih
    obtain ⟨next, quiet⟩ := sparedIdle spared moves still
    refine ⟨next, r :: newer, by rw [longer, grown, List.cons_append], fun nowMs member => ?_⟩
    rcases List.mem_cons.mp member with same | rest
    · exact quiet nowMs same.symm
    · exact none nowMs rest

theorem movesManaged {w w' : Watchdogs n} {r : Record n} (spared : Spares i r) (moves : Moves w r w')
    (other : r ≠ .initialized) : w'.managerInitialized = w.managerInitialized := by
  cases moves with
  | initialized down => exact absurd rfl other
  | shutDown => exact spared.elim
  | _ => rfl

def Overlooked (i : Fin n) (b : Book n) : Prop :=
  b.watchdogs.managerInitialized = false ∨ isSupervising (b.watchdogs.pool i) = false

theorem overlookedMoves {b : Book n} {w : Watchdogs n} {r : Record n} (spared : Spares i r)
    (moves : Moves b.watchdogs r w) (overlooked : Overlooked i b) : Overlooked i ⟨w, r :: b.log⟩ := by
  rcases overlooked with down | idle
  · by_cases first : r = .initialized
    · subst first
      cases moves
      exact Or.inr rfl
    · exact Or.inl ((movesManaged spared moves first).trans down)
  · exact Or.inr (sparedIdle spared moves idle).1

end Unmanaged

section Managed
variable {i : Fin n} {deadlineMs : UInt64}

structure Waits (i : Fin n) (deadlineMs : UInt64) (w : Watchdogs n) : Prop where
  managed : w.managerInitialized = true
  on : isSupervising (w.pool i) = true
  deadline : (w.pool i).deadlineMs = deadlineMs

theorem waitsMoves {w w' : Watchdogs n} {r : Record n} (spared : Spares i r)
    (early : ∀ nowMs, r = .fired i nowMs → nowMs < deadlineMs) (moves : Moves w r w') (waits : Waits i deadlineMs w) :
    Waits i deadlineMs w' := by
  have other (j : Fin n) (slot : WatchdogSlot) (apart : j ≠ i) : Waits i deadlineMs (setSlot w j slot) := by
    refine ⟨waits.managed, ?_, ?_⟩
    · rw [poolOther w slot (Ne.symm apart)]
      exact waits.on
    · rw [poolOther w slot (Ne.symm apart)]
      exact waits.deadline
  cases moves with
  | initialized down =>
    rw [waits.managed] at down
    cases down
  | shutDown => exact spared.elim
  | created j c up free timed =>
    refine other j _ ?_
    rintro rfl
    rw [(supervisingIff.mp waits.on).1] at free
    cases free
  | started j t used => exact other j _ spared
  | kicked j t on => exact other j _ spared
  | stopped j used => exact other j _ spared
  | destroyed j used => exact other j _ spared
  | fired j t recoveries on due =>
    refine other j _ ?_
    rintro rfl
    rw [waits.deadline] at due
    exact absurd (early t rfl) (UInt64.not_lt.mpr due)

theorem waitsExtends {b b' : Book n}
    (ext : Extends (fun r => (∀ nowMs, r = .fired i nowMs → nowMs < deadlineMs) ∧ Spares i r) b b')
    (waits : Waits i deadlineMs b.watchdogs) : Waits i deadlineMs b'.watchdogs :=
  extendsKeeps (I := fun b => Waits i deadlineMs b.watchdogs)
    (fun _ _ _ allowed inv moves => waitsMoves allowed.2 allowed.1 moves inv) ext waits

end Managed

section Ticks
variable {i : Fin n} {nowMs : UInt64} {custom : Fin n → List (Call n)} {w : World n}

theorem memDrop {j : Fin n} (member : j ∈ (List.finRange n).drop (i + 1)) : i < j := by
  obtain ⟨k, small, here⟩ := List.mem_drop_iff_getElem.mp member
  have value : j.val = i + 1 + k := by
    rw [← here]
    simp
  exact Fin.lt_def.mpr (by omega)

theorem stopsNotFires (stops : StopsBefore nowMs (scanUpTo nowMs custom w n) i) :
    ∀ newer, (scanUpTo nowMs custom w n).log = newer ++ w.log → .fired i nowMs ∉ newer := by
  intro newer grown member
  obtain ⟨j, before, last, level, _, halted⟩ := stops
  have around := scanAround nowMs custom w i
  by_cases reached : Reaches nowMs custom w i
  · rw [← List.foldl_cons (f := scan nowMs custom) (b := scanUpTo nowMs custom w i) (a := i)] at around
    rw [around] at last halted
    obtain ⟨k, later, newest, _⟩ := scansStop nowMs custom (i :: (List.finRange n).drop (i + 1))
      reached (by rw [halted]; simp)
    rw [last] at newest
    cases newest
    rcases List.mem_cons.mp later with rfl | after
    · exact absurd before (lt_irrefl _)
    · exact absurd before (lt_asymm (memDrop after))
  · have stopped : (scanUpTo nowMs custom w i).halted.isSome = true := Option.isSome_iff_ne_none.mpr reached
    rw [scanStopped stopped, scansStopped _ stopped] at around
    obtain ⟨newer', grown', fires⟩ := extendsGrows (scansExtend nowMs custom ((List.finRange n).take i) w)
    rw [around] at grown
    have same : newer = newer' := List.append_cancel_right (grown.symm.trans grown')
    exact absurd (memTake.mp (fires _ (same ▸ member) i nowMs rfl).1) (lt_irrefl i)

end Ticks

def SparedStep (i : Fin n) (w : World n) (e : Event n) : Prop :=
  ∀ newer, (step w e).log = newer ++ w.log → ∀ r ∈ newer, Spares i r

theorem sparedAlways {i : Fin n} {w : World n} {events : List (Event n)}
    (spared : ∀ newer, (run step w events).log = newer ++ w.log → ∀ r ∈ newer, Spares i r) :
    Always step (SparedStep i) w events := by
  rintro before e after rfl newer grown r member
  obtain ⟨first, earlier, _⟩ := extendsGrows (runExtends before w)
  obtain ⟨last, later, _⟩ := extendsGrows (runExtends after (step (run step w before) e))
  refine spared (last ++ (newer ++ first)) ?_ r (by simp [member])
  calc (run step w (before ++ e :: after)).log
      = (run step (step (run step w before) e) after).log := by rw [runAppend]; rfl
    _ = last ++ (step (run step w before) e).log := later
    _ = last ++ (newer ++ first) ++ w.log := by rw [grown, earlier, List.append_assoc, List.append_assoc]

theorem runStopped {w : World n} (stopped : w.halted.isSome = true) (events : List (Event n)) :
    run step w events = w := by
  induction events using List.reverseRecOn with
  | nil => rfl
  | append_singleton init e ih => rw [runSnoc, ih, stepStopped stopped]

theorem startedPool {w : World n} {i : Fin n} {nowMs : UInt64} (running : w.halted = none)
    (starts : (watchdogStart w.watchdogs (.slot i) ⟨.ok, nowMs⟩).2 = .ok) :
    (w.watchdogs.pool i).inUse = true ∧ (step w (.call (.start (.slot i) ⟨.ok, nowMs⟩))).watchdogs =
      setSlot w.watchdogs i (rearmed { w.watchdogs.pool i with active := true, fired := false } nowMs) := by
  rw [stepRunning running]
  by_cases used : (w.watchdogs.pool i).inUse = true
  · simp [call, returns, watchdogStart, validSlot, used]
  · simp [watchdogStart, validSlot, used] at starts

section Decided
variable {before middle : List (Event n)} {i : Fin n} {startMs nowMs : UInt64} {custom : Fin n → List (Call n)}

theorem atStartRunning (running : (atTick before middle i startMs).halted = none) : (atStart before).halted = none := by
  by_contra stopped
  have halted : (atStart before).halted.isSome = true := Option.isSome_iff_ne_none.mpr stopped
  rw [atTick, onceStarted, stepStopped halted, runStopped halted] at running
  exact stopped running

theorem sparedTo (h : FirstDueTick before middle i startMs nowMs custom) :
    Always step (SparedStep i) (onceStarted before i startMs) (middle ++ [.tick ⟨.ok, nowMs⟩ custom]) := by
  refine sparedAlways fun newer grown => h.spared newer ?_
  rw [runSnoc] at grown
  exact grown

theorem waitsAtTick (h : FirstDueTick before middle i startMs nowMs custom)
    (up : (atStart before).watchdogs.managerInitialized = true) :
    Waits i (startMs + ((atStart before).watchdogs.pool i).config.timeoutMs.toUInt64)
      (atTick before middle i startMs).watchdogs := by
  obtain ⟨used, pool⟩ := startedPool (atStartRunning h.running) h.starts
  have start : Waits i (startMs + ((atStart before).watchdogs.pool i).config.timeoutMs.toUInt64)
      (onceStarted before i startMs).watchdogs := by
    rw [onceStarted, pool]
    refine ⟨up, ?_, ?_⟩
    · rw [poolSame]
      simp [isSupervising, rearmed, used]
    · rw [poolSame]
      rfl
  have fits : startMs.toNat + ((atStart before).watchdogs.pool i).config.timeoutMs.toNat < 2 ^ 64 :=
    lt_of_le_of_lt h.due nowMs.toNat_lt
  have admitted : Always step (fun w e => SparedStep i w e ∧ e ∈ middle) (onceStarted before i startMs) middle := by
    refine fun first e rest split => ⟨alwaysPrefix (sparedTo h) first e rest split, ?_⟩
    rw [split]
    simp
  have keep (w : World n) (e : Event n)
      (waits : Waits i (startMs + ((atStart before).watchdogs.pool i).config.timeoutMs.toUInt64) w.watchdogs)
      (admitted : SparedStep i w e ∧ e ∈ middle) :
      Waits i (startMs + ((atStart before).watchdogs.pool i).config.timeoutMs.toUInt64) (step w e).watchdogs := by
    refine waitsExtends (extendsMono (fun r both => ⟨fun otherMs same => ?_, both.2⟩)
      (extendsOnly (stepExtends w e) admitted.1)) waits
    obtain ⟨calls, rfl⟩ := both.1 i otherMs same
    rw [UInt64.lt_iff_toNat_lt, deadlineNat fits]
    exact h.first otherMs calls admitted.2
  exact @invariantRun _ _ step _ (fun w => Waits i _ w.watchdogs) _ _ start keep admitted

theorem overlookedAtTick (h : FirstDueTick before middle i startMs nowMs custom)
    (down : (atStart before).watchdogs.managerInitialized = false) :
    Overlooked i (atTick before middle i startMs).toBook := by
  obtain ⟨_, pool⟩ := startedPool (atStartRunning h.running) h.starts
  have start : Overlooked i (onceStarted before i startMs).toBook := by
    rw [Overlooked, onceStarted, pool]
    exact Or.inl down
  have keep (w : World n) (e : Event n) (overlooked : Overlooked i w.toBook) (spared : SparedStep i w e) :
      Overlooked i (step w e).toBook :=
    extendsKeeps (fun _ _ _ allowed inv moves => overlookedMoves allowed.2 moves inv)
      (extendsOnly (stepExtends w e) spared) overlooked
  exact @invariantRun _ _ step _ (fun w => Overlooked i w.toBook) _ _ start keep (alwaysPrefix (sparedTo h))

theorem waitingFires (h : FirstDueTick before middle i startMs nowMs custom)
    (up : (atStart before).watchdogs.managerInitialized = true)
    (returns : ¬StopsBefore nowMs (onceTicked before middle i startMs nowMs custom) i) :
    Fires before middle i startMs nowMs custom := by
  have waits := waitsAtTick h up
  have spared : SparedStep i (atTick before middle i startMs) (.tick ⟨.ok, nowMs⟩ custom) := (alwaysSnoc.mp (sparedTo h)).2
  have ticked : onceTicked before middle i startMs nowMs custom =
      scanUpTo nowMs custom (atTick before middle i startMs) n := stepTick h.running waits.managed
  have reached : Reaches nowMs custom (atTick before middle i startMs) i := by
    by_contra missed
    rw [ticked] at returns
    exact returns (stopsBefore h.running missed)
  rw [SparedStep, stepTick h.running waits.managed] at spared
  rw [Fires, ticked]
  have around := scanAround nowMs custom (atTick before middle i startMs) i
  -- what the slots before this one have done leaves it waiting
  obtain ⟨newer, grown, _⟩ := extendsGrows
    (scansExtend nowMs custom ((List.finRange n).take i) (atTick before middle i startMs))
  obtain ⟨last, longer⟩ := scanLog nowMs custom (i :: (List.finRange n).drop (i + 1))
    (scanUpTo nowMs custom (atTick before middle i startMs) i)
  have sparing (newer' : List (Record n))
      (grown' : (scanUpTo nowMs custom (atTick before middle i startMs) i).log =
        newer' ++ (atTick before middle i startMs).log) : ∀ r ∈ newer', Spares i r := by
    intro r member
    refine spared (last ++ newer') ?_ r (List.mem_append_right _ member)
    rw [around, List.append_assoc, ← grown']
    exact longer
  have still : Waits i (startMs + ((atStart before).watchdogs.pool i).config.timeoutMs.toUInt64)
      (scanUpTo nowMs custom (atTick before middle i startMs) i).watchdogs := by
    refine waitsExtends (extendsMono (fun r both => ⟨fun otherMs same => ?_, both.2⟩)
      (extendsOnly (scansExtend nowMs custom ((List.finRange n).take i) (atTick before middle i startMs)) sparing)) waits
    exact absurd (memTake.mp (both.1 i otherMs same).1) (lt_irrefl i)
  have due : ((scanUpTo nowMs custom (atTick before middle i startMs) i).watchdogs.pool i).deadlineMs ≤ nowMs := by
    rw [still.deadline, UInt64.le_iff_toNat_le, deadlineNat (lt_of_le_of_lt h.due nowMs.toNat_lt)]
    exact h.due
  obtain ⟨fired, moves, result⟩ := scanDue custom reached still.on due
  obtain ⟨reacted, after, _⟩ := extendsGrows (reactExtends (custom i)
    ⟨⟨fired, .fired i nowMs :: (scanUpTo nowMs custom (atTick before middle i startMs) i).log⟩, none⟩
    (reaction ((scanUpTo nowMs custom (atTick before middle i startMs) i).watchdogs.pool i).config))
  obtain ⟨rest, whole⟩ := scanLog nowMs custom ((List.finRange n).drop (i + 1))
    (scan nowMs custom (scanUpTo nowMs custom (atTick before middle i startMs) i) i)
  refine ⟨rest ++ reacted ++ .fired i nowMs :: newer, ?_, by simp⟩
  rw [around, whole, result, after, scanUpTo, grown]
  simp

theorem overlookedNotFires (h : FirstDueTick before middle i startMs nowMs custom)
    (overlooked : Overlooked i (atTick before middle i startMs).toBook) : ¬Fires before middle i startMs nowMs custom := by
  rintro ⟨newer, grown, member⟩
  have spared : SparedStep i (atTick before middle i startMs) (.tick ⟨.ok, nowMs⟩ custom) := (alwaysSnoc.mp (sparedTo h)).2
  rcases overlooked with down | idle
  · have same : onceTicked before middle i startMs nowMs custom = atTick before middle i startMs := by
      rw [onceTicked, stepRunning h.running]
      simp only [watchdogTimerTick, down, Bool.false_eq_true, if_false]
    rw [same] at grown
    have none : newer = [] := List.self_eq_append_left.mp grown
    rw [none] at member
    cases member
  · have ext := extendsMono (fun _ both => both.2)
      (extendsOnly (stepExtends (atTick before middle i startMs) (.tick ⟨.ok, nowMs⟩ custom)) spared)
    obtain ⟨_, newer', grown', none⟩ := extendsIdle ext idle
    have same : newer = newer' := List.append_cancel_right (grown.symm.trans grown')
    exact none nowMs (same ▸ member)

/- The first tick at or past the deadline fires the watchdog if and only if the manager
was initialized at the start, unless it stops the system for one before it. -/
theorem startSupervisedIffManaged (h : FirstDueTick before middle i startMs nowMs custom) :
    Fires before middle i startMs nowMs custom ↔ (atStart before).watchdogs.managerInitialized = true ∧
      ¬StopsBefore nowMs (onceTicked before middle i startMs nowMs custom) i := by
  by_cases up : (atStart before).watchdogs.managerInitialized = true
  · refine ⟨fun fires => ⟨up, fun stops => ?_⟩, fun both => waitingFires h up both.2⟩
    obtain ⟨newer, grown, member⟩ := fires
    have ticked : onceTicked before middle i startMs nowMs custom =
        scanUpTo nowMs custom (atTick before middle i startMs) n := stepTick h.running (waitsAtTick h up).managed
    rw [ticked] at stops grown
    exact stopsNotFires stops newer grown member
  · have down : (atStart before).watchdogs.managerInitialized = false := by simpa using up
    refine ⟨fun fires => absurd fires (overlookedNotFires h (overlookedAtTick h down)), fun both => absurd both.1 up⟩

end Decided

def createdThenShutDown : List (Event 8) :=
  [.call .managerInitialize, .call (.create true (some ⟨100, .safestate, false⟩) .ok), .call .managerShutdown]

/- Created, shut down, started at 0 with OK: the tick at 150 does not fire it. -/
theorem startAfterShutdownOverlooked : FirstDueTick createdThenShutDown [] 0 0 150 (fun _ => []) ∧
    ¬Fires createdThenShutDown [] 0 0 150 fun _ => [] := by
  have same : (onceTicked createdThenShutDown [] 0 0 150 fun _ => []).log =
      (onceStarted createdThenShutDown 0 0).log := rfl
  constructor
  · refine ⟨by decide, rfl, fun newer grown => ?_, by simp, by decide⟩
    rw [same] at grown
    rw [List.self_eq_append_left.mp grown]
    simp
  · rintro ⟨newer, grown, member⟩
    have none : newer = [] := List.self_eq_append_left.mp (Eq.trans (by rw [same]; rfl) grown)
    rw [none] at member
    cases member

def createdOnce : List (Event 8) :=
  [.call .managerInitialize, .call (.create true (some ⟨100, .safestate, false⟩) .ok)]

theorem startedFires : Fires createdOnce [.tick ⟨.ok, 99⟩ fun _ => []] 0 0 150 fun _ => [] := by
  have starts : FirstDueTick createdOnce [.tick ⟨.ok, 99⟩ fun _ => []] 0 0 150 (fun _ => []) := by
    refine ⟨by decide, rfl, fun newer grown => ?_, fun earlierMs calls member => ?_, by decide⟩
    · have fired : newer = [.fired 0 150] := List.append_cancel_right (Eq.trans grown.symm rfl)
      rw [fired]
      simp [Spares]
    · cases List.mem_singleton.mp member
      decide
  refine (startSupervisedIffManaged starts).mpr ⟨rfl, ?_⟩
  rintro ⟨j, before, _⟩
  exact Nat.not_lt_zero j before

end PlatformRte.Watchdog
