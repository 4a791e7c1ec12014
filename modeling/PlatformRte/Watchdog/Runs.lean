import Mathlib.Logic.Relation
import PlatformRte.Lib.Machine
import PlatformRte.Lib.History
import PlatformRte.Watchdog.Pool

/-! Runs of the watchdog calls. Beside the pool the world keeps a log of what the calls
have done. A custom action may make calls of its own, given with the tick that runs it,
and the levels the watchdog enters are not left again: nothing runs after one. -/
namespace PlatformRte.Watchdog
open Machine

variable {n : Nat}

inductive Call (n : Nat) where
  | managerInitialize
  | managerShutdown
  | create (handleOut : Bool) (config : Option WatchdogConfig) (setup : RteStatus)
  | start (handle : Handle n) (clock : Clock)
  | stop (handle : Handle n)
  | kick (handle : Handle n) (clock : Clock)
  | getStatus (handle : Handle n) (statusOut : Bool) (clock : Clock)
  | destroy (handle : Handle n)
  deriving DecidableEq

/- custom: the calls the custom action of a slot makes when this tick runs it. -/
inductive Event (n : Nat) where
  | call (c : Call n)
  | tick (clock : Clock) (custom : Fin n → List (Call n))

/- Calls that fail or change nothing are not recorded. -/
inductive Record (n : Nat) where
  | initialized
  | shutDown
  | created (i : Fin n) (config : WatchdogConfig)
  | started (i : Fin n) (nowMs : UInt64)
  | kicked (i : Fin n) (nowMs : UInt64)
  | stopped (i : Fin n)
  | destroyed (i : Fin n)
  | fired (i : Fin n) (nowMs : UInt64)
  deriving DecidableEq

/- log: newest first. -/
structure Book (n : Nat) where
  watchdogs : Watchdogs n
  log : List (Record n)

structure World (n : Nat) extends Book n where
  halted : Option SafestateEntry

def powerUp (n : Nat) : World n := ⟨⟨⟨fun _ => zeroSlot, false⟩, []⟩, none⟩

def onSlot (record : Fin n → Record n) (handle : Handle n) (status : RteStatus) : List (Record n) :=
  match handle with
  | .slot i => if status = .ok then [record i] else []
  | .foreign => []

def returns (b : Book n) (result : Watchdogs n × RteStatus) (record : Fin n → Record n) (handle : Handle n) :
    Book n :=
  ⟨result.1, onSlot record handle result.2 ++ b.log⟩

def call (b : Book n) : Call n → Book n
  | .managerInitialize => ⟨watchdogManagerInitialize b.watchdogs,
      if b.watchdogs.managerInitialized then b.log else .initialized :: b.log⟩
  | .managerShutdown => ⟨watchdogManagerShutdown b.watchdogs, .shutDown :: b.log⟩
  | .create handleOut config setup =>
    let result := watchdogCreate b.watchdogs handleOut config setup
    match result.2, config with
    | .ok i, some c => ⟨result.1, .created i c :: b.log⟩
    | _, _ => ⟨result.1, b.log⟩
  | .start handle clock => returns b (watchdogStart b.watchdogs handle clock) (.started · clock.nowMs) handle
  | .stop handle => returns b (watchdogStop b.watchdogs handle) .stopped handle
  | .kick handle clock => returns b (watchdogKick b.watchdogs handle clock) (.kicked · clock.nowMs) handle
  | .getStatus _ _ _ => b
  | .destroy handle => returns b (watchdogDestroy b.watchdogs handle) .destroyed handle

def react (calls : List (Call n)) (w : World n) : Reaction → World n
  | .nothing => w
  | .enter entry => { w with halted := some entry }
  | .runCustomAction => { w with toBook := calls.foldl call w.toBook }

def scan (nowMs : UInt64) (custom : Fin n → List (Call n)) (w : World n) (i : Fin n) : World n :=
  let slot := w.watchdogs.pool i
  if w.halted.isSome then w
  else if isSupervising slot && decide (slot.deadlineMs ≤ nowMs) then
    match watchdogTimeoutHandler w.watchdogs i with
    | (watchdogs, some reaction) => react (custom i) ⟨⟨watchdogs, .fired i nowMs :: w.log⟩, none⟩ reaction
    | (_, none) => w
  else w

def scanUpTo (nowMs : UInt64) (custom : Fin n → List (Call n)) (w : World n) (k : Nat) : World n :=
  ((List.finRange n).take k).foldl (scan nowMs custom) w

def watchdogTimerTick (w : World n) (clock : Clock) (custom : Fin n → List (Call n)) : World n :=
  if w.watchdogs.managerInitialized then
    if clock.status = .ok then scanUpTo clock.nowMs custom w n
    else match firstSupervisingIndex w.watchdogs with
      | some _ => { w with halted := some ⟨.safe, safestateReasonClockFailed⟩ }
      | none => w
  else w

def step (w : World n) (e : Event n) : World n :=
  if w.halted.isSome then w
  else match e with
    | .call c => { w with toBook := call w.toBook c }
    | .tick clock custom => watchdogTimerTick w clock custom

inductive Moves (w : Watchdogs n) : Record n → Watchdogs n → Prop where
  | initialized (down : w.managerInitialized = false) : Moves w .initialized ⟨fun _ => zeroSlot, true⟩
  | shutDown : Moves w .shutDown (watchdogManagerShutdown w)
  | created (i : Fin n) (c : WatchdogConfig) (up : w.managerInitialized = true) (free : (w.pool i).inUse = false)
      (timed : c.timeoutMs ≠ 0) : Moves w (.created i c) (setSlot w i { zeroSlot with inUse := true, config := c })
  | started (i : Fin n) (nowMs : UInt64) (used : (w.pool i).inUse = true) :
      Moves w (.started i nowMs) (setSlot w i (rearmed { w.pool i with active := true, fired := false } nowMs))
  | kicked (i : Fin n) (nowMs : UInt64) (on : isSupervising (w.pool i) = true) :
      Moves w (.kicked i nowMs) (setSlot w i (rearmed { w.pool i with kicks := (w.pool i).kicks + 1 } nowMs))
  | stopped (i : Fin n) (used : (w.pool i).inUse = true) :
      Moves w (.stopped i) (setSlot w i { w.pool i with active := false })
  | destroyed (i : Fin n) (used : (w.pool i).inUse = true) :
      Moves w (.destroyed i) (setSlot w i { w.pool i with active := false, inUse := false })
  | fired (i : Fin n) (nowMs : UInt64) (recoveries : UInt32) (on : isSupervising (w.pool i) = true)
      (due : (w.pool i).deadlineMs ≤ nowMs) :
      Moves w (.fired i nowMs)
        (setSlot w i { w.pool i with fired := true, fires := (w.pool i).fires + 1, recoveries := recoveries })

def Writes (allowed : Record n → Prop) (b b' : Book n) : Prop :=
  ∃ r, allowed r ∧ Moves b.watchdogs r b'.watchdogs ∧ b'.log = r :: b.log

def Extends (allowed : Record n → Prop) : Book n → Book n → Prop := Relation.ReflTransGen (Writes allowed)

def NoFire (r : Record n) : Prop := ∀ i nowMs, r ≠ .fired i nowMs

theorem validSlotSome {w : Watchdogs n} {handle : Handle n} {i : Fin n} (valid : validSlot w handle = some i) :
    handle = .slot i ∧ (w.pool i).inUse = true := by
  cases handle with
  | foreign => cases valid
  | slot j =>
    by_cases used : (w.pool j).inUse = true
    · rw [validSlot, if_pos used] at valid
      cases valid
      exact ⟨rfl, used⟩
    · rw [validSlot, if_neg used] at valid
      cases valid

theorem onSlotFailed {record : Fin n → Record n} {handle : Handle n} {status : RteStatus} (failed : status ≠ .ok) :
    onSlot record handle status = [] := by
  cases handle with
  | foreign => rfl
  | slot i => exact if_neg failed

def Answers (w : Watchdogs n) (record : Fin n → Record n) (handle : Handle n) (result : Watchdogs n × RteStatus) :
    Prop :=
  (result.1 = w ∧ result.2 ≠ .ok) ∨ ∃ i, handle = .slot i ∧ result.2 = .ok ∧ Moves w (record i) result.1

theorem answersFailed {w : Watchdogs n} {record : Fin n → Record n} {handle : Handle n} {status : RteStatus}
    (failed : status ≠ .ok) : Answers w record handle (w, status) := Or.inl ⟨rfl, failed⟩

theorem returnsExtend {b : Book n} {result : Watchdogs n × RteStatus} {record : Fin n → Record n} {handle : Handle n}
    (answers : Answers b.watchdogs record handle result) (quiet : ∀ i, NoFire (record i)) :
    Extends NoFire b (returns b result record handle) := by
  rcases answers with ⟨same, failed⟩ | ⟨i, rfl, ok, moves⟩
  · have unchanged : returns b result record handle = b := by
      rw [returns, onSlotFailed failed, same, List.nil_append]
    rw [unchanged]
    exact .refl
  · refine .single ⟨record i, quiet i, moves, ?_⟩
    rw [returns, onSlot, if_pos ok, List.singleton_append]

theorem startAnswers (w : Watchdogs n) (handle : Handle n) (clock : Clock) :
    Answers w (.started · clock.nowMs) handle (watchdogStart w handle clock) := by
  rw [watchdogStart]
  cases valid : validSlot w handle with
  | none => exact answersFailed (by decide)
  | some i =>
    obtain ⟨named, used⟩ := validSlotSome valid
    by_cases readable : clock.status = .ok
    · simp only [if_pos readable]
      exact Or.inr ⟨i, named, rfl, .started i clock.nowMs used⟩
    · simp only [if_neg readable]
      exact answersFailed readable

theorem kickAnswers (w : Watchdogs n) (handle : Handle n) (clock : Clock) :
    Answers w (.kicked · clock.nowMs) handle (watchdogKick w handle clock) := by
  rw [watchdogKick]
  cases valid : validSlot w handle with
  | none => exact answersFailed (by decide)
  | some i =>
    obtain ⟨named, used⟩ := validSlotSome valid
    by_cases idle : (!(w.pool i).active || (w.pool i).fired) = true
    · simp only [if_pos idle]
      exact answersFailed (by decide)
    · have on : isSupervising (w.pool i) = true := by
        simpa [isSupervising, used] using idle
      by_cases readable : clock.status = .ok
      · simp only [if_neg idle, if_pos readable]
        exact Or.inr ⟨i, named, rfl, .kicked i clock.nowMs on⟩
      · simp only [if_neg idle, if_neg readable]
        exact answersFailed readable

theorem stopAnswers (w : Watchdogs n) (handle : Handle n) :
    Answers w .stopped handle (watchdogStop w handle) := by
  rw [watchdogStop]
  cases valid : validSlot w handle with
  | none => exact answersFailed (by decide)
  | some i =>
    obtain ⟨named, used⟩ := validSlotSome valid
    exact Or.inr ⟨i, named, rfl, .stopped i used⟩

theorem destroyAnswers (w : Watchdogs n) (handle : Handle n) :
    Answers w .destroyed handle (watchdogDestroy w handle) := by
  rw [watchdogDestroy]
  cases valid : validSlot w handle with
  | none => exact answersFailed (by decide)
  | some i =>
    obtain ⟨named, used⟩ := validSlotSome valid
    exact Or.inr ⟨i, named, rfl, .destroyed i used⟩

theorem createCases (w : Watchdogs n) (handleOut : Bool) (config : Option WatchdogConfig) (setup : RteStatus) :
    ((watchdogCreate w handleOut config setup).1 = w ∧
      ∃ failed, (watchdogCreate w handleOut config setup).2 = .error failed) ∨
      ∃ i c, config = some c ∧ (watchdogCreate w handleOut config setup).2 = .ok i ∧
        Moves w (.created i c) (watchdogCreate w handleOut config setup).1 := by
  cases config with
  | none => exact Or.inl ⟨rfl, _, rfl⟩
  | some c =>
    simp only [watchdogCreate]
    split_ifs with malformed unhandled down locked
    · exact Or.inl ⟨rfl, _, rfl⟩
    · exact Or.inl ⟨rfl, _, rfl⟩
    · exact Or.inl ⟨rfl, _, rfl⟩
    · exact Or.inl ⟨rfl, _, rfl⟩
    · cases found : (List.finRange n).find? fun i => !(w.pool i).inUse with
      | none => exact Or.inl ⟨rfl, _, rfl⟩
      | some i =>
        have free : (w.pool i).inUse = false := by simpa using List.find?_some found
        have timed : c.timeoutMs ≠ 0 := by
          intro zero
          simp [zero] at malformed
        exact Or.inr ⟨i, c, rfl, rfl, .created i c (by simpa using down) free timed⟩

theorem callExtends (b : Book n) (c : Call n) : Extends NoFire b (call b c) := by
  cases c with
  | managerInitialize =>
    by_cases up : b.watchdogs.managerInitialized = true
    · simp only [call, watchdogManagerInitialize, if_pos up]
      exact .refl
    · simp only [call, watchdogManagerInitialize, if_neg up]
      exact .single ⟨.initialized, by simp [NoFire], .initialized (by simpa using up), rfl⟩
  | managerShutdown => exact .single ⟨.shutDown, by simp [NoFire], .shutDown, rfl⟩
  | create handleOut config setup =>
    rcases createCases b.watchdogs handleOut config setup with ⟨same, failed, status⟩ | ⟨i, c, rfl, ok, moves⟩
    · simp only [call, status, same]
      exact .refl
    · simp only [call, ok]
      exact .single ⟨.created i c, by simp [NoFire], moves, rfl⟩
  | start handle clock => exact returnsExtend (startAnswers b.watchdogs handle clock) (by simp [NoFire])
  | stop handle => exact returnsExtend (stopAnswers b.watchdogs handle) (by simp [NoFire])
  | kick handle clock => exact returnsExtend (kickAnswers b.watchdogs handle clock) (by simp [NoFire])
  | getStatus handle statusOut clock => exact .refl
  | destroy handle => exact returnsExtend (destroyAnswers b.watchdogs handle) (by simp [NoFire])

theorem callsExtend (b : Book n) (calls : List (Call n)) : Extends NoFire b (calls.foldl call b) := by
  induction calls generalizing b with
  | nil => exact .refl
  | cons c rest ih => exact (callExtends b c).trans (ih (call b c))

theorem extendsMono {allowed more : Record n → Prop} (imp : ∀ r, allowed r → more r) {b b' : Book n}
    (ext : Extends allowed b b') : Extends more b b' := by
  induction ext with
  | refl => exact .refl
  | tail before last ih =>
    obtain ⟨r, ok, moves, grown⟩ := last
    exact ih.tail ⟨r, imp r ok, moves, grown⟩

theorem extendsGrows {allowed : Record n → Prop} {b b' : Book n} (ext : Extends allowed b b') :
    ∃ newer, b'.log = newer ++ b.log ∧ ∀ r ∈ newer, allowed r := by
  induction ext with
  | refl => exact ⟨[], rfl, by simp⟩
  | tail before last ih =>
    obtain ⟨newer, grown, all⟩ := ih
    obtain ⟨r, ok, moves, longer⟩ := last
    refine ⟨r :: newer, by rw [longer, grown, List.cons_append], ?_⟩
    intro other member
    rcases List.mem_cons.mp member with rfl | rest
    · exact ok
    · exact all other rest

theorem extendsOnly {allowed only : Record n → Prop} {b b' : Book n} (ext : Extends allowed b b')
    (all : ∀ newer, b'.log = newer ++ b.log → ∀ r ∈ newer, only r) :
    Extends (fun r => allowed r ∧ only r) b b' := by
  induction ext with
  | refl => exact .refl
  | tail before last ih =>
    obtain ⟨r, ok, moves, longer⟩ := last
    obtain ⟨newer, grown, _⟩ := extendsGrows before
    have here := all (r :: newer) (by rw [longer, grown, List.cons_append])
    refine (ih fun newer' grown' other member => ?_).tail ⟨r, ⟨ok, here r List.mem_cons_self⟩, moves, longer⟩
    have same : newer' = newer := List.append_cancel_right (grown'.symm.trans grown)
    exact here other (List.mem_cons_of_mem _ (same ▸ member))

theorem extendsKeeps {allowed : Record n → Prop} {I : Book n → Prop}
    (keep : ∀ b w r, allowed r → I b → Moves b.watchdogs r w → I ⟨w, r :: b.log⟩) {b b' : Book n}
    (ext : Extends allowed b b') (inv : I b) : I b' := by
  induction ext with
  | refl => exact inv
  | tail before last ih =>
    obtain ⟨r, ok, moves, longer⟩ := last
    have next := keep _ _ r ok ih moves
    rw [← longer] at next
    exact next

section Scans
variable {nowMs : UInt64} {custom : Fin n → List (Call n)} {w : World n} {i : Fin n}

theorem handlerOn {w : Watchdogs n} (on : isSupervising (w.pool i) = true) : ∃ recoveries,
    watchdogTimeoutHandler w i =
      (setSlot w i { w.pool i with fired := true, fires := (w.pool i).fires + 1, recoveries := recoveries },
        some (reaction (w.pool i).config)) := by
  obtain ⟨used, active, waiting⟩ := supervisingIff.mp on
  refine ⟨if recovers (w.pool i).config.action then (w.pool i).recoveries + 1 else (w.pool i).recoveries, ?_⟩
  simp [watchdogTimeoutHandler, used, active, waiting]

theorem scanStopped (stopped : w.halted.isSome = true) : scan nowMs custom w i = w := if_pos stopped

theorem scanEarly (early : ¬(isSupervising (w.watchdogs.pool i) = true ∧ (w.watchdogs.pool i).deadlineMs ≤ nowMs)) :
    scan nowMs custom w i = w := by
  by_cases stopped : w.halted.isSome = true
  · exact scanStopped stopped
  · rw [scan, if_neg stopped, if_neg (by simpa using early)]

variable (custom) in
theorem scanDue (running : w.halted = none) (on : isSupervising (w.watchdogs.pool i) = true)
    (due : (w.watchdogs.pool i).deadlineMs ≤ nowMs) :
    ∃ fired, Moves w.watchdogs (.fired i nowMs) fired ∧ scan nowMs custom w i =
      react (custom i) ⟨⟨fired, .fired i nowMs :: w.log⟩, none⟩ (reaction (w.watchdogs.pool i).config) := by
  obtain ⟨recoveries, handled⟩ := handlerOn on
  refine ⟨_, .fired i nowMs recoveries on due, ?_⟩
  rw [scan, if_neg (by simp [running]), if_pos (by simp [on, due]), handled]

def FiresAt (slots : List (Fin n)) (nowMs : UInt64) (r : Record n) : Prop :=
  ∀ i other, r = .fired i other → i ∈ slots ∧ other = nowMs

theorem noFireAny {slots : List (Fin n)} (r : Record n) (quiet : NoFire r) : FiresAt slots nowMs r :=
  fun i other same => absurd same (quiet i other)

theorem reactExtends (calls : List (Call n)) (w : World n) (answer : Reaction) :
    Extends NoFire w.toBook (react calls w answer).toBook := by
  cases answer with
  | nothing => exact .refl
  | enter entry => exact .refl
  | runCustomAction => exact callsExtend w.toBook calls

theorem scanExtends (nowMs : UInt64) (custom : Fin n → List (Call n)) (w : World n) (i : Fin n) :
    Extends (FiresAt [i] nowMs) w.toBook (scan nowMs custom w i).toBook := by
  by_cases stopped : w.halted.isSome = true
  · rw [scanStopped stopped]
    exact .refl
  · have running : w.halted = none := by simpa using stopped
    by_cases due : isSupervising (w.watchdogs.pool i) = true ∧ (w.watchdogs.pool i).deadlineMs ≤ nowMs
    · obtain ⟨fired, moves, result⟩ := scanDue custom running due.1 due.2
      rw [result]
      have first : Extends (FiresAt [i] nowMs) w.toBook ⟨fired, .fired i nowMs :: w.log⟩ := by
        refine .single ⟨.fired i nowMs, fun j other same => ?_, moves, rfl⟩
        cases same
        exact ⟨List.mem_singleton_self i, rfl⟩
      exact first.trans (extendsMono noFireAny (reactExtends (custom i) ⟨⟨fired, _⟩, none⟩ _))
    · rw [scanEarly due]
      exact .refl

theorem scansExtend (nowMs : UInt64) (custom : Fin n → List (Call n)) (slots : List (Fin n)) (w : World n) :
    Extends (FiresAt slots nowMs) w.toBook (slots.foldl (scan nowMs custom) w).toBook := by
  induction slots generalizing w with
  | nil => exact .refl
  | cons i rest ih =>
    have first : Extends (FiresAt (i :: rest) nowMs) w.toBook (scan nowMs custom w i).toBook := by
      refine extendsMono (fun r at_ j other same => ?_) (scanExtends nowMs custom w i)
      obtain ⟨here, now⟩ := at_ j other same
      exact ⟨List.mem_cons.mpr (Or.inl (List.mem_singleton.mp here)), now⟩
    refine first.trans (extendsMono (fun r at_ j other same => ?_) (ih (scan nowMs custom w i)))
    obtain ⟨there, now⟩ := at_ j other same
    exact ⟨List.mem_cons_of_mem _ there, now⟩

theorem scansStopped (slots : List (Fin n)) (stopped : w.halted.isSome = true) :
    slots.foldl (scan nowMs custom) w = w := by
  induction slots with
  | nil => rfl
  | cons i rest ih => rw [List.foldl_cons, scanStopped stopped, ih]

theorem reactionEnters {config : WatchdogConfig} {entry : SafestateEntry} (enters : reaction config = .enter entry) :
    ∃ level, (level = .safe ∨ level = .reboot) ∧ entry = ⟨level, safestateReasonUnspecified⟩ := by
  rw [reaction] at enters
  cases action : config.action with
  | safestate =>
    rw [action] at enters
    cases enters
    exact ⟨.safe, Or.inl rfl, rfl⟩
  | reboot =>
    rw [action] at enters
    cases enters
    exact ⟨.reboot, Or.inr rfl, rfl⟩
  | _ =>
    simp only [action] at enters
    first
      | cases enters
      | split_ifs at enters

theorem scansStop (nowMs : UInt64) (custom : Fin n → List (Call n)) (slots : List (Fin n)) {w : World n}
    (running : w.halted = none)
    (stopped : (slots.foldl (scan nowMs custom) w).halted ≠ none) :
    ∃ j ∈ slots, (slots.foldl (scan nowMs custom) w).log.head? = some (.fired j nowMs) ∧
      ∃ level, (level = .safe ∨ level = .reboot) ∧
        (slots.foldl (scan nowMs custom) w).halted = some ⟨level, safestateReasonUnspecified⟩ := by
  induction slots generalizing w with
  | nil => exact absurd running stopped
  | cons j rest ih =>
    rw [List.foldl_cons] at stopped ⊢
    by_cases due : isSupervising (w.watchdogs.pool j) = true ∧ (w.watchdogs.pool j).deadlineMs ≤ nowMs
    · obtain ⟨fired, moves, result⟩ := scanDue custom running due.1 due.2
      cases answer : reaction (w.watchdogs.pool j).config with
      | enter entry =>
        rw [answer] at result
        obtain ⟨level, entered, rfl⟩ := reactionEnters answer
        rw [result, scansStopped rest (by rfl)]
        exact ⟨j, List.mem_cons_self, rfl, level, entered, rfl⟩
      | _ =>
        rw [answer] at result
        have still : (scan nowMs custom w j).halted = none := by
          rw [result]
          rfl
        obtain ⟨k, member, last⟩ := ih still stopped
        exact ⟨k, List.mem_cons_of_mem _ member, last⟩
    · rw [scanEarly due] at stopped ⊢
      obtain ⟨k, member, last⟩ := ih running stopped
      exact ⟨k, List.mem_cons_of_mem _ member, last⟩

theorem scanAround (nowMs : UInt64) (custom : Fin n → List (Call n)) (w : World n) (i : Fin n) :
    scanUpTo nowMs custom w n = ((List.finRange n).drop (i + 1)).foldl (scan nowMs custom)
      (scan nowMs custom (scanUpTo nowMs custom w i) i) := by
  have whole : (List.finRange n).take n = (List.finRange n).take i ++ i :: (List.finRange n).drop (i + 1) := by
    rw [List.take_of_length_le (by simp)]
    have split := List.take_append_drop i.val (List.finRange n)
    rw [List.drop_eq_getElem_cons (by simp)] at split
    simpa using split.symm
  rw [scanUpTo, whole, List.foldl_append, List.foldl_cons, scanUpTo]

theorem memTake {i j : Fin n} : j ∈ (List.finRange n).take i ↔ j < i := by
  rw [List.mem_take_iff_getElem]
  constructor
  · rintro ⟨k, small, here⟩
    have value : j.val = k := by
      rw [← here]
      simp
    exact Fin.lt_def.mpr (by omega)
  · intro less
    exact ⟨j, by simpa using less, by simp⟩

end Scans

theorem stepStopped {w : World n} {e : Event n} (stopped : w.halted.isSome = true) : step w e = w := by
  simp only [step, if_pos stopped]

theorem stepRunning {w : World n} {e : Event n} (running : w.halted = none) : step w e = match e with
    | .call c => { w with toBook := call w.toBook c }
    | .tick clock custom => watchdogTimerTick w clock custom := by
  simp only [step, running, Option.isSome_none, Bool.false_eq_true, if_false]

theorem stepTick {w : World n} {nowMs : UInt64} {custom : Fin n → List (Call n)} (running : w.halted = none)
    (up : w.watchdogs.managerInitialized = true) :
    step w (.tick ⟨.ok, nowMs⟩ custom) = scanUpTo nowMs custom w n := by
  rw [stepRunning running]
  simp only [watchdogTimerTick, if_pos up, if_true]

def Allowed (e : Event n) (r : Record n) : Prop :=
  ∀ i nowMs, r = .fired i nowMs → ∃ custom, e = .tick ⟨.ok, nowMs⟩ custom

theorem stepExtends (w : World n) (e : Event n) : Extends (Allowed e) w.toBook (step w e).toBook := by
  by_cases stopped : w.halted.isSome = true
  · rw [stepStopped stopped]
    exact .refl
  · rw [stepRunning (by simpa using stopped)]
    cases e with
    | call c => exact extendsMono (fun r quiet i nowMs same => absurd same (quiet i nowMs)) (callExtends w.toBook c)
    | tick clock custom =>
      simp only [watchdogTimerTick]
      split_ifs with up readable
      · obtain ⟨status, nowMs⟩ := clock
        cases readable
        refine extendsMono (fun r at_ i other same => ?_) (scansExtend nowMs custom _ w)
        rw [(at_ i other same).2]
        exact ⟨custom, rfl⟩
      · cases firstSupervisingIndex w.watchdogs with
        | none => exact .refl
        | some i => exact .refl
      · exact .refl

theorem runExtends (events : List (Event n)) (w : World n) :
    Extends (fun _ => True) w.toBook (run step w events).toBook := by
  induction events generalizing w with
  | nil => exact .refl
  | cons e rest ih => exact (extendsMono (fun _ _ => True.intro) (stepExtends w e)).trans (ih (step w e))

end PlatformRte.Watchdog
