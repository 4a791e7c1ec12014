import PlatformRte.Dual.Exchange
import PlatformRte.Lib.Loop

/-! The wait of a send for the acknowledgement of one link. The stall counter stands for
the polls without progress of the clock, but it is kept against the start of the wait. -/
namespace PlatformRte.Dual.Channel
open Bytes Checksum Loop

structure Poll where
  status : RteStatus
  matched : Option Matched
  nowMs : UInt64

def waitRound (ackTimeoutMs : UInt32) (w : AckWait) (poll : Poll) : Option AckWait :=
  match judgePoll w ackTimeoutMs poll.status poll.matched poll.nowMs with
  | .again next => if next.goesOn then some next else none
  | _ => none

def beginWait (ackTimeoutMs : UInt32) (startMs : UInt64) (sentSequence : UInt32) : Option AckWait :=
  let w : AckWait := ⟨sentSequence, startMs, ackTimeoutMs, 0⟩
  if w.goesOn then some w else none

section Wait
variable (ackTimeoutMs : UInt32) (startMs : UInt64) (sentSequence : UInt32) (polls : Nat → Poll)

def waiting (n : Nat) : Option AckWait :=
  entering (waitRound ackTimeoutMs) (beginWait ackTimeoutMs startMs sentSequence) polls n

def readingBefore : Nat → UInt64
  | 0 => startMs
  | n + 1 => (polls n).nowMs

def Decides (n : Nat) : Prop :=
  ((polls n).status = .ok ∧ (polls n).matched = some (.ack sentSequence)) ∨ (polls n).status = .hardwareFault

def NoProgress (n : Nat) : Prop :=
  (waiting ackTimeoutMs startMs sentSequence polls n).isSome = true ∧ ¬Decides sentSequence polls n ∧
    (polls n).nowMs ≤ readingBefore startMs polls n

structure WaitBounded : Prop where
  ends : ∃ n, waiting ackTimeoutMs startMs sentSequence polls n = none
  stalls : ∀ n count, (∀ m < count, NoProgress ackTimeoutMs startMs sentSequence polls (n + m)) →
    count ≤ stallPollLimit

def TimeIsUp (n : Nat) : Prop := startMs.toNat + ackTimeoutMs.toNat ≤ (polls n).nowMs.toNat

def NoTimePassed (n : Nat) : Prop :=
  stallPollLimit ≤ n + 1 ∧ ∀ m ≤ n, n < m + stallPollLimit → (polls m).nowMs ≤ startMs

def Leaves (n : Nat) : Prop :=
  Decides sentSequence polls n ∨ TimeIsUp ackTimeoutMs startMs polls n ∨ NoTimePassed startMs polls n

/- Some poll leaves the wait, and a clock that stops past the start moves again within the
next 32 polls, unless one of them decides. -/
structure ClockMoves : Prop where
  leaves : ackTimeoutMs = 0 ∨ ∃ n, Leaves ackTimeoutMs startMs sentSequence polls n
  moves : ∀ n, (∀ m ≤ n, ¬Leaves ackTimeoutMs startMs sentSequence polls m) → startMs < (polls n).nowMs →
    (polls n).nowMs ≤ readingBefore startMs polls n →
      ∃ m, n < m ∧ m ≤ n + stallPollLimit ∧
        (Decides sentSequence polls m ∨ readingBefore startMs polls m < (polls m).nowMs)

end Wait

section Rounds
variable {ackTimeoutMs : UInt32} {startMs : UInt64} {sentSequence : UInt32} {polls : Nat → Poll}

structure Waited (ackTimeoutMs : UInt32) (startMs : UInt64) (sentSequence : UInt32) (polls : Nat → Poll) (n : Nat)
    (w : AckWait) : Prop where
  budget : 0 < ackTimeoutMs
  sequence : w.sentSequence = sentSequence
  start : w.startMs = startMs
  left : 0 < w.remaining
  few : w.stallPolls < stallPollLimit
  since : ∀ m < n, n ≤ m + w.stallPolls → (polls m).nowMs ≤ startMs
  before : w.stallPolls = n ∨ ∃ m, n = m + w.stallPolls + 1 ∧ startMs < (polls m).nowMs

theorem waitedBegin (w : AckWait) (begun : beginWait ackTimeoutMs startMs sentSequence = some w) :
    Waited ackTimeoutMs startMs sentSequence polls 0 w := by
  unfold beginWait at begun
  dsimp only at begun
  split at begun
  · rename_i goes
    cases begun
    have on := of_decide_eq_true goes
    exact ⟨on.1, rfl, rfl, on.1, on.2, fun m before => absurd before (Nat.not_lt_zero m), Or.inl rfl⟩
  · cases begun

theorem budgetLeft {nowMs : UInt64} (past : startMs < nowMs) :
    ackTimeoutMs.toUInt64 ≤ nowMs - startMs ↔ startMs.toNat + ackTimeoutMs.toNat ≤ nowMs.toNat := by
  rw [UInt64.lt_iff_toNat_lt] at past
  rw [UInt64.le_iff_toNat_le, UInt64.toNat_sub_of_le _ _ (UInt64.le_iff_toNat_le.mpr (Nat.le_of_lt past)),
    UInt32.toNat_toUInt64]
  omega

theorem budgetPositive {elapsed : UInt64} (within : ¬ackTimeoutMs.toUInt64 ≤ elapsed) :
    0 < ackTimeoutMs - elapsed.toUInt32 := by
  rw [UInt64.le_iff_toNat_le, UInt32.toNat_toUInt64, Nat.not_le] at within
  have bound := ackTimeoutMs.toNat_lt
  have small : elapsed.toUInt32.toNat = elapsed.toNat := by
    rw [UInt64.toNat_toUInt32]
    exact Nat.mod_eq_of_lt (by omega)
  rw [UInt32.lt_iff_toNat_lt, UInt32.toNat_sub_of_le _ _ (UInt32.le_iff_toNat_le.mpr (by omega)), small]
  simp only [UInt32.toNat_zero]
  omega

theorem roundUndecided {w : AckWait} {n : Nat} (sequence : w.sentSequence = sentSequence)
    (undecided : ¬Decides sentSequence polls n) : waitRound ackTimeoutMs w (polls n) =
      if (w.elapse ackTimeoutMs (polls n).nowMs).goesOn then some (w.elapse ackTimeoutMs (polls n).nowMs)
      else none := by
  rw [Decides, not_or] at undecided
  rw [waitRound, judgePoll, sequence, if_neg undecided.1, if_neg undecided.2]

theorem roundDecided {w : AckWait} {n : Nat} (sequence : w.sentSequence = sentSequence)
    (decided : Decides sentSequence polls n) : waitRound ackTimeoutMs w (polls n) = none := by
  rw [waitRound, judgePoll, sequence]
  rcases decided with acked | broken
  · rw [if_pos acked]
  · rw [if_neg (by simp [broken]), if_pos broken]

theorem pastGoesOn {w : AckWait} {n : Nat} (waited : Waited ackTimeoutMs startMs sentSequence polls n w)
    (past : startMs < (polls n).nowMs) :
    (w.elapse ackTimeoutMs (polls n).nowMs).goesOn = true ↔ ¬TimeIsUp ackTimeoutMs startMs polls n := by
  rw [TimeIsUp, ← budgetLeft past, AckWait.elapse, waited.start, if_pos past, AckWait.goesOn, decide_eq_true_iff]
  dsimp only
  split
  · rename_i up
    simp [up]
  · rename_i within
    exact ⟨fun _ => within, fun _ => ⟨budgetPositive within, by decide⟩⟩

theorem stillGoesOn {w : AckWait} {n : Nat} (waited : Waited ackTimeoutMs startMs sentSequence polls n w)
    (still : ¬startMs < (polls n).nowMs) :
    (w.elapse ackTimeoutMs (polls n).nowMs).goesOn = true ↔ ¬NoTimePassed startMs polls n := by
  rw [AckWait.elapse, waited.start, if_neg still, AckWait.goesOn, decide_eq_true_iff]
  simp only [waited.left, true_and]
  constructor
  · rintro few ⟨enough, none_⟩
    rcases waited.before with all | ⟨m, last, past⟩
    · omega
    · exact absurd past (UInt64.not_lt.mpr (none_ m (by omega) (by omega)))
  · intro passed
    by_contra many
    refine passed ⟨?_, fun m upTo recent => ?_⟩
    · rcases waited.before with all | ⟨m, last, _⟩ <;> omega
    · rcases Nat.lt_or_eq_of_le upTo with earlier | rfl
      · exact waited.since m earlier (by omega)
      · exact UInt64.not_lt.mp still

theorem roundStays {w : AckWait} {n : Nat} (waited : Waited ackTimeoutMs startMs sentSequence polls n w) :
    (waitRound ackTimeoutMs w (polls n)).isSome = true ↔ ¬Leaves ackTimeoutMs startMs sentSequence polls n := by
  by_cases decided : Decides sentSequence polls n
  · simp [roundDecided waited.sequence decided, Leaves, decided]
  rw [roundUndecided waited.sequence decided, Leaves, or_iff_right decided]
  have some_ : (if (w.elapse ackTimeoutMs (polls n).nowMs).goesOn then some (w.elapse ackTimeoutMs (polls n).nowMs)
      else none).isSome = true ↔ (w.elapse ackTimeoutMs (polls n).nowMs).goesOn = true := by
    split <;> simp [*]
  rw [some_]
  by_cases past : startMs < (polls n).nowMs
  · have passed : ¬NoTimePassed startMs polls n :=
      fun none_ => UInt64.not_lt.mpr (none_.2 n (Nat.le_refl n) (by simp [stallPollLimit])) past
    rw [pastGoesOn waited past, or_iff_left passed]
  · have within : ¬TimeIsUp ackTimeoutMs startMs polls n := by
      intro up
      have budget := UInt32.lt_iff_toNat_lt.mp waited.budget
      rw [UInt64.lt_iff_toNat_lt] at past
      rw [UInt32.toNat_zero] at budget
      exact past (Nat.lt_of_lt_of_le (Nat.lt_add_of_pos_right budget) up)
    rw [stillGoesOn waited past, or_iff_right within]

theorem roundKeeps {w next : AckWait} {n : Nat} (waited : Waited ackTimeoutMs startMs sentSequence polls n w)
    (round : waitRound ackTimeoutMs w (polls n) = some next) :
    Waited ackTimeoutMs startMs sentSequence polls (n + 1) next := by
  by_cases decided : Decides sentSequence polls n
  · rw [roundDecided waited.sequence decided] at round
    cases round
  rw [roundUndecided waited.sequence decided] at round
  split at round
  · rename_i goes
    cases round
    have on := of_decide_eq_true goes
    by_cases past : startMs < (polls n).nowMs
    · rw [AckWait.elapse, waited.start, if_pos past] at on ⊢
      refine ⟨waited.budget, waited.sequence, rfl, on.1, on.2, ?_, Or.inr ⟨n, rfl, past⟩⟩
      exact fun m before recent => absurd (Nat.lt_of_lt_of_le before recent) (Nat.lt_irrefl m)
    · rw [AckWait.elapse, waited.start, if_neg past] at on ⊢
      refine ⟨waited.budget, waited.sequence, rfl, on.1, on.2, fun m before recent => ?_, ?_⟩
      · rcases Nat.lt_succ_iff_lt_or_eq.mp before with earlier | rfl
        · exact waited.since m earlier (by simp only at recent; omega)
        · exact UInt64.not_lt.mp past
      · rcases waited.before with all | ⟨m, last, beyond⟩
        · exact Or.inl (congrArg (· + 1) all)
        · exact Or.inr ⟨m, by simp only; omega, beyond⟩
  · cases round

theorem waitingWaited {n : Nat} {w : AckWait} (begun : waiting ackTimeoutMs startMs sentSequence polls n = some w) :
    Waited ackTimeoutMs startMs sentSequence polls n w :=
  enteringKeeps (P := Waited ackTimeoutMs startMs sentSequence polls) waitedBegin
    (fun _ _ _ waited round => roundKeeps waited round) n w begun

theorem waitingStays (n : Nat) (w : AckWait) (begun : waiting ackTimeoutMs startMs sentSequence polls n = some w) :
    (waitRound ackTimeoutMs w (polls n)).isSome = true ↔ ¬Leaves ackTimeoutMs startMs sentSequence polls n :=
  roundStays (waitingWaited begun)

theorem waitingIff (n : Nat) : (waiting ackTimeoutMs startMs sentSequence polls n).isSome = true ↔
    0 < ackTimeoutMs ∧ ∀ m < n, ¬Leaves ackTimeoutMs startMs sentSequence polls m := by
  have begun : (beginWait ackTimeoutMs startMs sentSequence).isSome = true ↔ 0 < ackTimeoutMs := by
    simp [beginWait, AckWait.goesOn, stallPollLimit]
  rw [← begun]
  exact enteringIff waitingStays n

theorem waitEndsIff : (∃ n, waiting ackTimeoutMs startMs sentSequence polls n = none) ↔
    ackTimeoutMs = 0 ∨ ∃ n, Leaves ackTimeoutMs startMs sentSequence polls n := by
  have begun : beginWait ackTimeoutMs startMs sentSequence = none ↔ ackTimeoutMs = 0 := by
    simp [beginWait, AckWait.goesOn, stallPollLimit]
  rw [← begun]
  exact endsIff waitingStays

theorem readingsFall {n count : Nat}
    (still : ∀ m < count, (polls (n + m + 1)).nowMs ≤ readingBefore startMs polls (n + m + 1)) :
    ∀ m ≤ count, (polls (n + m)).nowMs ≤ (polls n).nowMs := by
  intro m
  induction m with
  | zero => exact fun _ => UInt64.le_refl _
  | succ m ih => exact fun upTo => UInt64.le_trans (still m upTo) (ih (Nat.le_of_succ_le upTo))

theorem stoppedUnnoticed {n count : Nat} (on : ∀ m ≤ n, ¬Leaves ackTimeoutMs startMs sentSequence polls m)
    (past : startMs < (polls n).nowMs) (few : count ≤ stallPollLimit)
    (stopped : ∀ m < count, ¬Decides sentSequence polls (n + m + 1) ∧
      (polls (n + m + 1)).nowMs ≤ readingBefore startMs polls (n + m + 1)) :
    (waiting ackTimeoutMs startMs sentSequence polls (n + count)).isSome = true := by
  have here := on n (Nat.le_refl n)
  rw [Leaves, not_or, not_or] at here
  have fall := readingsFall fun m less => (stopped m less).2
  refine (waitingIff _).mpr ⟨?_, fun m less => ?_⟩
  · have within := here.2.1
    rw [TimeIsUp] at within
    rw [UInt64.lt_iff_toNat_lt] at past
    rw [UInt32.lt_iff_toNat_lt, UInt32.toNat_zero]
    omega
  · rcases Nat.lt_or_ge n m with later | upTo
    · obtain ⟨k, rfl⟩ := Nat.exists_eq_add_of_lt later
      rw [Leaves, not_or, not_or]
      refine ⟨(stopped k (by omega)).1, fun up => here.2.1 ?_, fun none_ => ?_⟩
      · have low := UInt64.le_iff_toNat_le.mp (fall (k + 1) (by omega))
        exact Nat.le_trans up low
      · exact UInt64.not_lt.mpr (none_.2 n (by omega) (by omega)) past
    · exact on m upTo

end Rounds

/- The wait ends, and no more than 32 polls in a row go without progress of the clock,
exactly if some poll leaves it and no stop of the clock past the start lasts 33 polls. -/
theorem waitBoundedIff (ackTimeoutMs : UInt32) (startMs : UInt64) (sentSequence : UInt32) (polls : Nat → Poll) :
    WaitBounded ackTimeoutMs startMs sentSequence polls ↔ ClockMoves ackTimeoutMs startMs sentSequence polls := by
  constructor
  · rintro ⟨ends, stalls⟩
    refine ⟨waitEndsIff.mp ends, fun n on past still => ?_⟩
    by_contra stuck
    push Not at stuck
    have stopped : ∀ m < stallPollLimit, ¬Decides sentSequence polls (n + m + 1) ∧
        (polls (n + m + 1)).nowMs ≤ readingBefore startMs polls (n + m + 1) := by
      intro m less
      obtain ⟨undecided, low⟩ := stuck (n + m + 1) (by omega) (by omega)
      exact ⟨undecided, UInt64.not_lt.mp low⟩
    refine Nat.not_succ_le_self stallPollLimit (stalls n (stallPollLimit + 1) fun m less => ?_)
    have made := stoppedUnnoticed on past (Nat.le_of_lt_succ less) fun k before =>
      stopped k (Nat.lt_of_lt_of_le before (Nat.le_of_lt_succ less))
    cases m with
    | zero => exact ⟨made, fun decided => on n (Nat.le_refl n) (Or.inl decided), still⟩
    | succ m => exact ⟨made, stopped m (Nat.lt_of_succ_lt_succ less)⟩
  · rintro ⟨leaves, moves⟩
    refine ⟨waitEndsIff.mpr leaves, fun n count all => ?_⟩
    by_contra many
    rw [Nat.not_le] at many
    have on := ((waitingIff _).mp (all stallPollLimit many).1).2
    have fall := readingsFall fun m (less : m < stallPollLimit) => (all (m + 1) (Nat.lt_of_le_of_lt less many)).2.2
    have past : startMs < (polls n).nowMs := by
      by_contra early
      rw [UInt64.not_lt] at early
      -- the counter would have ended the wait one poll before
      refine on (n + 31) (by simp [stallPollLimit])
        (Or.inr (Or.inr ⟨by simp [stallPollLimit], fun m upTo recent => ?_⟩))
      obtain ⟨k, rfl⟩ := Nat.exists_eq_add_of_le (show n ≤ m by simp only [stallPollLimit] at recent; omega)
      exact UInt64.le_trans (fall k (by simp only [stallPollLimit]; omega)) early
    obtain ⟨m, later, soon, ends⟩ := moves n (fun m upTo => on m (by simp only [stallPollLimit]; omega)) past
      (all 0 (Nat.lt_of_le_of_lt (Nat.zero_le _) many)).2.2
    obtain ⟨k, rfl⟩ := Nat.exists_eq_add_of_le (Nat.le_of_lt later)
    obtain ⟨_, undecided, low⟩ := all k (by omega)
    rcases ends with decided | moved
    · exact undecided decided
    · exact UInt64.not_lt.mpr low moved

def stoppedClock : Nat → Poll := fun _ => ⟨.timeout, none, 1⟩

theorem stoppedClockSpins : (∀ n, (waiting 100 0 0 stoppedClock n).isSome = true) ∧
    ¬WaitBounded 100 0 0 stoppedClock := by
  have spins : ∀ n, (waiting 100 0 0 stoppedClock n).isSome = true := by
    refine fun n => (waitingIff n).mpr ⟨by decide, fun m _ => ?_⟩
    rintro (decided | up | ⟨_, none_⟩)
    · simp [Decides, stoppedClock] at decided
    · simp [TimeIsUp, stoppedClock] at up
    · have early : (1 : UInt64) ≤ 0 := none_ m (Nat.le_refl m) (by simp [stallPollLimit])
      exact absurd early (by decide)
  refine ⟨spins, fun bounded => ?_⟩
  obtain ⟨n, ended⟩ := bounded.ends
  have on := spins n
  rw [ended] at on
  cases on

structure LinkWait where
  channel : DualChannel
  manager : ChecksumManager
  wait : AckWait

def Progress.stays (progress : Progress) : Option LinkWait :=
  match progress.next with
  | .inl (.exchange _ _ _ _ _ (some w)) => some ⟨progress.channel, progress.manager, w⟩
  | _ => none

section Link
variable (payload : Option Bytes) (frame : Bytes) (link ackCount : Nat) (hardFault : Bool)

def beginLink (channel : DualChannel) (m : ChecksumManager) (answer : Answer) : Option LinkWait :=
  (advance channel m (.exchange payload frame link ackCount hardFault none) answer).stays

def linkRound (s : LinkWait) (answer : Answer) : Option LinkWait :=
  (advance s.channel s.manager (.exchange payload frame link ackCount hardFault (some s.wait)) answer).stays

def LinkWait.poll (s : LinkWait) (answer : Answer) : Poll :=
  let done := pollLinkOnce s.channel s.manager link answer
  ⟨done.status, done.matched, answer.nowMs⟩

structure Stands (ackTimeoutMs : UInt32) (s : LinkWait) (w : AckWait) : Prop where
  wait : s.wait = w
  timeout : s.channel.ackTimeoutMs = ackTimeoutMs
  inside : link < s.channel.linkCount

theorem beginLinkStands {channel : DualChannel} {m : ChecksumManager} {answer : Answer}
    (inside : link < channel.linkCount) (sent : (sendOnLink channel m link frame answer).status = .ok) :
    Option.Rel (Stands link channel.ackTimeoutMs) (beginLink payload frame link ackCount hardFault channel m answer)
      (beginWait channel.ackTimeoutMs answer.nowMs (channel.links link).nextSequence) := by
  have same := (sendOnLinkPosts channel m link frame answer).1
  simp only [beginLink, Progress.stays, advance, nextAction, if_pos inside, perform, conclude, settle, sent, true_and,
    same.timeout, beginWait]
  have number : (sendOnLink channel m link frame answer).sequence = (channel.links link).nextSequence := rfl
  rw [number]
  by_cases goes : (⟨(channel.links link).nextSequence, answer.nowMs, channel.ackTimeoutMs, 0⟩ : AckWait).goesOn = true
  · rw [if_pos goes, if_pos goes]
    exact .some ⟨rfl, same.timeout, by rw [same.count]; exact inside⟩
  · rw [if_neg goes, if_neg goes]
    exact .none

theorem linkRoundStands {ackTimeoutMs : UInt32} {s : LinkWait} {w : AckWait} (stands : Stands link ackTimeoutMs s w)
    (answer : Answer) : Option.Rel (Stands link ackTimeoutMs) (linkRound payload frame link ackCount hardFault s answer)
      (waitRound ackTimeoutMs w (s.poll link answer)) := by
  obtain ⟨rfl, rfl, inside⟩ := stands
  have same : Posts s.channel link _ (pollLinkOnce s.channel s.manager link answer).channel :=
    (pollAccess s.channel s.manager answer link).posts
  simp only [linkRound, Progress.stays, advance, nextAction, if_pos inside, perform, conclude, settle, waitRound,
    LinkWait.poll, same.timeout]
  cases judged : judgePoll s.wait s.channel.ackTimeoutMs (pollLinkOnce s.channel s.manager link answer).status
      (pollLinkOnce s.channel s.manager link answer).matched answer.nowMs with
  | acked => exact .none
  | broken => exact .none
  | again next =>
    dsimp only
    by_cases goes : next.goesOn = true
    · rw [if_pos goes, if_pos goes]
      exact .some ⟨rfl, same.timeout, by rw [same.count]; exact inside⟩
    · rw [if_neg goes, if_neg goes]
      exact .none

theorem linkWaits {channel : DualChannel} {m : ChecksumManager} (inside : link < channel.linkCount) (first : Answer)
    (answers : Nat → Answer) (polls : Nat → Poll)
    (brought : ∀ n s, entering (linkRound payload frame link ackCount hardFault)
      (beginLink payload frame link ackCount hardFault channel m first) answers n = some s →
        polls n = s.poll link (answers n)) (n : Nat) :
    (entering (linkRound payload frame link ackCount hardFault)
      (beginLink payload frame link ackCount hardFault channel m first) answers n).map LinkWait.wait =
        if (sendOnLink channel m link frame first).status = .ok then
          waiting channel.ackTimeoutMs first.nowMs (channel.links link).nextSequence polls n
        else none := by
  split
  · rename_i sent
    have together : Option.Rel (Stands link channel.ackTimeoutMs)
        (entering (linkRound payload frame link ackCount hardFault)
          (beginLink payload frame link ackCount hardFault channel m first) answers n)
        (waiting channel.ackTimeoutMs first.nowMs (channel.links link).nextSequence polls n) := by
      refine lockstep (beginLinkStands payload frame link ackCount hardFault inside sent) ?_ n
      intro k s w begun stands
      rw [brought k s begun]
      exact linkRoundStands payload frame link ackCount hardFault stands (answers k)
    exact relMap together fun _ _ stands => stands.wait
  · rename_i failed
    have never : beginLink payload frame link ackCount hardFault channel m first = none := by
      simp [beginLink, Progress.stays, advance, nextAction, inside, perform, conclude, settle, failed, linkDone]
    rw [never, enteringNone]
    rfl

end Link

end PlatformRte.Dual.Channel
