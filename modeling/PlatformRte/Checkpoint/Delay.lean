import PlatformRte.Checkpoint.Rendezvous

/-! How long a rendezvous may block. Each receive is given what the clock leaves of the
budget, capped per round, so the sum is bounded only as far as the clock has counted the
time blocked before. -/
namespace PlatformRte.Checkpoint
open Bytes Checksum Voter

def totalBlockedMs (s : CheckpointRun) : Nat := (s.receives.map Receive.blockedMs).sum

/- The clock has counted the time blocked before a receive, or one more full round still
fits the budget. -/
def ClockCovers (config : CheckpointConfig) (startMs : UInt64) (r : Receive) : Prop :=
  r.spentMs ≤ (r.nowMs - startMs).toNat ∨
    r.spentMs + (checkpointRoundCapMs config.maxDelayMs).toNat ≤ config.maxDelayMs.toNat

theorem remainingBudgetNat (startMs nowMs : UInt64) (maxDelayMs : UInt32) :
    (remainingBudgetMs startMs nowMs maxDelayMs).toNat = maxDelayMs.toNat - (nowMs - startMs).toNat := by
  have bound := maxDelayMs.toNat_lt
  unfold remainingBudgetMs
  dsimp only
  split
  · rename_i passed
    rw [UInt64.le_iff_toNat_le, UInt32.toNat_toUInt64] at passed
    simp [passed]
  · rename_i left
    rw [UInt64.le_iff_toNat_le, UInt32.toNat_toUInt64] at left
    have small : (nowMs - startMs).toUInt32.toNat = (nowMs - startMs).toNat := by
      rw [UInt64.toNat_toUInt32]
      exact Nat.mod_eq_of_lt (by omega)
    rw [UInt32.toNat_sub_of_le, small]
    rw [UInt32.le_iff_toNat_le, small]
    omega

theorem cappedNat (cap remaining : UInt32) :
    (if cap < remaining then cap else remaining).toNat = min cap.toNat remaining.toNat := by
  by_cases capped : cap < remaining
  · rw [if_pos capped, Nat.min_eq_left (Nat.le_of_lt (UInt32.lt_iff_toNat_lt.mp capped))]
  · rw [if_neg capped, Nat.min_eq_right (Nat.le_of_not_lt fun less => capped (UInt32.lt_iff_toNat_lt.mpr less))]

structure Made (config : CheckpointConfig) (env : CheckpointEnv) (s : CheckpointRun) (r : Receive) : Prop where
  now : r.nowMs = env.now s.readings s.spentMs
  timeout : r.timeoutMs.toNat =
    min (checkpointRoundCapMs config.maxDelayMs).toNat (config.maxDelayMs.toNat - (r.nowMs - s.startMs).toNat)
  spent : r.spentMs = s.spentMs
  blocked : r.blockedMs = min (env.blocks s.receives.length).toNat r.timeoutMs.toNat

inductive Moved (config : CheckpointConfig) (env : CheckpointEnv) (s s' : CheckpointRun) : Prop where
  | quiet (start : s'.startMs = s.startMs) (receives : s'.receives = s.receives) (spent : s'.spentMs = s.spentMs)
  | received (r : Receive) (made : Made config env s r) (start : s'.startMs = s.startMs)
      (receives : s'.receives = s.receives ++ [r]) (spent : s'.spentMs = s.spentMs + r.blockedMs)

section Rounds
variable (env : CheckpointEnv) (config : CheckpointConfig) (arrival : VitalMessage)

theorem madeReceive (s : CheckpointRun) (i : Nat) :
    Made config env s (boundedReceive env config (readClock env s) i) where
  now := rfl
  timeout := (cappedNat _ _).trans (congrArg _ (remainingBudgetNat _ _ _))
  spent := rfl
  blocked := rfl

theorem confirmReceives (s : CheckpointRun) (i : Nat) :
    (checkpointConfirm env config s i).1.startMs = s.startMs ∧
      (checkpointConfirm env config s i).1.receives = s.receives ∧
      (checkpointConfirm env config s i).1.spentMs = s.spentMs := by
  unfold checkpointConfirm
  split <;> exact ⟨rfl, rfl, rfl⟩

theorem tryMoves (s : CheckpointRun) (i : Nat) :
    Moved config env s (checkpointTryChannel env config arrival s i).1 := by
  unfold checkpointTryChannel
  split
  · exact .quiet rfl rfl rfl
  rename_i channel _
  dsimp only
  split
  · have made := madeReceive env config (checkpointSend env arrival s i channel) i
    obtain ⟨start', receives', spent'⟩ := confirmReceives env config (checkpointReceive env config
      (readClock env (checkpointSend env arrival s i channel)) i
      (channelSend channel vitalMessageSize (env.answer s.roundCount i).send).1) i
    exact .received _ ⟨made.now, made.timeout, made.spent, made.blocked⟩ start' receives' spent'
  · exact .quiet rfl rfl rfl

theorem pollCases (s : CheckpointRun) (i : Nat) :
    (s.channelConfirmed.getD i false = true ∧ pollSlot env config arrival s i = s) ∨
      (s.channelConfirmed.getD i false = false ∧
        (pollSlot env config arrival s i).startMs = (checkpointTryChannel env config arrival s i).1.startMs ∧
        (pollSlot env config arrival s i).receives = (checkpointTryChannel env config arrival s i).1.receives ∧
        (pollSlot env config arrival s i).spentMs = (checkpointTryChannel env config arrival s i).1.spentMs) := by
  unfold pollSlot
  cases confirmed : s.channelConfirmed.getD i false with
  | true => exact Or.inl ⟨rfl, rfl⟩
  | false =>
    refine Or.inr ⟨rfl, ?_⟩
    rw [if_neg Bool.false_ne_true]
    dsimp only
    split <;> exact ⟨rfl, rfl, rfl⟩

theorem pollMoves (s : CheckpointRun) (i : Nat) : Moved config env s (pollSlot env config arrival s i) := by
  rcases pollCases env config arrival s i with ⟨_, same⟩ | ⟨_, start, receives, spent⟩
  · rw [same]
    exact .quiet rfl rfl rfl
  · cases tryMoves env config arrival s i with
    | quiet start' receives' spent' => exact .quiet (start.trans start') (receives.trans receives') (spent.trans spent')
    | received r made start' receives' spent' =>
      exact .received r made (start.trans start') (receives.trans receives') (spent.trans spent')

theorem roundsKeepAll {P : CheckpointRun → Prop}
    (poll : ∀ s i, P s → P (pollSlot env config arrival s i)) (close : ∀ s, P s → P (closeRound env config s))
    (left : Nat) {s : CheckpointRun} (holds : P s) : P (checkpointRounds env config arrival left s) := by
  have sweep : ∀ (slots : List Nat) (s : CheckpointRun), P s → P (slots.foldl (pollSlot env config arrival) s) := by
    intro slots
    induction slots with
    | nil => exact fun _ holds => holds
    | cons i rest ih => exact fun s holds => ih _ (poll s i holds)
  induction left generalizing s with
  | zero => exact holds
  | succ left ih =>
    unfold checkpointRounds
    split
    · exact ih (close _ (sweep _ s holds))
    · exact holds

end Rounds

structure Accounted (config : CheckpointConfig) (s : CheckpointRun) : Prop where
  total : s.spentMs = totalBlockedMs s
  timeout : ∀ r ∈ s.receives, r.timeoutMs.toNat =
    min (checkpointRoundCapMs config.maxDelayMs).toNat (config.maxDelayMs.toNat - (r.nowMs - s.startMs).toNat)
  part : ∀ r ∈ s.receives, r.spentMs + r.blockedMs ≤ s.spentMs
  within : (∀ r ∈ s.receives, ClockCovers config s.startMs r) → s.spentMs ≤ config.maxDelayMs.toNat

theorem movedAccounts {config : CheckpointConfig} {env : CheckpointEnv} {s s' : CheckpointRun}
    (accounted : Accounted config s) (moved : Moved config env s s') : Accounted config s' := by
  cases moved with
  | quiet start receives spent =>
    refine ⟨?_, ?_, ?_, ?_⟩
    · rw [spent, totalBlockedMs, receives]
      exact accounted.total
    · rw [receives, start]
      exact accounted.timeout
    · rw [receives, spent]
      exact accounted.part
    · rw [receives, start, spent]
      exact accounted.within
  | received r made start receives spent =>
    refine ⟨?_, ?_, ?_, ?_⟩
    · rw [spent, totalBlockedMs, receives, List.map_append, List.sum_append, accounted.total]
      simp [totalBlockedMs]
    · rw [receives, start]
      intro e member
      rcases List.mem_append.mp member with old | new
      · exact accounted.timeout e old
      · cases List.mem_singleton.mp new
        exact made.timeout
    · rw [receives, spent]
      intro e member
      rcases List.mem_append.mp member with old | new
      · exact (accounted.part e old).trans (Nat.le_add_right _ _)
      · cases List.mem_singleton.mp new
        rw [made.spent]
    · rw [receives, start, spent]
      intro all
      have before := accounted.within fun e old => all e (List.mem_append_left [r] old)
      have blocked : r.blockedMs ≤ r.timeoutMs.toNat := by
        rw [made.blocked]
        exact Nat.min_le_right _ _
      rw [made.timeout] at blocked
      have covers := all r (List.mem_append_right s.receives (List.mem_singleton_self r))
      unfold ClockCovers at covers
      rw [made.spent] at covers
      omega

theorem runAccounted (voter : RteVoter) (m : ChecksumManager) (config : CheckpointConfig) (env : CheckpointEnv)
    (arrival : VitalMessage) (left : Nat) :
    Accounted config (checkpointRounds env config arrival left (checkpointStart voter m env)) ∧
      (checkpointRounds env config arrival left (checkpointStart voter m env)).startMs = env.now 1 0 := by
  refine roundsKeepAll env config arrival (P := fun s => Accounted config s ∧ s.startMs = env.now 1 0)
    (fun s i holds => ?_) (fun s holds => ?_) left ⟨⟨rfl, ?_, ?_, fun _ => Nat.zero_le _⟩, rfl⟩
  · have moved := pollMoves env config arrival s i
    refine ⟨movedAccounts holds.1 moved, ?_⟩
    cases moved with
    | quiet start => exact start.trans holds.2
    | received _ _ start => exact start.trans holds.2
  · exact ⟨⟨holds.1.total, holds.1.timeout, holds.1.part, holds.1.within⟩, holds.2⟩
  · simp [checkpointStart]
  · simp [checkpointStart]

/- A clock that advances at least by the time blocked keeps the budget. -/
theorem advancingClockBounded (voter : RteVoter) (m : ChecksumManager) (config : CheckpointConfig)
    (env : CheckpointEnv) (arrival : VitalMessage) (left : Nat)
    (advances : ∀ reading, ∀ spent ≤ config.maxDelayMs.toNat, spent ≤ (env.now reading spent - env.now 1 0).toNat) :
    (checkpointRounds env config arrival left (checkpointStart voter m env)).spentMs ≤ config.maxDelayMs.toNat := by
  have kept := roundsKeepAll env config arrival
    (P := fun s => s.startMs = env.now 1 0 ∧ s.spentMs ≤ config.maxDelayMs.toNat)
    (fun s i holds => ?_) (fun _ holds => holds) left
    (show (checkpointStart voter m env).startMs = env.now 1 0 ∧ 0 ≤ config.maxDelayMs.toNat from ⟨rfl, Nat.zero_le _⟩)
  · exact kept.2
  · cases pollMoves env config arrival s i with
    | quiet start _ spent => exact ⟨start.trans holds.1, spent.trans_le holds.2⟩
    | received r made start _ spent =>
      refine ⟨start.trans holds.1, ?_⟩
      have counted := advances s.readings s.spentMs holds.2
      have blocked : r.blockedMs ≤ r.timeoutMs.toNat := by
        rw [made.blocked]
        exact Nat.min_le_right _ _
      rw [made.timeout, made.now, holds.1] at blocked
      omega

def blocking (env : CheckpointEnv) (blocks : Nat → UInt32) : CheckpointEnv := { env with blocks := blocks }

def blockLonger (env : CheckpointEnv) (k : Nat) : CheckpointEnv :=
  blocking env (Function.update env.blocks k 0xFFFFFFFF)

def Apart (k : Nat) (s s' : CheckpointRun) : Prop :=
  ∃ r r', s.receives[k]? = some r ∧ s'.receives[k]? = some r' ∧ r'.spentMs = r.spentMs ∧
    r'.timeoutMs = r.timeoutMs ∧ r'.blockedMs = r'.timeoutMs.toNat

def Follows (k : Nat) (s s' : CheckpointRun) : Prop := (s' = s ∧ s.receives.length ≤ k) ∨ Apart k s s'

section Diverge
variable {env : CheckpointEnv} {config : CheckpointConfig} {arrival : VitalMessage} {k : Nat} {s s' : CheckpointRun}

theorem keepsReceive {r : Receive} (at_ : s.receives[k]? = some r) (moved : Moved config env s s') :
    s'.receives[k]? = some r := by
  obtain ⟨bound, _⟩ := List.getElem?_eq_some_iff.mp at_
  cases moved with
  | quiet _ receives => rw [receives, at_]
  | received _ _ _ receives => rw [receives, List.getElem?_append_left bound, at_]

theorem receiveFollows (early : s.receives.length ≤ k) (i : Nat) (channel : RteChannel) :
    Follows k (checkpointReceive env config s i channel)
      (checkpointReceive (blockLonger env k) config s i channel) := by
  rcases Nat.lt_or_eq_of_le early with before | now
  · refine Or.inl ⟨?_, ?_⟩
    · have blocks : (blockLonger env k).blocks s.receives.length = env.blocks s.receives.length :=
        Function.update_of_ne (Nat.ne_of_lt before) _ _
      have same : boundedReceive (blockLonger env k) config s i = boundedReceive env config s i := by
        unfold boundedReceive
        rw [blocks]
      unfold checkpointReceive
      rw [same]
      rfl
    · rw [checkpointReceive, List.length_append]
      exact before
  · have longest : (blockLonger env k).blocks s.receives.length = 0xFFFFFFFF := by
      rw [now]
      exact Function.update_self _ _ _
    refine Or.inr ⟨boundedReceive env config s i, boundedReceive (blockLonger env k) config s i, ?_, ?_, rfl, rfl, ?_⟩
    · rw [checkpointReceive, ← now, List.getElem?_concat_length]
    · rw [checkpointReceive, ← now, List.getElem?_concat_length, now]
    · unfold boundedReceive
      rw [longest]
      exact Nat.min_eq_right (Nat.le_of_lt_succ (UInt32.toNat_lt _))

theorem confirmFollows (follows : Follows k s s') (i : Nat) :
    (checkpointConfirm (blockLonger env k) config s' i = checkpointConfirm env config s i ∧
        (checkpointConfirm env config s i).1.receives.length ≤ k) ∨
      Apart k (checkpointConfirm env config s i).1 (checkpointConfirm (blockLonger env k) config s' i).1 := by
  have receives := (confirmReceives env config s i).2.1
  have receives' := (confirmReceives (blockLonger env k) config s' i).2.1
  rcases follows with ⟨rfl, early⟩ | apart
  · exact Or.inl ⟨rfl, by rw [receives]; exact early⟩
  · refine Or.inr ?_
    rw [Apart, receives, receives']
    exact apart

theorem tryFollows (early : s.receives.length ≤ k) (i : Nat) :
    (checkpointTryChannel (blockLonger env k) config arrival s i = checkpointTryChannel env config arrival s i ∧
        (checkpointTryChannel env config arrival s i).1.receives.length ≤ k) ∨
      Apart k (checkpointTryChannel env config arrival s i).1
        (checkpointTryChannel (blockLonger env k) config arrival s i).1 := by
  unfold checkpointTryChannel
  cases found : s.voter.channels[i]? with
  | none => exact Or.inl ⟨rfl, early⟩
  | some channel =>
    dsimp only
    have sent : checkpointSend (blockLonger env k) arrival s i channel = checkpointSend env arrival s i channel := rfl
    rw [sent]
    by_cases sentOk : (checkpointSend env arrival s i channel).lastSendStatus = .ok
    · rw [if_pos sentOk, if_pos sentOk]
      refine confirmFollows (s := checkpointReceive env config (readClock env _) i _) ?_ i
      exact receiveFollows (s := readClock env (checkpointSend env arrival s i channel)) early i _
    · rw [if_neg sentOk, if_neg sentOk]
      exact Or.inl ⟨rfl, early⟩

theorem pollFollows (follows : Follows k s s') (i : Nat) :
    Follows k (pollSlot env config arrival s i) (pollSlot (blockLonger env k) config arrival s' i) := by
  rcases follows with ⟨rfl, early⟩ | ⟨r, r', at_, at', alike⟩
  · unfold pollSlot
    cases s'.channelConfirmed.getD i false with
    | true => exact Or.inl ⟨rfl, early⟩
    | false =>
      rw [if_neg Bool.false_ne_true, if_neg Bool.false_ne_true]
      rcases tryFollows early i with ⟨same, early'⟩ | apart
      · rw [same]
        dsimp only
        refine Or.inl ⟨rfl, ?_⟩
        split <;> exact early'
      · obtain ⟨r, r', at_, at', alike⟩ := apart
        refine Or.inr ⟨r, r', ?_, ?_, alike⟩
        · dsimp only
          split <;> exact at_
        · dsimp only
          split <;> exact at'
  · exact Or.inr ⟨r, r', keepsReceive at_ (pollMoves env config arrival s i),
      keepsReceive at' (pollMoves (blockLonger env k) config arrival s' i), alike⟩

theorem sweepFollows (slots : List Nat) (follows : Follows k s s') :
    Follows k (slots.foldl (pollSlot env config arrival) s)
      (slots.foldl (pollSlot (blockLonger env k) config arrival) s') := by
  induction slots generalizing s s' with
  | nil => exact follows
  | cons i rest ih => exact ih (pollFollows follows i)

theorem roundsKeepReceive {r : Receive} (env : CheckpointEnv) (left : Nat) (at_ : s.receives[k]? = some r) :
    (checkpointRounds env config arrival left s).receives[k]? = some r :=
  roundsKeepAll env config arrival (P := fun t => t.receives[k]? = some r)
    (fun t i kept => keepsReceive kept (pollMoves env config arrival t i)) (fun _ kept => kept) left at_

theorem roundsFollow (left : Nat) (follows : Follows k s s') :
    Follows k (checkpointRounds env config arrival left s)
      (checkpointRounds (blockLonger env k) config arrival left s') := by
  induction left generalizing s s' with
  | zero => exact follows
  | succ left ih =>
    rcases follows with ⟨rfl, early⟩ | ⟨r, r', at_, at', alike⟩
    · unfold checkpointRounds
      split
      · refine ih ?_
        rcases sweepFollows (List.range s'.voter.channels.length) (Or.inl ⟨rfl, early⟩) with ⟨same, early'⟩ | apart
        · refine Or.inl ⟨?_, early'⟩
          rw [checkpointRound, same]
          rfl
        · exact Or.inr apart
      · exact Or.inl ⟨rfl, early⟩
    · exact Or.inr ⟨r, r', roundsKeepReceive env _ at_, roundsKeepReceive (blockLonger env k) _ at', alike⟩

end Diverge

section Call
variable (voter : RteVoter) (m : ChecksumManager) (config : CheckpointConfig) (env : CheckpointEnv)

theorem checkpointRuns :
    (∀ blocks, (channelCheckpoint voter m config (blocking env blocks)).run.receives = []) ∨
      ∃ m' arrival, ∀ blocks,
        (channelCheckpoint voter m config (blocking env blocks)).run.receives =
          (checkpointRounds (blocking env blocks) config arrival checkpointMaxRounds
            (checkpointStart voter m' (blocking env blocks))).receives := by
  by_cases refused : config.expectedNodeCount = 0 ∨ voter.channels.length < config.expectedNodeCount.toNat
  · refine Or.inl fun blocks => ?_
    rw [channelCheckpoint, if_pos refused]
    rfl
  cases built : buildArrivalMessage m config.checkpointId (env.now 0 0) with
  | mk m' result =>
    cases result with
    | error status =>
      refine Or.inl fun blocks => ?_
      have built : buildArrivalMessage m config.checkpointId ((blocking env blocks).now 0 0) = (m', .error status) :=
        built
      rw [channelCheckpoint, if_neg refused]
      dsimp only
      rw [built]
      rfl
    | ok arrival =>
      refine Or.inr ⟨m', arrival, fun blocks => ?_⟩
      have built : buildArrivalMessage m config.checkpointId ((blocking env blocks).now 0 0) = (m', .ok arrival) :=
        built
      rw [channelCheckpoint, if_neg refused]
      dsimp only
      rw [built]
      dsimp only
      split <;> rfl

/- A call stays within its budget, however long the receives block, exactly if at every
receive the clock has counted the time blocked so far or a full share still fits. -/
theorem delayBoundedIff :
    (∀ blocks, totalBlockedMs (channelCheckpoint voter m config (blocking env blocks)).run ≤
        config.maxDelayMs.toNat) ↔
      ∀ blocks, ∀ r ∈ (channelCheckpoint voter m config (blocking env blocks)).run.receives,
        ClockCovers config (env.now 1 0) r := by
  rcases checkpointRuns voter m config env with none_ | ⟨m', arrival, runs⟩
  · simp [totalBlockedMs, none_]
  simp only [totalBlockedMs, runs]
  constructor
  · intro bounded blocks r member
    by_contra uncovered
    obtain ⟨k, at_⟩ := List.getElem?_of_mem member
    -- let this very receive block for all the time it is given
    have accounted := runAccounted voter m' config (blocking env blocks) arrival checkpointMaxRounds
    have longer := runAccounted voter m' config (blockLonger (blocking env blocks) k) arrival checkpointMaxRounds
    have total : totalBlockedMs (checkpointRounds (blockLonger (blocking env blocks) k) config arrival
        checkpointMaxRounds (checkpointStart voter m' (blockLonger (blocking env blocks) k))) ≤
          config.maxDelayMs.toNat := bounded (Function.update blocks k 0xFFFFFFFF)
    rw [← longer.1.total] at total
    have start : Follows k (checkpointStart voter m' (blocking env blocks))
        (checkpointStart voter m' (blockLonger (blocking env blocks) k)) := Or.inl ⟨rfl, Nat.zero_le _⟩
    have follows : Follows k
        (checkpointRounds (blocking env blocks) config arrival checkpointMaxRounds
          (checkpointStart voter m' (blocking env blocks)))
        (checkpointRounds (blockLonger (blocking env blocks) k) config arrival checkpointMaxRounds
          (checkpointStart voter m' (blockLonger (blocking env blocks) k))) := roundsFollow checkpointMaxRounds start
    rcases follows with ⟨_, early⟩ | apart
    · obtain ⟨bound, _⟩ := List.getElem?_eq_some_iff.mp at_
      exact Nat.not_le.mpr bound early
    · obtain ⟨r₀, r', at₀, at', spent, timeout, full⟩ := apart
      cases Option.some.inj (at_.symm.trans at₀)
      have part := longer.1.part r' (List.mem_of_getElem? at')
      have given := accounted.1.timeout r member
      rw [accounted.2, show (blocking env blocks).now 1 0 = env.now 1 0 from rfl] at given
      rw [full, timeout, spent, given] at part
      unfold ClockCovers at uncovered
      omega
  · intro covered blocks
    have accounted := runAccounted voter m' config (blocking env blocks) arrival checkpointMaxRounds
    rw [← totalBlockedMs, ← accounted.1.total]
    refine accounted.1.within fun r member => ?_
    rw [accounted.2]
    exact covered blocks r member

end Call

def frozenClock : CheckpointEnv where
  answer _ _ := ⟨.ok, .timeout, filledMessage 0 0 [] 0⟩
  blocks _ := 0xFFFFFFFF
  now _ _ := 1000

def frozenCheckpoint : CheckpointOutcome :=
  channelCheckpoint (liveVoter ⟨.nmr, 1, none, .safe, 7, true⟩ 1 oneFits) ⟨true, .ertms, some .ertms, noStats⟩
    ⟨7, 400, 1, false⟩ frozenClock

theorem frozenClockOverruns : totalBlockedMs frozenCheckpoint.run = 8512 ∧
    ¬totalBlockedMs frozenCheckpoint.run ≤ 400 := by
  have total : totalBlockedMs frozenCheckpoint.run = 8512 := by decide +kernel
  rw [total]
  decide

end PlatformRte.Checkpoint
