import PlatformRte.Checkpoint.Rendezvous

/-! Which slots a rendezvous counts: those that gave a confirming reply in some round.
A slot that has confirmed is not polled again. -/
namespace PlatformRte.Checkpoint
open Bytes Checksum Voter

structure ConfirmingReply (m : ChecksumManager) (checkpointId : UInt32) (reply : VitalMessage) : Prop where
  intact : reply.crc64 = (checksumCrc64 m reply.covered).2
  number : reply.sequenceNumber = checkpointId
  size : reply.payloadSize = 4
  payload : reply.payload.take 4 = leBytes 4 checkpointId.toNat

instance (m : ChecksumManager) (checkpointId : UInt32) (reply : VitalMessage) :
    Decidable (ConfirmingReply m checkpointId reply) :=
  decidable_of_iff (reply.crc64 = (checksumCrc64 m reply.covered).2 ∧ reply.sequenceNumber = checkpointId ∧
      reply.payloadSize = 4 ∧ reply.payload.take 4 = leBytes 4 checkpointId.toNat)
    ⟨fun ⟨intact, number, size, payload⟩ => ⟨intact, number, size, payload⟩,
      fun ⟨intact, number, size, payload⟩ => ⟨intact, number, size, payload⟩⟩

theorem replyConfirms {m m' : ChecksumManager} (ready : m.initialized = true) (same : SameTable m m')
    (reply : VitalMessage) (checkpointId : UInt32) :
    (replyConfirmsCheckpoint m' reply checkpointId).2 = decide (ConfirmingReply m checkpointId reply) := by
  have crc : (checksumCrc64Verify m' reply.covered reply.crc64).2.2 = .ok ↔
      reply.crc64 = (checksumCrc64 m reply.covered).2 := by
    rw [intactIff (same.ready.trans ready), crcDepends same, eq_comm]
  rw [replyConfirmsCheckpoint]
  cases verified : checksumVitalMessageVerify m' reply checkpointId 4 with
  | mk manager result =>
    cases result with
    | ok payload =>
      obtain ⟨intact, number, room, carried⟩ := verifiedMessage verified
      have cut := payloadTaken reply (room.trans (by decide))
      have length : payload.length = reply.payloadSize.toNat := by
        rw [carried, cut, List.length_take, reply.payloadLength]
        exact Nat.min_eq_left (room.trans (by decide))
      refine decide_eq_decide.mpr ⟨fun ⟨four, value⟩ => ?_, fun confirming => ?_⟩
      · have size : reply.payloadSize.toNat = 4 := length.symm.trans four
        refine ⟨crc.mp intact, number, UInt8.toNat_inj.mp size, ?_⟩
        rw [← value, ← four, length, ← cut, ← carried, ← length, leBytesValue]
      · have size : reply.payloadSize.toNat = 4 := congrArg UInt8.toNat confirming.size
        have bytes : payload = leBytes 4 checkpointId.toNat := by
          rw [carried, cut, size, confirming.payload]
        rw [bytes, leLength, leValueBytes]
        exact ⟨rfl, Nat.mod_eq_of_lt checkpointId.toNat_lt⟩
    | error status =>
      refine (decide_eq_false fun confirming => ?_).symm
      have size : reply.payloadSize.toNat = 4 := congrArg UInt8.toNat confirming.size
      have accepted := verifyAccepts (crc.mpr confirming.intact) confirming.number (Nat.le_of_eq size)
      rw [verified] at accepted
      cases accepted

theorem confirmKeeps (m : ChecksumManager) (reply : VitalMessage) (checkpointId : UInt32) :
    SameTable m (replyConfirmsCheckpoint m reply checkpointId).1 := by
  have kept := verifyKeeps m reply checkpointId 4
  unfold replyConfirmsCheckpoint
  dsimp only
  split <;> exact kept

def slotConfirms (m : ChecksumManager) (voter : RteVoter) (config : CheckpointConfig) (env : CheckpointEnv)
    (round slot : Nat) : Bool :=
  let answer := env.answer round slot
  voter.channels[slot]?.any RteChannel.initialized && answer.send == .ok && answer.receive == .ok &&
    decide (ConfirmingReply m config.checkpointId answer.reply)

def confirmedWithin (m : ChecksumManager) (voter : RteVoter) (config : CheckpointConfig) (env : CheckpointEnv)
    (rounds slot : Nat) : Bool :=
  (List.range rounds).any fun round => slotConfirms m voter config env round slot

def confirmingSlots (m : ChecksumManager) (voter : RteVoter) (config : CheckpointConfig) (env : CheckpointEnv)
    (rounds : Nat) : List Nat :=
  (List.range voter.channels.length).filter (confirmedWithin m voter config env rounds)

def expectedAttempts (m : ChecksumManager) (voter : RteVoter) (config : CheckpointConfig) (env : CheckpointEnv)
    (rounds : Nat) : List (Nat × Nat) :=
  (List.range rounds).flatMap fun round =>
    ((List.range voter.channels.length).filter fun slot => !confirmedWithin m voter config env round slot).map
      fun slot => (round, slot)

structure CheckpointAgreement (m : ChecksumManager) (voter : RteVoter) (config : CheckpointConfig)
    (env : CheckpointEnv) (out : CheckpointOutcome) : Prop where
  ok : out.status = .ok ↔ config.expectedNodeCount.toNat ≤
    (confirmingSlots m voter config env out.run.roundCount).length
  counted : out.run.confirmedCount = (confirmingSlots m voter config env out.run.roundCount).length
  polled : out.run.attempts.map (fun a => (a.round, a.slot)) =
    expectedAttempts m voter config env out.run.roundCount
  failed : out.status ≠ .ok → out.status = .timeout ∧ out.safestate = [⟨.safe, safestateReasonCheckpointTimeout⟩]
  quiet : out.status = .ok → out.safestate = []
  rounds : out.run.roundCount ≤ checkpointMaxRounds
  kicks : out.run.kicks =
    if config.watchdog then out.run.roundCount + (if out.status = .ok then 1 else 0) else 0

structure Steady (m : ChecksumManager) (voter : RteVoter) (s : CheckpointRun) : Prop where
  channels : s.voter.channels.map RteChannel.initialized = voter.channels.map RteChannel.initialized
  manager : SameTable m s.manager

section Loop
variable {m : ChecksumManager} {voter : RteVoter} {config : CheckpointConfig} {env : CheckpointEnv}
  (arrival : VitalMessage)

structure Tried (m : ChecksumManager) (voter : RteVoter) (config : CheckpointConfig) (env : CheckpointEnv)
    (arrival : VitalMessage) (s : CheckpointRun) (i : Nat) (t : CheckpointRun × Bool) : Prop where
  steady : Steady m voter t.1
  confirms : t.2 = slotConfirms m voter config env s.roundCount i
  confirmed : t.1.channelConfirmed = s.channelConfirmed
  count : t.1.confirmedCount = s.confirmedCount
  rounds : t.1.roundCount = s.roundCount
  kicks : t.1.kicks = s.kicks
  attempts : t.1.attempts = s.attempts ++ [⟨s.roundCount, i, arrival⟩]

theorem sendKeepsUp (c : RteChannel) (size : Nat) (answer : RteStatus) :
    (channelSend c size answer).1.initialized = c.initialized := by
  unfold channelSend
  split
  · rfl
  split
  · rfl
  split <;> rfl

theorem receiveKeepsUp (c : RteChannel) (size : Nat) (answer : RteStatus) :
    (channelReceive c size answer).1.initialized = c.initialized := by
  unfold channelReceive
  split
  · rfl
  split
  · rfl
  split <;> rfl

theorem setKeepsUp {s : RteVoter} {i : Nat} {c c' : RteChannel} (found : s.channels[i]? = some c)
    (same : c'.initialized = c.initialized) :
    (voterSetChannel s i c').channels.map RteChannel.initialized = s.channels.map RteChannel.initialized := by
  obtain ⟨bound, at_⟩ := List.getElem?_eq_some_iff.mp found
  simp only [voterSetChannel, List.map_set, same]
  refine List.ext_getElem (by simp) fun j _ _ => ?_
  by_cases own : i = j
  · subst own
    simp [at_]
  · simp [own]

theorem upAt {s : RteVoter} {c : RteChannel} {i : Nat}
    (channels : s.channels.map RteChannel.initialized = voter.channels.map RteChannel.initialized)
    (found : s.channels[i]? = some c) : voter.channels[i]?.any RteChannel.initialized = c.initialized := by
  have same := congrArg (·[i]?) channels
  simp only [List.getElem?_map, found, Option.map_some] at same
  cases at_ : voter.channels[i]? with
  | none => simp [at_] at same
  | some c' =>
    simp only [at_, Option.map_some, Option.some.injEq] at same
    simp [same]

theorem putBack {s : RteVoter} {i : Nat} {c : RteChannel} (c' : RteChannel) (found : s.channels[i]? = some c) :
    (voterSetChannel s i c').channels[i]? = some c' := by
  obtain ⟨bound, _⟩ := List.getElem?_eq_some_iff.mp found
  simp [voterSetChannel, bound]

theorem tried {s : CheckpointRun} (ready : m.initialized = true) (steady : Steady m voter s) {i : Nat}
    (inside : i < voter.channels.length) :
    Tried m voter config env arrival s i (checkpointTryChannel env config arrival s i) := by
  have length : s.voter.channels.length = voter.channels.length := by
    simpa using congrArg List.length steady.channels
  obtain ⟨channel, found⟩ : ∃ channel, s.voter.channels[i]? = some channel :=
    ⟨_, List.getElem?_eq_getElem (length ▸ inside)⟩
  have up := upAt steady.channels found
  have sentUp := sendKeepsUp channel vitalMessageSize (env.answer s.roundCount i).send
  have sent := sendStatus channel (by decide : vitalMessageSize ≠ 0) (env.answer s.roundCount i).send
  have received := receiveStatus (channelSend channel vitalMessageSize (env.answer s.roundCount i).send).1
    (by decide : vitalMessageSize ≠ 0) (env.answer s.roundCount i).receive
  have afterSend := setKeepsUp found sentUp
  have afterReceive := setKeepsUp (putBack _ found) (receiveKeepsUp
    (channelSend channel vitalMessageSize (env.answer s.roundCount i).send).1 vitalMessageSize
    (env.answer s.roundCount i).receive)
  unfold checkpointTryChannel
  rw [found]
  dsimp only
  split
  · rename_i sendOk
    rw [checkpointSend] at sendOk
    dsimp only at sendOk
    rw [sent] at sendOk
    have live : channel.initialized = true := by
      by_contra down
      simp [down] at sendOk
    rw [live, if_pos rfl] at sendOk
    rw [sentUp, live, if_pos rfl] at received
    unfold checkpointConfirm
    split
    · rename_i receiveOk
      have receiveOk : (env.answer s.roundCount i).receive = .ok := received.symm.trans receiveOk
      refine ⟨⟨afterReceive.trans (afterSend.trans steady.channels), ?_⟩, ?_, rfl, rfl, rfl, rfl, rfl⟩
      · exact steady.manager.trans (confirmKeeps s.manager _ _)
      · change (replyConfirmsCheckpoint s.manager _ _).2 = _
        rw [replyConfirms ready steady.manager]
        simp [slotConfirms, up, live, sendOk, receiveOk, readClock, checkpointSend, checkpointReceive]
    · rename_i receiveFailed
      have receiveFailed : (env.answer s.roundCount i).receive ≠ .ok := fun ok => receiveFailed (received.trans ok)
      refine ⟨⟨afterReceive.trans (afterSend.trans steady.channels), steady.manager⟩, ?_, rfl, rfl, rfl, rfl, rfl⟩
      simp [slotConfirms, receiveFailed]
  · rename_i sendFailed
    refine ⟨⟨afterSend.trans steady.channels, steady.manager⟩, ?_, rfl, rfl, rfl, rfl, rfl⟩
    rw [checkpointSend] at sendFailed
    dsimp only at sendFailed
    rw [sent] at sendFailed
    cases live : channel.initialized with
    | false => simp [slotConfirms, up, live]
    | true =>
      rw [live, if_pos rfl] at sendFailed
      simp [slotConfirms, sendFailed]

structure RoundAt (m : ChecksumManager) (voter : RteVoter) (config : CheckpointConfig) (env : CheckpointEnv)
    (round k : Nat) (s : CheckpointRun) : Prop where
  round : s.roundCount = round
  steady : Steady m voter s
  length : s.channelConfirmed.length = voterMaxChannels
  confirmed : ∀ i, s.channelConfirmed.getD i false =
    confirmedWithin m voter config env (if i < k then s.roundCount + 1 else s.roundCount) i
  count : s.confirmedCount = s.channelConfirmed.count true
  polled : s.attempts.map (fun a => (a.round, a.slot)) = expectedAttempts m voter config env s.roundCount ++
    ((List.range k).filter fun slot => !confirmedWithin m voter config env s.roundCount slot).map
      fun slot => (s.roundCount, slot)
  kicks : s.kicks = if config.watchdog then s.roundCount else 0

theorem confirmedSucc (rounds slot : Nat) : confirmedWithin m voter config env (rounds + 1) slot =
    (confirmedWithin m voter config env rounds slot || slotConfirms m voter config env rounds slot) := by
  simp [confirmedWithin, List.range_succ]

theorem confirmedOutside {slot : Nat} (outside : voter.channels.length ≤ slot) (rounds : Nat) :
    confirmedWithin m voter config env rounds slot = false := by
  simp [confirmedWithin, slotConfirms, outside]

theorem skipKeeps {s : CheckpointRun} {round k : Nat} (at_ : RoundAt m voter config env round k s)
    (before : s.channelConfirmed.getD k false = true) : RoundAt m voter config env round (k + 1) s := by
  have own := at_.confirmed k
  rw [if_neg (Nat.lt_irrefl k), before] at own
  refine ⟨at_.round, at_.steady, at_.length, fun i => ?_, at_.count, ?_, at_.kicks⟩
  · rw [at_.confirmed i]
    rcases Nat.lt_trichotomy i k with less | rfl | more
    · rw [if_pos less, if_pos (Nat.lt_succ_of_lt less)]
    · rw [if_neg (Nat.lt_irrefl i), if_pos (Nat.lt_succ_self i), confirmedSucc, ← own, Bool.true_or]
    · rw [if_neg (by omega), if_neg (by omega)]
  · rw [at_.polled, List.range_succ, List.filter_append]
    simp [← own]

theorem triedKeeps {s : CheckpointRun} {round k : Nat} (at_ : RoundAt m voter config env round k s)
    (before : s.channelConfirmed.getD k false = false) {t : CheckpointRun × Bool}
    (tried : Tried m voter config env arrival s k t) {flags : List Bool} (length : flags.length = voterMaxChannels)
    (own : flags.getD k false = slotConfirms m voter config env s.roundCount k)
    (others : ∀ i, i ≠ k → flags.getD i false = s.channelConfirmed.getD i false) {count : Nat}
    (counts : count = flags.count true) :
    RoundAt m voter config env round (k + 1) { t.1 with channelConfirmed := flags, confirmedCount := count } := by
  have unconfirmed := at_.confirmed k
  rw [if_neg (Nat.lt_irrefl k), before] at unconfirmed
  refine ⟨tried.rounds.trans at_.round, ⟨tried.steady.channels, tried.steady.manager⟩, length, fun i => ?_, counts,
    ?_, ?_⟩
  · dsimp only
    rw [tried.rounds]
    by_cases same : i = k
    · subst same
      rw [own, if_pos (Nat.lt_succ_self i), confirmedSucc, ← unconfirmed, Bool.false_or]
    · rw [others i same, at_.confirmed i]
      congr 1
      exact if_congr (by omega) rfl rfl
  · dsimp only
    rw [tried.rounds, tried.attempts, List.map_append, at_.polled, List.range_succ, List.filter_append]
    simp [← unconfirmed]
  · dsimp only
    rw [tried.rounds, tried.kicks]
    exact at_.kicks

theorem pollKeeps {s : CheckpointRun} {round k : Nat} (ready : m.initialized = true)
    (inside : k < voter.channels.length) (at_ : RoundAt m voter config env round k s) :
    RoundAt m voter config env round (k + 1) (pollSlot env config arrival s k) := by
  unfold pollSlot
  cases before : s.channelConfirmed.getD k false with
  | true =>
    rw [if_pos rfl]
    exact skipKeeps at_ before
  | false =>
    rw [if_neg Bool.false_ne_true]
    have t : Tried m voter config env arrival s k (checkpointTryChannel env config arrival s k) :=
      tried arrival ready at_.steady inside
    have length : (checkpointTryChannel env config arrival s k).1.channelConfirmed.length = voterMaxChannels := by
      rw [t.confirmed, at_.length]
    dsimp only
    rw [t.confirms]
    cases hit : slotConfirms m voter config env s.roundCount k with
    | true =>
      have room : k < s.channelConfirmed.length := by
        rw [at_.length]
        exact Nat.lt_of_lt_of_le inside voter.channelsFit
      have unset : s.channelConfirmed[k] = false := by
        rw [List.getD_eq_getElem?_getD, List.getElem?_eq_getElem room] at before
        exact before
      rw [if_pos rfl]
      refine triedKeeps arrival at_ before t ((List.length_set ..).trans length) ?_ (fun i other => ?_) ?_
      · rw [t.confirmed, hit, List.getD_eq_getElem?_getD, List.getElem?_set_self room]
        rfl
      · rw [t.confirmed, List.getD_eq_getElem?_getD, List.getElem?_set_ne (Ne.symm other),
          ← List.getD_eq_getElem?_getD]
      · rw [t.count, at_.count, t.confirmed, List.count_set room, unset]
        simp
    | false =>
      rw [if_neg Bool.false_ne_true]
      refine triedKeeps arrival at_ before t length ?_ (fun i _ => ?_) ?_
      · rw [t.confirmed, before, hit]
      · rw [t.confirmed]
      · rw [t.count, t.confirmed, at_.count]

theorem sweepKeeps {s : CheckpointRun} {round : Nat} (ready : m.initialized = true)
    (at_ : RoundAt m voter config env round 0 s) :
    ∀ k ≤ voter.channels.length,
      RoundAt m voter config env round k ((List.range k).foldl (pollSlot env config arrival) s) := by
  intro k bound
  induction k with
  | zero => exact at_
  | succ k ih =>
    rw [List.range_succ, List.foldl_append]
    exact pollKeeps arrival ready bound (ih (Nat.le_of_succ_le bound))

theorem roundKeeps {s : CheckpointRun} {round : Nat} (ready : m.initialized = true)
    (at_ : RoundAt m voter config env round 0 s) :
    RoundAt m voter config env (round + 1) 0 (checkpointRound env config arrival s) := by
  have length : s.voter.channels.length = voter.channels.length := by
    simpa using congrArg List.length at_.steady.channels
  have swept := sweepKeeps arrival ready at_ voter.channels.length (Nat.le_refl _)
  unfold checkpointRound
  rw [length]
  generalize (List.range voter.channels.length).foldl (pollSlot env config arrival) s = t at swept ⊢
  refine ⟨congrArg (· + 1) swept.round, ⟨swept.steady.channels, swept.steady.manager⟩, swept.length, fun i => ?_,
    swept.count, ?_, ?_⟩
  · rw [if_neg (Nat.not_lt_zero i)]
    refine (swept.confirmed i).trans ?_
    split
    · rfl
    · rename_i outside
      rw [confirmedOutside (Nat.le_of_not_lt outside)]
      exact (confirmedOutside (Nat.le_of_not_lt outside) _).symm
  · change t.attempts.map _ = expectedAttempts m voter config env (t.roundCount + 1) ++ []
    rw [swept.polled, List.append_nil, expectedAttempts, expectedAttempts, List.range_succ, List.flatMap_append,
      List.flatMap_singleton]
  · have kicks := swept.kicks
    unfold closeRound
    dsimp only [readClock]
    split
    · rename_i given
      rw [kicks, if_pos given]
    · rename_i absent
      rw [kicks, if_neg absent]

theorem roundsKeep (ready : m.initialized = true) (left : Nat) {s : CheckpointRun} {round : Nat}
    (at_ : RoundAt m voter config env round 0 s) : ∃ last ≤ round + left,
      RoundAt m voter config env last 0 (checkpointRounds env config arrival left s) := by
  induction left generalizing s round with
  | zero => exact ⟨round, Nat.le_refl _, at_⟩
  | succ left ih =>
    unfold checkpointRounds
    split
    · obtain ⟨last, bound, kept⟩ := ih (roundKeeps arrival ready at_)
      exact ⟨last, by omega, kept⟩
    · exact ⟨round, Nat.le_add_right _ _, at_⟩

theorem startAt {m' : ChecksumManager} (same : SameTable m m') :
    RoundAt m voter config env 0 0 (checkpointStart voter m' env) := by
  refine ⟨rfl, ⟨rfl, same⟩, rfl, fun i => ?_, rfl, rfl, ?_⟩
  · have none_ : confirmedWithin m voter config env 0 i = false := rfl
    rw [if_neg (Nat.not_lt_zero i)]
    refine Eq.trans ?_ none_.symm
    change (List.replicate voterMaxChannels false).getD i false = false
    rw [List.getD_eq_getElem?_getD, List.getElem?_replicate]
    split <;> rfl
  · change 0 = if config.watchdog = true then 0 else 0
    rw [ite_self]

theorem countedSlots {s : CheckpointRun} {round : Nat} (at_ : RoundAt m voter config env round 0 s) :
    s.confirmedCount = (confirmingSlots m voter config env round).length := by
  have flags : s.channelConfirmed = (List.range voterMaxChannels).map (confirmedWithin m voter config env round) := by
    refine List.ext_getElem (by simp [at_.length]) fun i bound _ => ?_
    have flag := at_.confirmed i
    rw [if_neg (Nat.not_lt_zero i), List.getD_eq_getElem?_getD, List.getElem?_eq_getElem bound, at_.round] at flag
    simpa using flag
  obtain ⟨unused, split⟩ := Nat.exists_eq_add_of_le voter.channelsFit
  rw [at_.count, flags, split, List.range_add, List.map_append, List.count_append, confirmingSlots,
    ← List.countP_eq_length_filter]
  have beyond : ((List.range unused).map (voter.channels.length + ·)).map (confirmedWithin m voter config env round) =
      List.replicate unused false := by
    rw [List.eq_replicate_iff]
    refine ⟨by simp, fun b member => ?_⟩
    simp only [List.mem_map] at member
    obtain ⟨slot, ⟨k, _, rfl⟩, rfl⟩ := member
    exact confirmedOutside (Nat.le_add_right _ _) round
  rw [beyond, List.count_replicate, List.count, List.countP_map]
  simp only [Function.comp_def, beq_true]
  rfl

end Loop

theorem checkpointEnds {m : ChecksumManager} {voter : RteVoter} {config : CheckpointConfig} (env : CheckpointEnv)
    (ready : m.initialized = true) (expected : config.expectedNodeCount ≠ 0)
    (registered : config.expectedNodeCount.toNat ≤ voter.channels.length) :
    ∃ m' arrival, SameTable m m' ∧
      let s := checkpointRounds env config arrival checkpointMaxRounds (checkpointStart voter m' env)
      channelCheckpoint voter m config env =
        if config.expectedNodeCount.toNat ≤ s.confirmedCount then
          ⟨.ok, { s with kicks := if config.watchdog then s.kicks + 1 else s.kicks }, []⟩
        else ⟨.timeout, s, [⟨.safe, safestateReasonCheckpointTimeout⟩]⟩ := by
  have short : (leBytes 4 config.checkpointId.toNat).length ≤ vitalPayloadMax := by
    rw [leLength]
    decide
  have made := createsMessage ready checkpointSenderId config.checkpointId short (env.now 0 0)
  obtain ⟨arrival, built⟩ : ∃ arrival, (buildArrivalMessage m config.checkpointId (env.now 0 0)).2 = .ok arrival :=
    ⟨_, congrArg Prod.snd made⟩
  refine ⟨(buildArrivalMessage m config.checkpointId (env.now 0 0)).1, arrival, createKeeps m _ _ _ _, ?_⟩
  unfold channelCheckpoint
  rw [if_neg (not_or.mpr ⟨expected, Nat.not_lt.mpr registered⟩)]
  dsimp only
  rw [built]

/- The rendezvous succeeds exactly if enough distinct slots confirmed within the rounds it
ran; otherwise it enters the safe state once. -/
theorem checkpointAgrees {m : ChecksumManager} {voter : RteVoter} {config : CheckpointConfig} (env : CheckpointEnv)
    (ready : m.initialized = true) (expected : config.expectedNodeCount ≠ 0)
    (registered : config.expectedNodeCount.toNat ≤ voter.channels.length) :
    CheckpointAgreement m voter config env (channelCheckpoint voter m config env) := by
  obtain ⟨m', arrival, same, ends⟩ := checkpointEnds env ready expected registered
  obtain ⟨last, bound, at_⟩ : ∃ last ≤ 0 + checkpointMaxRounds, RoundAt m voter config env last 0
      (checkpointRounds env config arrival checkpointMaxRounds (checkpointStart voter m' env)) :=
    roundsKeep arrival ready checkpointMaxRounds (startAt same)
  dsimp only at ends
  generalize checkpointRounds env config arrival checkpointMaxRounds (checkpointStart voter m' env) = s at ends at_
  have counted := countedSlots at_
  have rounds : s.roundCount ≤ checkpointMaxRounds := by
    rw [at_.round]
    omega
  have polled := at_.polled
  rw [List.range_zero, List.filter_nil, List.map_nil, List.append_nil] at polled
  rw [← at_.round] at counted
  rw [ends]
  split
  · rename_i enough
    refine ⟨iff_of_true rfl (counted ▸ enough), counted, polled, fun failed => absurd rfl failed, fun _ => rfl,
      rounds, ?_⟩
    dsimp only
    rw [at_.kicks]
    cases config.watchdog <;> rfl
  · rename_i few
    refine ⟨iff_of_false (by simp) (counted ▸ few), counted, polled, fun _ => ⟨rfl, rfl⟩, fun ok => ?_, rounds, ?_⟩
    · cases ok
    · dsimp only
      rw [at_.kicks]
      cases config.watchdog <;> rfl

def ertmsManager : ChecksumManager := ⟨true, .ertms, some .ertms, noStats⟩

def singleVoter : RteVoter := liveVoter ⟨.nmr, 1, none, .safe, 7, true⟩ 1 oneFits

def checkpointSeven : CheckpointConfig := ⟨7, 400, 1, true⟩

def arrivalSeven : VitalMessage :=
  let msg := filledMessage checkpointSenderId 7 (leBytes 4 7) 0
  msg.sealed (checksumCrc64 ertmsManager msg.covered).2

def lateReply : CheckpointEnv where
  answer round _ := ⟨.ok, if round = 0 then .timeout else .ok, arrivalSeven⟩
  blocks _ := 50
  now _ spent := UInt64.ofNat spent

theorem lateReplyCounts :
    CheckpointAgreement ertmsManager singleVoter checkpointSeven lateReply
      (channelCheckpoint singleVoter ertmsManager checkpointSeven lateReply) :=
  checkpointAgrees lateReply rfl (by decide) (by decide)

end PlatformRte.Checkpoint
