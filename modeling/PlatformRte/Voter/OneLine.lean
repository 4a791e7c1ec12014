import PlatformRte.Voter.VotedPair

/-! Redundancy that masks the links outside a quorum: the two ends see one line. -/
namespace PlatformRte.Voter.VotedPair
open Machine FirstMatch

variable {size : Nat}

section Counting
variable {voter : RteVoter} {answers : Nat → ChannelAnswer size} {good : Finset Nat} {m : Buffer size}

def AllLive (voter : RteVoter) (good : Finset Nat) : Prop := ∀ i ∈ good, voter.channels[i]?.map live = some true

theorem liveInside (all : AllLive voter good) : good ⊆ Finset.range voter.channels.length := by
  intro i member
  obtain ⟨c, there, _⟩ := Option.map_eq_some_iff.mp (all i member)
  exact Finset.mem_range.mpr (List.getElem?_eq_some_iff.mp there).1

theorem liveSlot (all : AllLive voter good) {slot : RteChannel × Nat} (member : slot ∈ voter.channels.zipIdx)
    (among : slot.2 ∈ good) : live slot.1 = true := by
  have there : voter.channels[slot.2]? = some slot.1 := List.mem_zipIdx_iff_getElem?.mp member
  have alive := all slot.2 among
  rw [there] at alive
  exact Option.some.inj alive

theorem slotsGood (inside : good ⊆ Finset.range voter.channels.length) :
    voter.channels.zipIdx.countP (fun slot => decide (slot.2 ∈ good)) = good.card := by
  rw [slotsAmong, Finset.filter_mem_eq_inter, Finset.inter_eq_right.mpr inside]

theorem goodCount (all : AllLive voter good) (return_ : ∀ i ∈ good, answers i = ⟨.ok, m⟩) :
    good.card ≤ (responses voter answers).count m := by
  rw [← slotsGood (liveInside all), responsesIndexed, List.count, List.countP_filterMap]
  refine List.countP_mono_left fun slot member among => ?_
  have index : slot.2 ∈ good := of_decide_eq_true among
  have given : returned (slot.1, answers slot.2) = some m :=
    returnedLive.mpr ⟨liveSlot all member index, by rw [return_ _ index], by rw [return_ _ index]⟩
  simp [given]

theorem othersCount (all : AllLive voter good) (kind : Buffer size → Bool)
    (not_ : ∀ i ∈ good, (answers i).status = .ok → kind (answers i).data = false) :
    (responses voter answers).countP kind + good.card ≤ voter.channels.length := by
  have total := List.length_eq_countP_add_countP (fun slot : RteChannel × Nat => decide (slot.2 ∈ good))
    (l := voter.channels.zipIdx)
  rw [List.length_zipIdx, slotsGood (liveInside all)] at total
  have others : (responses voter answers).countP kind ≤
      voter.channels.zipIdx.countP fun slot => !decide (slot.2 ∈ good) := by
    rw [responsesIndexed, List.countP_filterMap]
    refine List.countP_mono_left fun slot _ given => ?_
    cases returned_ : returned (slot.1, answers slot.2) with
    | none => simp [returned_] at given
    | some w =>
      obtain ⟨_, ok, data⟩ := returnedLive.mp returned_
      have outside : slot.2 ∉ good := fun among => by
        have never := not_ slot.2 among ok
        rw [data] at never
        simp [returned_, never] at given
      simp [outside]
  have negated : voter.channels.zipIdx.countP (fun slot => !decide (slot.2 ∈ good)) =
      voter.channels.zipIdx.countP fun slot => decide ¬decide (slot.2 ∈ good) = true := by
    congr 1
    funext slot
    by_cases among : slot.2 ∈ good <;> simp [among]
  omega

theorem goodHealthy (all : AllLive voter good) : good.card ≤ voterCountHealthy voter := by
  rw [← slotsGood (liveInside all), voterCountHealthy]
  have numbered : voter.channels.countP (fun c => c.health.isHealthy) =
      voter.channels.zipIdx.countP fun slot => slot.1.health.isHealthy := by
    conv_lhs => rw [← List.zipIdx_map_fst 0 voter.channels, List.countP_map]
    rfl
  rw [numbered]
  refine List.countP_mono_left fun slot member among => ?_
  have alive := liveSlot all member (of_decide_eq_true among)
  unfold live at alive
  exact (Bool.and_eq_true_iff.mp alive).1

end Counting

section InStep
variable {good : Finset Nat}

/- The given links lose nothing and are read together: all of them are ready or none is. The
application keeps their channels healthy. Nothing is asked of the other links. -/
inductive InStep (good : Finset Nat) (s : Joined size) : Event size → Prop
  | send {payload : Buffer size} {statuses : Nat → RteStatus} {goes : Nat → Bool} (carried : ∀ i ∈ good, goes i = true) :
      InStep good s (.send payload statuses goes)
  | ready {readings : Nat → Reading size} (all : ∀ i ∈ good, readings i = .next) : InStep good s (.receive readings)
  | notReady {readings : Nat → Reading size} (all : ∀ i ∈ good, ∃ status, readings i = .failed status) :
      InStep good s (.receive readings)
  | setHealthy {atSender : Bool} {channel : Nat} {isHealthy : Bool} (kept : channel ∈ good → isHealthy = true) :
      InStep good s (.setHealthy atSender channel isHealthy)

structure Masking (good : Finset Nat) (s : Joined size) : Prop where
  atSender : AllLive s.sender good
  sends : Accepted s.sender size
  atReceiver : AllLive s.receiver good
  receives : Accepted s.receiver size
  memcmp : s.receiver.config.compare = none
  quorum : voterRequiredQuorum s.receiver.config ≤ good.card
  others : s.receiver.channels.length < voterRequiredQuorum s.receiver.config + good.card

def moves (good : Finset Nat) : Event size → List (Fifo.Move (Buffer size))
  | .send payload _ _ => [.push payload]
  | .receive readings => if ∃ i ∈ good, readings i = .next then [.pull] else []
  | .setHealthy _ _ _ => []

structure AsOneLine (good : Finset Nat) (s : Joined size) (line : Fifo (Buffer size)) : Prop where
  masking : Masking good s
  lines : ∀ i ∈ good, s.lines i = line
  sent : s.sent = line.sent
  received : s.received = line.delivered

theorem setHealthyLive {voter : RteVoter} {channel : Nat} {isHealthy : Bool} (all : AllLive voter good)
    (kept : channel ∈ good → isHealthy = true) : AllLive (setHealthyAt voter channel isHealthy) good := by
  intro i member
  have alive := all i member
  obtain ⟨c, there, up⟩ := Option.map_eq_some_iff.mp alive
  by_cases same : channel = i
  · subst same
    have set_ : live (channelSetHealthy c isHealthy) = true := by
      unfold live at up ⊢
      have initialized := (Bool.and_eq_true_iff.mp up).2
      simp [channelSetHealthy, kept member, initialized]
    simp [setHealthyAt, there, set_]
  · simp [setHealthyAt, same, there, up]

theorem sameAllLive {voter voter' : RteVoter} (same : SameSetUp voter voter') (all : AllLive voter good) :
    AllLive voter' good := by
  intro i member
  rw [← List.getElem?_map, same.channels, List.getElem?_map]
  exact all i member

theorem reachesGood {voter : RteVoter} (accepted : Accepted voter size) (all : AllLive voter good) {i : Nat}
    (member : i ∈ good) : reachesTransports voter size i = true := by
  simp [reachesTransports, accepted, all i member]

theorem pollsGood {voter : RteVoter} (accepted : Accepted voter size) (all : AllLive voter good)
    (quorum : voterRequiredQuorum voter.config ≤ good.card) {i : Nat} (member : i ∈ good) :
    polls voter size i = true := by
  simp [polls, reachesGood accepted all member, quorum.trans (goodHealthy all)]

theorem noneReady {s : Joined size} (masking : Masking good s) {answers : Nat → ChannelAnswer size}
    (none_ : ∀ i ∈ good, (answers i).status ≠ .ok) : (voterReceive s.receiver size answers).data = none := by
  cases given : (voterReceive s.receiver size answers).data with
  | none => rfl
  | some v =>
    have reached := handedOut masking.memcmp given
    have few := othersCount masking.atReceiver (· == v) fun i member ok => absurd ok (none_ i member)
    have others := masking.others
    rw [← List.count] at few
    omega

theorem allReady {s : Joined size} (masking : Masking good s) {answers : Nat → ChannelAnswer size} {m : Buffer size}
    (all : ∀ i ∈ good, answers i = ⟨.ok, m⟩) : (voterReceive s.receiver size answers).data = some m := by
  have positive := (quorumPositive masking.receives.count).1
  have vote := pluralityOfVerdict masking.memcmp positive (receiveVerdict masking.receives answers)
  have agreed := vote.agreed.mpr ⟨m, masking.quorum.trans (goodCount masking.atReceiver all)⟩
  have unlike : ∀ i ∈ good, (answers i).status = .ok → ((answers i).data != m) = false := by
    intro i member _
    simp [all i member]
  have few := othersCount masking.atReceiver (· != m) unlike
  have others := masking.others
  exact vote.correct agreed m (by omega)

theorem maskingReceive {s : Joined size} (masking : Masking good s) (readings : Nat → Reading size) :
    Masking good (step s (.receive readings)) := by
  have same := receiveSetUp s.receiver (answersOf s readings)
  refine ⟨masking.atSender, masking.sends, sameAllLive same masking.atReceiver, same.accepted.mpr masking.receives,
    ?_, ?_, ?_⟩
  · rw [step, same.config]
    exact masking.memcmp
  · rw [step, same.config]
    exact masking.quorum
  · rw [step, same.config, same.count]
    exact masking.others

theorem maskingSetHealthy {s : Joined size} (masking : Masking good s) {atSender : Bool} {channel : Nat}
    {isHealthy : Bool} (kept : channel ∈ good → isHealthy = true) :
    Masking good (step s (.setHealthy atSender channel isHealthy)) := by
  have accepted {voter : RteVoter} (accepted : Accepted voter size) :
      Accepted (setHealthyAt voter channel isHealthy) size :=
    ⟨accepted.some_, accepted.initialized, accepted.fits, by
      rw [setHealthyAt, List.length_modify]
      exact accepted.count⟩
  cases atSender with
  | true =>
    exact ⟨setHealthyLive masking.atSender kept, accepted masking.sends, masking.atReceiver, masking.receives,
      masking.memcmp, masking.quorum, masking.others⟩
  | false =>
    refine ⟨masking.atSender, masking.sends, setHealthyLive masking.atReceiver kept, accepted masking.receives,
      masking.memcmp, masking.quorum, ?_⟩
    rw [step, setHealthyAt, List.length_modify]
    exact masking.others

theorem oneLineStep {s : Joined size} {line : Fifo (Buffer size)} {e : Event size} (nonempty : good.Nonempty)
    (one : AsOneLine good s line) (inStep : InStep good s e) :
    AsOneLine good (step s e) (run Fifo.move line (moves good e)) := by
  obtain ⟨masking, lines, sent, received⟩ := one
  cases inStep with
  | @send payload statuses goes carried =>
    have same := sendSetUp s.sender size statuses
    refine ⟨⟨sameAllLive same masking.atSender, same.accepted.mpr masking.sends, masking.atReceiver, masking.receives,
      masking.memcmp, masking.quorum, masking.others⟩, fun i member => ?_, ?_, ?_⟩
    · simp [step, moves, run, reachesGood masking.sends masking.atSender member, carried i member, lines i member]
    · simp [step, moves, run, sent]
    · simp [step, moves, run, received]
  | @ready readings all =>
    obtain ⟨first, there⟩ := nonempty
    have pulls : moves good (.receive readings) = [.pull] := by
      rw [moves, if_pos ⟨first, there, all first there⟩]
    have answer (i : Nat) (member : i ∈ good) : answersOf s readings i = carried line line.taken := by
      rw [answersOf, all i member, lines i member]
      rfl
    have pulled (i : Nat) (member : i ∈ good) : (step s (.receive readings)).lines i = line.move .pull := by
      have asked := pollsGood masking.receives masking.atReceiver masking.quorum member
      simp [step, asked, all i member, lines i member, afterReading]
    rw [pulls, run, List.foldl_cons, List.foldl_nil]
    refine ⟨maskingReceive masking readings, pulled, ?_, ?_⟩
    · exact sent.trans (readingSent line .next).symm
    · by_cases waiting : line.taken < line.sent.length
      · have handed : (voterReceive s.receiver size (answersOf s readings)).data = some line.sent[line.taken] :=
          allReady masking fun i member => by simp [answer i member, carried, waiting]
        rw [Fifo.pullDelivered waiting, step, received, handed]
        rfl
      · have silent : (voterReceive s.receiver size (answersOf s readings)).data = none :=
          noneReady masking fun i member => by
            rw [answer i member, carried, List.getElem?_eq_none (Nat.le_of_not_lt waiting)]
            simp [nothing]
        have still : line.move .pull = line := by simp [Fifo.move, waiting]
        rw [still, step, received, silent]
        simp
  | @notReady readings all =>
    have stays : moves good (.receive readings) = [] := by
      rw [moves, if_neg]
      rintro ⟨i, member, next⟩
      obtain ⟨status, failed⟩ := all i member
      rw [failed] at next
      cases next
    have silent : (voterReceive s.receiver size (answersOf s readings)).data = none :=
      noneReady masking fun i member => by
        obtain ⟨status, failed⟩ := all i member
        rw [answersOf, failed]
        exact status.2
    rw [stays, run, List.foldl_nil]
    refine ⟨maskingReceive masking readings, fun i member => ?_, sent, ?_⟩
    · obtain ⟨status, failed⟩ := all i member
      have asked := pollsGood masking.receives masking.atReceiver masking.quorum member
      simp [step, asked, failed, lines i member, afterReading]
    · simp [step, received, silent]
  | @setHealthy atSender channel isHealthy kept =>
    refine ⟨maskingSetHealthy masking kept, ?_, ?_, ?_⟩
    · cases atSender <;> exact lines
    · cases atSender <;> exact sent
    · cases atSender <;> exact received

/- Where a quorum of the links keeps in step and the others are too few for one, the two ends
see one line that loses, repeats, reorders and makes up nothing, whatever the others do. -/
theorem othersMasked {s : Joined size} {events : List (Event size)} (unused : Unused s) (masking : Masking good s)
    (inStep : Always step (InStep good) s events) :
    AsOneLine good (run step s events) (run Fifo.move Fifo.empty (events.flatMap (moves good))) := by
  have nonempty : good.Nonempty := by
    have positive := (quorumPositive masking.receives.count).1
    exact Finset.card_pos.mp (positive.trans masking.quorum)
  have start : AsOneLine good s Fifo.empty :=
    ⟨masking, fun i _ => unused.lines i, unused.sent, unused.received⟩
  induction events using List.reverseRecOn with
  | nil => exact start
  | append_singleton init e ih =>
    obtain ⟨before, last⟩ := alwaysSnoc.mp inStep
    rw [runSnoc, List.flatMap_append, List.flatMap_singleton, runAppend]
    exact oneLineStep nonempty (ih before) last

theorem repeatMasked :
    let events := [sendByte 5, .receive fun _ => .next, sendByte 6, .receive (oddReading (.outOfTurn 0))]
    AsOneLine {0, 1} (run step bytePair events) (run Fifo.move Fifo.empty (events.flatMap (moves {0, 1}))) := by
  have allLive : AllLive byteVoter {0, 1} := by
    unfold AllLive
    decide
  have masking : Masking {0, 1} bytePair := ⟨allLive, by decide, allLive, by decide, rfl, by decide, by decide⟩
  refine othersMasked bytePairUnused masking ?_
  refine alwaysCons.mpr ⟨.send fun _ _ => rfl, alwaysCons.mpr ⟨.ready fun _ _ => rfl,
    alwaysCons.mpr ⟨.send fun _ _ => rfl, alwaysCons.mpr ⟨.ready fun i member => ?_, alwaysNil _ _ _⟩⟩⟩⟩
  have other : i ≠ 2 := by
    rintro rfl
    exact absurd member (by decide)
  simp [oddReading, other]

end InStep

end PlatformRte.Voter.VotedPair
