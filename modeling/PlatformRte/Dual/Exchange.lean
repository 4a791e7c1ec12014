import PlatformRte.Dual.Access

/-! One send or heartbeat: a link is up after the call exactly when the number the call
used on it was acknowledged while the call ran. -/
namespace PlatformRte.Dual.Channel
open Checksum

structure Seen where
  sent : List (Nat × UInt32)
  acked : List (Nat × UInt32)
  faults : List Nat

namespace Seen

def empty : Seen := ⟨[], [], []⟩

def observe (seen : Seen) (action : Action) (done : Performed) : Seen where
  sent := match action, done.carried with
    | .transmit i _, some (_, frame) => (i, frame.sequenceNumber) :: seen.sent
    | _, _ => seen.sent
  acked := match done.matched with
    | some (.ack number) => (action.link, number) :: seen.acked
    | _ => seen.acked
  faults := if done.status = .hardwareFault then action.link :: seen.faults else seen.faults

theorem observeSent (seen : Seen) (action : Action) (done : Performed) (i : Nat) (number : UInt32) :
    (i, number) ∈ (seen.observe action done).sent ↔ (i, number) ∈ seen.sent ∨
      ∃ raw sent frame,
        action = .transmit i raw ∧ done.carried = some (sent, frame) ∧ number = frame.sequenceNumber := by
  unfold observe
  cases action <;> rcases done.carried with _ | ⟨sent, frame⟩ <;> simp
  tauto

theorem observeAcked (seen : Seen) (action : Action) (done : Performed) (i : Nat) (number : UInt32) :
    (i, number) ∈ (seen.observe action done).acked ↔ (i, number) ∈ seen.acked ∨
      i = action.link ∧ done.matched = some (.ack number) := by
  unfold observe
  rcases done.matched with _ | _ | _ | _ | _ <;> simp
  tauto

theorem observeFaults (seen : Seen) (action : Action) (done : Performed) :
    (seen.observe action done).faults ≠ [] ↔ seen.faults ≠ [] ∨ done.status = .hardwareFault := by
  unfold observe
  by_cases fault : done.status = .hardwareFault <;> simp [fault]

def Met (seen : Seen) (i : Nat) : Prop := ∃ number, (i, number) ∈ seen.sent ∧ (i, number) ∈ seen.acked

theorem metElsewhere {seen : Seen} {action : Action} {done : Performed} {i : Nat} (elsewhere : i ≠ action.link) :
    (seen.observe action done).Met i ↔ seen.Met i := by
  constructor
  · rintro ⟨number, sent, acked⟩
    refine ⟨number, ?_, ?_⟩
    · rcases (observeSent seen action done i number).mp sent with old | ⟨_, _, _, rfl, _, _⟩
      · exact old
      · exact absurd rfl elsewhere
    · rcases (observeAcked seen action done i number).mp acked with old | ⟨here, _⟩
      · exact old
      · exact absurd here elsewhere
  · rintro ⟨number, sent, acked⟩
    exact ⟨number, (observeSent seen action done i number).mpr (Or.inl sent),
      (observeAcked seen action done i number).mpr (Or.inl acked)⟩

end Seen

structure Exchanging (channel : DualChannel) (seen : Seen) (link ackCount : Nat) (hardFault : Bool)
    (wait : Option AckWait) : Prop where
  within : link ≤ channel.linkCount
  up : ∀ i < link, channel.linkUp i = true ↔ seen.Met i
  count : ackCount = (List.range link).countP channel.linkUp
  fault : hardFault = true ↔ seen.faults ≠ []
  sent : ∀ i number, (i, number) ∈ seen.sent →
    i < link ∨ i = link ∧ ∃ w, wait = some w ∧ number = w.sentSequence
  acked : ∀ i number, (i, number) ∈ seen.acked →
    i < link ∨ i = link ∧ ∃ w, wait = some w ∧ number ≠ w.sentSequence
  waiting : ∀ w, wait = some w → link < channel.linkCount ∧ (link, w.sentSequence) ∈ seen.sent

theorem exchangingStart (channel : DualChannel) : Exchanging channel Seen.empty 0 0 false none :=
  ⟨Nat.zero_le _, by simp, rfl, by simp [Seen.empty], by simp [Seen.empty], by simp [Seen.empty], by simp⟩

theorem exchangingDone {channel : DualChannel} {seen : Seen} {link ackCount : Nat} {hardFault up : Bool}
    (payload : Option Bytes) (frame : Bytes) (inside : link < channel.linkCount)
    (below : ∀ i < link, channel.linkUp i = true ↔ seen.Met i) (here : up = true ↔ seen.Met link)
    (count : ackCount = (List.range link).countP channel.linkUp) (fault : hardFault = true ↔ seen.faults ≠ [])
    (sent : ∀ i number, (i, number) ∈ seen.sent → i ≤ link)
    (acked : ∀ i number, (i, number) ∈ seen.acked → i ≤ link) :
    ∃ ackCount', (linkDone channel payload frame link ackCount hardFault up).2 =
        .inl (.exchange payload frame (link + 1) ackCount' hardFault none) ∧
      Exchanging (linkDone channel payload frame link ackCount hardFault up).1 seen (link + 1) ackCount' hardFault
        none := by
  refine ⟨if up then ackCount + 1 else ackCount, rfl, inside, ?_, ?_, fault, ?_, ?_, by simp⟩
  · intro i upTo
    rcases Nat.lt_succ_iff_lt_or_eq.mp upTo with before | rfl
    · simpa [linkDone, Nat.ne_of_lt before] using below i before
    · simpa [linkDone] using here
  · have same : (List.range link).countP (Function.update channel.linkUp link up) =
        (List.range link).countP channel.linkUp := by
      refine List.countP_congr fun i member => ?_
      rw [Function.update_of_ne (Nat.ne_of_lt (List.mem_range.mp member))]
    simp only [linkDone, List.range_succ, List.countP_append, same, ← count]
    cases up <;> simp
  · exact fun i number member => Or.inl (Nat.lt_succ_of_le (sent i number member))
  · exact fun i number member => Or.inl (Nat.lt_succ_of_le (acked i number member))

section Step
variable {channel : DualChannel} {m : ChecksumManager} {answer : Answer} {seen : Seen} {link ackCount : Nat}
variable {hardFault : Bool} {payload : Option Bytes} {frame : Bytes} {done : Performed}

def GoesOn (payload : Option Bytes) (frame : Bytes) (seen : Seen) (result : DualChannel × (Call ⊕ Returned)) : Prop :=
  ∃ link ackCount hardFault wait, result.2 = .inl (.exchange payload frame link ackCount hardFault wait) ∧
    Exchanging result.1 seen link ackCount hardFault wait

theorem goesOnDone {up : Bool} (inside : link < channel.linkCount)
    (below : ∀ i < link, channel.linkUp i = true ↔ seen.Met i) (here : up = true ↔ seen.Met link)
    (count : ackCount = (List.range link).countP channel.linkUp) (fault : hardFault = true ↔ seen.faults ≠ [])
    (sent : ∀ i number, (i, number) ∈ seen.sent → i ≤ link)
    (acked : ∀ i number, (i, number) ∈ seen.acked → i ≤ link) :
    GoesOn payload frame seen (linkDone channel payload frame link ackCount hardFault up) := by
  obtain ⟨ackCount', next, exchanging⟩ := exchangingDone payload frame inside below here count fault sent acked
  exact ⟨_, ackCount', _, _, next, exchanging⟩

theorem belowKept {wait : Option AckWait} (exchanging : Exchanging channel seen link ackCount hardFault wait)
    {action : Action} (here : action.link = link) :
    ∀ i < link, channel.linkUp i = true ↔ (seen.observe action done).Met i := by
  intro i before
  rw [exchanging.up i before, Seen.metElsewhere (here ▸ Nat.ne_of_lt before)]

theorem transmitGoesOn (exchanging : Exchanging channel seen link ackCount hardFault none)
    (inside : link < channel.linkCount) (access : Access channel m answer (.transmit link frame) done) :
    GoesOn payload frame (seen.observe (.transmit link frame) done)
      (settle done.channel done answer.nowMs (.exchange payload frame link ackCount hardFault none)) := by
  obtain ⟨status, sequence⟩ := access.sent link frame rfl
  have unmatched : ∀ number, done.matched ≠ some (.ack number) := by
    intro number matched
    obtain ⟨n, raw, accepted, _⟩ := (access.acked number).mp matched
    cases (access.heard n raw accepted).1
  have acked : ∀ i number, (i, number) ∈ (seen.observe (.transmit link frame) done).acked → i < link := by
    intro i number member
    rcases (Seen.observeAcked _ _ _ _ _).mp member with old | ⟨_, matched⟩
    · rcases exchanging.acked i number old with before | ⟨_, w, absent, _⟩
      · exact before
      · cases absent
    · exact absurd matched (unmatched number)
  have sent : ∀ i number, (i, number) ∈ (seen.observe (.transmit link frame) done).sent →
      i < link ∨ i = link ∧ number = done.sequence := by
    intro i number member
    rcases (Seen.observeSent _ _ _ _ _).mp member with old | ⟨_, raw, message, same, carried, number_⟩
    · rcases exchanging.sent i number old with before | ⟨_, w, absent, _⟩
      · exact Or.inl before
      · cases absent
    · cases same
      refine Or.inr ⟨rfl, ?_⟩
      rw [number_, (access.posts.numbered raw message carried).1, sequence]
      rfl
  have below : ∀ i < link, channel.linkUp i = true ↔ (seen.observe (.transmit link frame) done).Met i :=
    belowKept exchanging rfl
  have fault : (hardFault || done.status == .hardwareFault) = true ↔
      (seen.observe (.transmit link frame) done).faults ≠ [] := by
    rw [Seen.observeFaults, ← exchanging.fault]
    simp
  have same := access.posts
  simp only [settle]
  split
  · rename_i goes
    refine ⟨link, ackCount, _, _, rfl, ?_⟩
    refine ⟨by rw [same.count]; exact exchanging.within, by rw [same.up]; exact below,
      by rw [same.up]; exact exchanging.count, fault, ?_, ?_, ?_⟩
    · intro i number member
      rcases sent i number member with before | ⟨here, number_⟩
      · exact Or.inl before
      · exact Or.inr ⟨here, _, rfl, number_⟩
    · exact fun i number member => Or.inl (acked i number member)
    · rintro w ⟨⟩
      refine ⟨by rw [same.count]; exact inside, ?_⟩
      obtain ⟨⟨raw, message⟩, carried⟩ := Option.isSome_iff_exists.mp (status.mp goes.1)
      refine (Seen.observeSent _ _ _ _ _).mpr (Or.inr ⟨_, raw, message, rfl, carried, ?_⟩)
      rw [(same.numbered raw message carried).1, sequence]
      rfl
  · refine goesOnDone (by rw [same.count]; exact inside) (by rw [same.up]; exact below) ?_
      (by rw [same.up]; exact exchanging.count) fault ?_ ?_
    · simp only [Bool.false_eq_true, false_iff]
      rintro ⟨number, _, member⟩
      exact Nat.lt_irrefl _ (acked link number member)
    · intro i number member
      rcases sent i number member with before | ⟨rfl, _⟩
      · exact Nat.le_of_lt before
      · exact Nat.le_refl _
    · exact fun i number member => Nat.le_of_lt (acked i number member)

theorem pollSent {w : AckWait} (exchanging : Exchanging channel seen link ackCount hardFault (some w)) {i : Nat}
    {number : UInt32} (member : (i, number) ∈ (seen.observe (.poll link) done).sent) :
    i < link ∨ i = link ∧ number = w.sentSequence := by
  rcases (Seen.observeSent _ _ _ _ _).mp member with old | ⟨_, _, _, same, _, _⟩
  · rcases exchanging.sent i number old with before | ⟨here, _, ⟨⟩, number_⟩
    · exact Or.inl before
    · exact Or.inr ⟨here, number_⟩
  · cases same

theorem pollAcked {w : AckWait} (exchanging : Exchanging channel seen link ackCount hardFault (some w)) {i : Nat}
    {number : UInt32} (member : (i, number) ∈ (seen.observe (.poll link) done).acked) :
    i < link ∨ i = link ∧ (number ≠ w.sentSequence ∨ done.matched = some (.ack w.sentSequence)) := by
  rcases (Seen.observeAcked _ _ _ _ _).mp member with old | ⟨here, matched⟩
  · rcases exchanging.acked i number old with before | ⟨here, _, ⟨⟩, number_⟩
    · exact Or.inl before
    · exact Or.inr ⟨here, Or.inl number_⟩
  · refine Or.inr ⟨here, ?_⟩
    by_cases own : number = w.sentSequence
    · exact Or.inr (own ▸ matched)
    · exact Or.inl own

theorem pollMet {w : AckWait} (exchanging : Exchanging channel seen link ackCount hardFault (some w)) :
    (seen.observe (.poll link) done).Met link ↔ done.matched = some (.ack w.sentSequence) := by
  constructor
  · rintro ⟨number, own, acked⟩
    rcases pollSent exchanging own with before | ⟨_, rfl⟩
    · exact absurd before (Nat.lt_irrefl _)
    rcases pollAcked exchanging acked with before | ⟨_, other | matched⟩
    · exact absurd before (Nat.lt_irrefl _)
    · exact absurd rfl other
    · exact matched
  · intro matched
    exact ⟨_, (Seen.observeSent _ _ _ _ _).mpr (Or.inl (exchanging.waiting w rfl).2),
      (Seen.observeAcked _ _ _ _ _).mpr (Or.inr ⟨rfl, matched⟩)⟩

theorem pollDone {w : AckWait} (exchanging : Exchanging channel seen link ackCount hardFault (some w))
    (access : Access channel m answer (.poll link) done) {fault up : Bool}
    (own : up = true ↔ done.matched = some (.ack w.sentSequence))
    (faults : fault = true ↔ (seen.observe (.poll link) done).faults ≠ []) :
    GoesOn payload frame (seen.observe (.poll link) done)
      (linkDone done.channel payload frame link ackCount fault up) := by
  have same := access.posts
  refine goesOnDone (by rw [same.count]; exact (exchanging.waiting w rfl).1)
    (by rw [same.up]; exact belowKept exchanging rfl) (own.trans (pollMet exchanging).symm)
    (by rw [same.up]; exact exchanging.count) faults ?_ ?_
  · intro i number member
    rcases pollSent exchanging member with before | ⟨rfl, _⟩
    · exact Nat.le_of_lt before
    · exact Nat.le_refl _
  · intro i number member
    rcases pollAcked exchanging member with before | ⟨rfl, _⟩
    · exact Nat.le_of_lt before
    · exact Nat.le_refl _

theorem pollGoesOn {w : AckWait} (exchanging : Exchanging channel seen link ackCount hardFault (some w))
    (access : Access channel m answer (.poll link) done) :
    GoesOn payload frame (seen.observe (.poll link) done)
      (settle done.channel done answer.nowMs (.exchange payload frame link ackCount hardFault (some w))) := by
  obtain ⟨inside, mine⟩ := exchanging.waiting w rfl
  have same := access.posts
  simp only [settle, judgePoll]
  by_cases matched : done.matched = some (.ack w.sentSequence)
  · have status := access.fine (by simp [matched])
    rw [if_pos ⟨status, matched⟩]
    refine pollDone exchanging access (by simp [matched]) ?_
    rw [Seen.observeFaults, ← exchanging.fault]
    simp [status]
  rw [if_neg (fun own => matched own.2)]
  by_cases broken : done.status = .hardwareFault
  · rw [if_pos broken]
    refine pollDone exchanging access (by simp [matched]) ?_
    rw [Seen.observeFaults]
    simp [broken]
  rw [if_neg broken]
  have faults : hardFault = true ↔ (seen.observe (.poll link) done).faults ≠ [] := by
    rw [Seen.observeFaults, ← exchanging.fault]
    simp [broken]
  dsimp only
  split
  · have number : (w.elapse done.channel.ackTimeoutMs answer.nowMs).sentSequence = w.sentSequence := by
      unfold AckWait.elapse
      split <;> rfl
    refine ⟨link, ackCount, _, _, rfl, ?_⟩
    refine ⟨by rw [same.count]; exact exchanging.within, by rw [same.up]; exact belowKept exchanging rfl,
      by rw [same.up]; exact exchanging.count, faults, ?_, ?_, ?_⟩
    · intro i n member
      rcases pollSent exchanging member with before | ⟨here, n_⟩
      · exact Or.inl before
      · exact Or.inr ⟨here, _, rfl, n_.trans number.symm⟩
    · intro i n member
      rcases pollAcked exchanging member with before | ⟨here, other | own⟩
      · exact Or.inl before
      · exact Or.inr ⟨here, _, rfl, fun n_ => other (n_.trans number)⟩
      · exact absurd own matched
    · rintro _ ⟨⟩
      rw [number, same.count]
      exact ⟨inside, (Seen.observeSent _ _ _ _ _).mpr (Or.inl mine)⟩
  · exact pollDone exchanging access (by simp [matched]) faults

end Step

theorem statusDown (channel : DualChannel) :
    computeStatus channel = .down ↔ ∀ i < channel.linkCount, channel.linkUp i = false := by
  have none : upCount channel = 0 ↔ ∀ i < channel.linkCount, channel.linkUp i = false := by
    simp [upCount, List.countP_eq_zero]
  rw [← none, computeStatus]
  split
  · rename_i zero
    exact iff_of_true rfl zero
  · rename_i up
    split <;> simp only [reduceCtorEq, false_iff] <;> exact up

theorem statusFull (channel : DualChannel) :
    computeStatus channel = .full ↔ ∀ i < channel.linkCount, channel.linkUp i = true := by
  have all : upCount channel = channel.linkCount ↔ ∀ i < channel.linkCount, channel.linkUp i = true := by
    have length := List.countP_eq_length (l := List.range channel.linkCount) (p := channel.linkUp)
    rw [List.length_range] at length
    rw [upCount, length]
    simp
  have some_ := channel.some_
  rw [← all, computeStatus]
  split
  · simp only [reduceCtorEq, false_iff]
    omega
  split
  · rename_i every
    exact iff_of_true rfl every
  · rename_i notAll
    simp only [reduceCtorEq, false_iff]
    exact notAll

theorem statusDegraded (channel : DualChannel) :
    computeStatus channel = .degraded ↔
      (∃ i < channel.linkCount, channel.linkUp i = true) ∧ ∃ i < channel.linkCount, channel.linkUp i = false := by
  have down := statusDown channel
  have full := statusFull channel
  have other : computeStatus channel = .degraded ↔ computeStatus channel ≠ .down ∧ computeStatus channel ≠ .full := by
    cases computeStatus channel <;> simp
  rw [other, Ne, down, Ne, full]
  simp

structure Concluded (before : DualChannelStatus) (seen : Seen) (after : DualChannel) (status : RteStatus)
    (ackCount : Nat) (callback : Option (DualChannelStatus × DualChannelStatus)) : Prop where
  up : ∀ i < after.linkCount, after.linkUp i = true ↔ seen.Met i
  count : ackCount = upCount after
  status : (status = .ok ↔ 0 < ackCount) ∧
    (ackCount = 0 → (status = .hardwareFault ↔ seen.faults ≠ []) ∧ (status ≠ .hardwareFault → status = .timeout))
  down : after.lastStatus = .down ↔ ∀ i < after.linkCount, after.linkUp i = false
  degraded : after.lastStatus = .degraded ↔
    (∃ i < after.linkCount, after.linkUp i = true) ∧ ∃ i < after.linkCount, after.linkUp i = false
  full : after.lastStatus = .full ↔ ∀ i < after.linkCount, after.linkUp i = true
  callback : callback =
    if after.lastStatus ≠ before ∧ after.statusCallback = true then some (after.lastStatus, before) else none

theorem updateStatusLast (channel : DualChannel) :
    (updateStatus channel).1 = { channel with lastStatus := computeStatus channel } := by
  simp only [updateStatus]
  split
  · rfl
  · rename_i same
    rw [not_not.mp same]

theorem updateStatusCallback (channel : DualChannel) : (updateStatus channel).2 =
    if computeStatus channel ≠ channel.lastStatus ∧ channel.statusCallback = true then
      some (computeStatus channel, channel.lastStatus) else none := by
  simp only [updateStatus]
  split
  · rename_i changed
    simp [changed]
  · rename_i same
    simp [same]

theorem finishConcluded {channel : DualChannel} {seen : Seen} {link ackCount : Nat} {hardFault : Bool}
    {wait : Option AckWait} (exchanging : Exchanging channel seen link ackCount hardFault wait)
    (last : link = channel.linkCount) (payload : Option Bytes) (frame : Bytes) :
    ∃ status callback, (finishCall channel (.exchange payload frame link ackCount hardFault wait)).2 =
        .inr (.exchange payload status (some ackCount) callback) ∧
      Concluded channel.lastStatus seen (finishCall channel (.exchange payload frame link ackCount hardFault wait)).1
        status ackCount callback := by
  refine ⟨_, _, rfl, ?_⟩
  have after : (finishCall channel (.exchange payload frame link ackCount hardFault wait)).1 =
      { channel with lastStatus := computeStatus channel } := updateStatusLast channel
  rw [after]
  refine ⟨?_, ?_, ?_, statusDown channel, statusDegraded channel, statusFull channel, updateStatusCallback channel⟩
  · exact fun i inside => exchanging.up i (by rw [last]; exact inside)
  · rw [exchanging.count, last]
    rfl
  · rw [← exchanging.fault]
    rcases Nat.eq_zero_or_pos ackCount with rfl | some_
    · cases hardFault <;> simp
    · simp [some_, Nat.ne_of_gt some_]

theorem exchangeAdvance {channel : DualChannel} (m : ChecksumManager) (answer : Answer) {seen : Seen}
    {link ackCount : Nat} {hardFault : Bool} {wait : Option AckWait} {payload : Option Bytes} {frame : Bytes}
    (exchanging : Exchanging channel seen link ackCount hardFault wait) :
    let call := Call.exchange payload frame link ackCount hardFault wait
    let progress := advance channel m call answer
    GoesOn payload frame (seen.observe (nextAction channel call) progress.done) (progress.channel, progress.next) ∨
      seen.observe (nextAction channel call) progress.done = seen ∧
        ∃ status callback, progress.next = .inr (.exchange payload status (some ackCount) callback) ∧
          Concluded channel.lastStatus seen progress.channel status ackCount callback := by
  dsimp only
  cases wait with
  | some w =>
    have inside := (exchanging.waiting w rfl).1
    have action : nextAction channel (.exchange payload frame link ackCount hardFault (some w)) = .poll link := by
      simp [nextAction, inside]
    simp only [advance, conclude, action]
    exact Or.inl (pollGoesOn exchanging (performAccess channel m answer (.poll link)))
  | none =>
    by_cases inside : link < channel.linkCount
    · have action : nextAction channel (.exchange payload frame link ackCount hardFault none) =
          .transmit link frame := by
        simp [nextAction, inside]
      simp only [advance, conclude, action]
      exact Or.inl (transmitGoesOn exchanging inside (performAccess channel m answer (.transmit link frame)))
    · have action : nextAction channel (.exchange payload frame link ackCount hardFault none) = .finish := by
        simp [nextAction, inside]
      have last : link = channel.linkCount := Nat.le_antisymm exchanging.within (Nat.le_of_not_lt inside)
      simp only [advance, conclude, action, perform]
      exact Or.inr ⟨rfl, finishConcluded exchanging last payload frame⟩

end PlatformRte.Dual.Channel
