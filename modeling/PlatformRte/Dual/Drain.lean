import PlatformRte.Dual.Listening

/-! What the receives of one round read. A sweep takes the next entry of every link, and
the loop of receives takes all of them up to the first sweep that finds no beacon. -/
namespace PlatformRte.Dual.Listening
open Bytes Checksum Channel Sweep

structure Alike (channel : DualChannel) (m : ChecksumManager) (channel' : DualChannel) (m' : ChecksumManager) :
    Prop where
  count : channel'.linkCount = channel.linkCount
  state : channel'.pendingState = channel.pendingState
  links : ∀ j, SameInbound (channel.links j) (channel'.links j)
  table : SameTable m m'

theorem sendAlike (channel : DualChannel) (m : ChecksumManager) (i : Nat) (raw : Bytes) (answer : Answer) :
    Alike channel m (sendOnLink channel m i raw answer).channel (sendOnLink channel m i raw answer).manager := by
  have kept := createKeeps m (channel.links i).senderId (channel.links i).nextSequence raw answer.stampMs
  have sent : SameInbound (channel.links i)
        (dualMsgchannelSend (channel.links i) m raw answer.stampMs answer.linkStatus).channel ∧
      SameTable m (dualMsgchannelSend (channel.links i) m raw answer.stampMs answer.linkStatus).manager := by
    unfold dualMsgchannelSend
    cases created : checksumVitalMessageCreate m (channel.links i).senderId (channel.links i).nextSequence raw
        answer.stampMs with
    | mk m' result =>
      rw [created] at kept
      cases result with
      | error status => exact ⟨⟨rfl, rfl, rfl⟩, kept⟩
      | ok frame =>
        dsimp only
        split <;> exact ⟨⟨rfl, rfl, rfl⟩, kept⟩
  refine ⟨rfl, rfl, fun j => ?_, sent.2⟩
  rcases eq_or_ne j i with rfl | elsewhere
  · simpa [sendOnLink, withLink] using sent.1
  · simp only [sendOnLink, withLink, Function.update_of_ne elsewhere]
    exact ⟨rfl, rfl, rfl⟩

theorem dispatchHears (channel : DualChannel) (m : ChecksumManager) (i : Nat) (raw : Bytes) (sequence : UInt32)
    (answer : Answer) :
    let done := dispatchFrame channel m i raw sequence answer
    Alike { channel with pendingState := (beaconOf raw).or channel.pendingState } m done.channel done.manager := by
  have self : Alike channel m channel m := ⟨rfl, rfl, fun _ => ⟨rfl, rfl, rfl⟩, rfl, rfl⟩
  dsimp only
  unfold dispatchFrame
  dsimp only
  split
  · rename_i tooShort
    rw [beaconShort (Nat.lt_trans tooShort (by decide))]
    exact self
  split
  · rename_i kind
    rw [beaconOther (by simp [kind])]
    split
    · have sent := sendAlike { channel with pendingData := some (raw.drop headerSize) } m i (ackFrame sequence) answer
      exact ⟨sent.count, sent.state, sent.links, sent.table⟩
    · exact sendAlike channel m i (ackFrame sequence) answer
  · rename_i kind
    rw [beaconOther (by simp [kind])]
    split <;> exact self
  · rename_i kind
    split
    · rename_i tooShort
      rw [beaconShort tooShort]
      exact self
    · rename_i enough
      have some_ : beaconOf raw = some (readStateFrame raw) := if_pos ⟨Nat.le_of_not_lt enough, kind⟩
      rw [some_]
      exact ⟨rfl, rfl, fun _ => ⟨rfl, rfl, rfl⟩, rfl, rfl⟩
  · rename_i kind
    rw [beaconOther (by simp [kind])]
    exact sendAlike channel m i (ackFrame sequence) answer
  · rename_i kind
    rw [beaconOther (by simp [kind])]
    exact self

structure Polled (channel : DualChannel) (m : ChecksumManager) (i : Nat) (answer : Answer) (channel' : DualChannel)
    (m' : ChecksumManager) : Prop where
  count : channel'.linkCount = channel.linkCount
  state : channel'.pendingState = (holds (heardOn (channel.links i) m [answer]) 0).or channel.pendingState
  own : SameInbound (dualMsgchannelReceive (channel.links i) m (UInt8.ofNat vitalPayloadMax) answer.arrival).channel
    (channel'.links i)
  others : ∀ j, j ≠ i → SameInbound (channel.links j) (channel'.links j)
  table : SameTable (dualMsgchannelReceive (channel.links i) m (UInt8.ofNat vitalPayloadMax) answer.arrival).manager m'

theorem pollReads (channel : DualChannel) (m : ChecksumManager) (i : Nat) (answer : Answer) :
    Polled channel m i answer (pollLinkOnce channel m i answer).channel (pollLinkOnce channel m i answer).manager := by
  unfold pollLinkOnce
  dsimp only
  cases delivered :
      (dualMsgchannelReceive (channel.links i) m (UInt8.ofNat vitalPayloadMax) answer.arrival).delivered with
  | none =>
    refine ⟨rfl, by simp [heardOn, delivered, withLink], ?_, fun j elsewhere => ?_, rfl, rfl⟩
    · simp only [withLink, Function.update_self]
      exact ⟨rfl, rfl, rfl⟩
    · simp only [withLink, Function.update_of_ne elsewhere]
      exact ⟨rfl, rfl, rfl⟩
  | some heard =>
    obtain ⟨raw, sequence⟩ := heard
    have alike := dispatchHears (withLink channel i
      (dualMsgchannelReceive (channel.links i) m (UInt8.ofNat vitalPayloadMax) answer.arrival).channel)
      (dualMsgchannelReceive (channel.links i) m (UInt8.ofNat vitalPayloadMax) answer.arrival).manager i raw sequence
      answer
    refine ⟨alike.count, ?_, ?_, fun j elsewhere => ?_, alike.table⟩
    · refine alike.state.trans ?_
      simp [heardOn, delivered, withLink]
    · have own := alike.links i
      simpa only [withLink, Function.update_self] using own
    · have other := alike.links j
      simpa only [withLink, Function.update_of_ne elsewhere] using other

theorem pollLinkHears (s : Links) (i : Nat) :
    (s.pollLink i).channel.linkCount = s.channel.linkCount ∧
      (s.pollLink i).channel.pendingState = (holds (s.heard i) 0).or s.channel.pendingState ∧
      (s.pollLink i).heard i = (s.heard i).tail ∧ ∀ j, j ≠ i → (s.pollLink i).heard j = s.heard j := by
  have polled := pollReads s.channel s.manager i ((s.reads i).headD silence)
  have kept := receiveKeepsTable (s.channel.links i) s.manager (UInt8.ofNat vitalPayloadMax)
    ((s.reads i).headD silence).arrival
  have own := heardDepends polled.own polled.table (s.reads i).tail
  refine ⟨polled.count, polled.state.trans ?_, ?_, fun j elsewhere => ?_⟩
  · cases waiting : s.reads i with
    | nil => simp [Links.heard, waiting, heardOn, silence, dualMsgchannelReceive, vitalPayloadMax]
    | cons answer rest => simp [Links.heard, waiting, heardOn]
  · simp only [Links.heard, Links.pollLink, Function.update_self]
    rw [own]
    cases s.reads i <;> rfl
  · simp only [Links.heard, Links.pollLink, Function.update_of_ne elsewhere]
    exact heardDepends (polled.others j elsewhere) (kept.trans polled.table) (s.reads j)

structure Swept (n : Nat) (s s' : Links) : Prop where
  count : s'.channel.linkCount = s.channel.linkCount
  state : s'.channel.pendingState = (last (fun i => holds (s.heard i) 0) n).or s.channel.pendingState
  heard : ∀ j, s'.heard j = if j < n then (s.heard j).tail else s.heard j
  reads : ∀ j, s'.reads j = if j < n then (s.reads j).tail else s.reads j

theorem foldSwept (s : Links) (n : Nat) : Swept n s ((List.range n).foldl Links.pollLink s) := by
  induction n with
  | zero => exact ⟨rfl, rfl, fun _ => rfl, fun _ => rfl⟩
  | succ n ih =>
    rw [List.range_succ, List.foldl_append]
    obtain ⟨count, state, own, others⟩ := pollLinkHears ((List.range n).foldl Links.pollLink s) n
    have unread : ((List.range n).foldl Links.pollLink s).heard n = s.heard n := by
      rw [ih.heard, if_neg (Nat.lt_irrefl n)]
    refine ⟨count.trans ih.count, ?_, fun j => ?_, fun j => ?_⟩
    · refine state.trans ?_
      rw [unread, ih.state, last, Option.or_assoc]
    · rcases eq_or_ne j n with rfl | elsewhere
      · rw [if_pos (Nat.lt_succ_self j), ← unread]
        exact own
      · refine (others j elsewhere).trans ((ih.heard j).trans ?_)
        simp only [Nat.lt_succ_iff_lt_or_eq, elsewhere, or_false]
    · rcases eq_or_ne j n with rfl | elsewhere
      · rw [if_pos (Nat.lt_succ_self j)]
        simp only [List.foldl_cons, List.foldl_nil, Links.pollLink, Function.update_self]
        rw [ih.reads, if_neg (Nat.lt_irrefl j)]
      · simp only [List.foldl_cons, List.foldl_nil, Links.pollLink, Function.update_of_ne elsewhere]
        refine (ih.reads j).trans ?_
        simp only [Nat.lt_succ_iff_lt_or_eq, elsewhere, or_false]

def stepCall (x : Links × (Call ⊕ Returned)) : Links × (Call ⊕ Returned) :=
  match x.2 with
  | .inr _ => x
  | .inl call =>
      match nextAction x.1.channel call with
      | .poll i =>
          let progress := advance x.1.channel x.1.manager call ((x.1.reads i).headD silence)
          (⟨progress.channel, progress.manager, Function.update x.1.reads i (x.1.reads i).tail⟩, progress.next)
      | _ =>
          let progress := advance x.1.channel x.1.manager call silence
          (⟨progress.channel, progress.manager, x.1.reads⟩, progress.next)

theorem stepPolls {s : Links} {link : Nat} (inside : link < s.channel.linkCount) :
    stepCall (s, .inl (.receiveState link)) = (s.pollLink link, .inl (.receiveState (link + 1))) := by
  simp only [stepCall, nextAction, if_pos inside]
  simp only [advance, nextAction, if_pos inside, perform, conclude, settle]
  rfl

theorem stepsSweep (s : Links) {k : Nat} (inside : k ≤ s.channel.linkCount) :
    stepCall^[k] (s, .inl (.receiveState 0)) = ((List.range k).foldl Links.pollLink s, .inl (.receiveState k)) := by
  induction k with
  | zero => rfl
  | succ k ih =>
    have count := (foldSwept s k).count
    rw [Function.iterate_succ_apply', ih (Nat.le_of_succ_le inside), stepPolls (by rw [count]; exact inside),
      List.range_succ, List.foldl_append]
    rfl

theorem stepFinishes (s : Links) :
    stepCall (s, .inl (.receiveState s.channel.linkCount)) =
      match s.channel.pendingState with
      | none => (s, .inr (.receiveState .timeout none))
      | some frame =>
          ({ s with channel := { s.channel with pendingState := none } }, .inr (.receiveState .ok (some frame))) := by
  simp only [stepCall, nextAction, if_neg (Nat.lt_irrefl _), advance, perform, conclude, finishCall]
  cases s.channel.pendingState <;> rfl

/- The receive of the round is the call of the channel, run from its start to its return. -/
theorem receiveIsCall (s : Links) : ∃ steps status, stepCall^[steps] (s, startCall s.channel .receiveStateFrame) =
      (s.receiveStateFrame.1, .inr (.receiveState status s.receiveStateFrame.2)) ∧
    (status = .ok ↔ s.receiveStateFrame.2.isSome = true) := by
  cases staged : s.channel.pendingState with
  | some frame =>
    refine ⟨1, .ok, ?_, by simp [Links.receiveStateFrame, staged]⟩
    have start : startCall s.channel .receiveStateFrame = .inl (.receiveState s.channel.linkCount) := by
      simp [startCall, staged]
    rw [start, Function.iterate_one, stepFinishes]
    simp [Links.receiveStateFrame, staged]
  | none =>
    have start : startCall s.channel .receiveStateFrame = .inl (.receiveState 0) := by simp [startCall, staged]
    have swept : stepCall^[s.channel.linkCount] (s, .inl (.receiveState 0)) =
        (s.sweep, .inl (.receiveState s.sweep.channel.linkCount)) := by
      rw [stepsSweep s (Nat.le_refl _), show s.sweep.channel.linkCount = s.channel.linkCount from
        (foldSwept s s.channel.linkCount).count]
      rfl
    have finished := stepFinishes s.sweep
    cases found : s.sweep.channel.pendingState with
    | none =>
      rw [found] at finished
      refine ⟨s.channel.linkCount + 1, .timeout, ?_, by simp [Links.receiveStateFrame, staged, found]⟩
      rw [start, Function.iterate_succ_apply', swept, finished]
      simp [Links.receiveStateFrame, staged, found]
    | some frame =>
      rw [found] at finished
      refine ⟨s.channel.linkCount + 1, .ok, ?_, by simp [Links.receiveStateFrame, staged, found]⟩
      rw [start, Function.iterate_succ_apply', swept, finished]
      simp [Links.receiveStateFrame, staged, found]
def Links.round (s : Links) (k : Nat) : Option DualStateFrame :=
  last (fun i => holds (s.heard i) k) s.channel.linkCount

structure Advanced (d : Nat) (s s' : Links) : Prop where
  count : s'.channel.linkCount = s.channel.linkCount
  idle : s'.channel.pendingState = none
  heard : ∀ j < s.channel.linkCount, s'.heard j = (s.heard j).drop d
  reads : ∀ j < s.channel.linkCount, s'.reads j = (s.reads j).drop d

theorem Advanced.trans {d e : Nat} {s s' s'' : Links} (first : Advanced d s s') (second : Advanced e s' s'') :
    Advanced (d + e) s s'' := by
  refine ⟨second.count.trans first.count, second.idle, fun j inside => ?_, fun j inside => ?_⟩
  · rw [second.heard j (first.count ▸ inside), first.heard j inside, List.drop_drop]
  · rw [second.reads j (first.count ▸ inside), first.reads j inside, List.drop_drop]

theorem Advanced.round {d : Nat} {s s' : Links} (advanced : Advanced d s s') (k : Nat) :
    s'.round k = s.round (d + k) := by
  rw [Links.round, advanced.count]
  refine lastCongr fun i inside => ?_
  rw [advanced.heard i inside, holdsDrop]

theorem receiveSweeps {s : Links} (idle : s.channel.pendingState = none) :
    s.receiveStateFrame.2 = s.round 0 ∧ Advanced 1 s s.receiveStateFrame.1 := by
  have swept : Swept s.channel.linkCount s s.sweep := foldSwept s s.channel.linkCount
  have state : s.sweep.channel.pendingState = s.round 0 := by
    rw [swept.state, idle, Option.or_none, Links.round]
  have heard : ∀ j < s.channel.linkCount, s.sweep.heard j = (s.heard j).drop 1 := fun j inside => by
    rw [swept.heard, if_pos inside, List.drop_one]
  have reads : ∀ j < s.channel.linkCount, s.sweep.reads j = (s.reads j).drop 1 := fun j inside => by
    rw [swept.reads, if_pos inside, List.drop_one]
  unfold Links.receiveStateFrame
  simp only [idle, Option.isSome_none, Bool.false_eq_true, if_false]
  cases found : s.sweep.channel.pendingState with
  | none => exact ⟨found.symm.trans state, swept.count, found, heard, reads⟩
  | some frame => exact ⟨found.symm.trans state, swept.count, rfl, heard, reads⟩

theorem receiveStaged {s : Links} {frame : DualStateFrame} (staged : s.channel.pendingState = some frame) :
    s.receiveStateFrame.2 = some frame ∧ Advanced 0 s s.receiveStateFrame.1 := by
  have same : s.receiveStateFrame = ({ s with channel := { s.channel with pendingState := none } }, some frame) := by
    simp [Links.receiveStateFrame, staged]
  rw [same]
  exact ⟨rfl, rfl, rfl, fun _ _ => rfl, fun _ _ => rfl⟩

theorem heardLength (link : DualMsgchannel) (m : ChecksumManager) (answers : List Answer) :
    (heardOn link m answers).length = answers.length := by
  induction answers generalizing link m with
  | nil => rfl
  | cons answer rest ih => simp only [heardOn, List.length_cons, ih]

theorem roundInside {s : Links} {k : Nat} (some_ : (s.round k).isSome = true) :
    ∃ i < s.channel.linkCount, k < (s.reads i).length := by
  obtain ⟨i, inside, held⟩ := lastIsSome.mp some_
  obtain ⟨frame, held⟩ := Option.isSome_iff_exists.mp held
  have short := holdsInside held
  rw [Links.heard, heardLength] at short
  exact ⟨i, inside, short⟩

def processed (n : DualNegotiator) (frames : List (DualStateFrame × UInt64)) : DualNegotiator :=
  frames.foldl (fun n (entry : DualStateFrame × UInt64) => negotiatorProcessPeerFrame n entry.1 entry.2) n

structure Drained (r : Round) (stop : Nat) (frames : List (DualStateFrame × UInt64)) (after : Round) : Prop where
  barren : r.links.round stop = none
  before : ∀ j < stop, (r.links.round j).isSome = true
  read : frames.map Prod.fst = yielded r.links.round stop
  negotiator : after.negotiator = processed r.negotiator frames
  links : Advanced (stop + 1) r.links after.links

theorem drainReads {fuel : Nat} {r : Round} (idle : r.links.channel.pendingState = none)
    (enough : ∀ i < r.links.channel.linkCount, (r.links.reads i).length < fuel) :
    ∃ stop frames after, drain fuel r = some after ∧ Drained r stop frames after := by
  induction fuel generalizing r with
  | zero => exact absurd (enough 0 r.links.channel.some_) (Nat.not_lt_zero _)
  | succ fuel ih =>
    obtain ⟨returned, advanced⟩ := receiveSweeps idle
    cases found : r.links.round 0 with
    | none =>
      have stopped : drain (fuel + 1) r = some { r with links := r.links.receiveStateFrame.1 } := by
        rw [drain, show r.links.receiveStateFrame = (r.links.receiveStateFrame.1, none) from
          Prod.ext rfl (returned.trans found)]
      exact ⟨0, [], _, stopped, found, fun j inside => absurd inside (Nat.not_lt_zero j), rfl, rfl, advanced⟩
    | some frame =>
      have goesOn : drain (fuel + 1) r =
          drain fuel ({ r with links := r.links.receiveStateFrame.1 }.process frame) := by
        rw [drain, show r.links.receiveStateFrame = (r.links.receiveStateFrame.1, some frame) from
          Prod.ext rfl (returned.trans found)]
      obtain ⟨i, inside, waiting⟩ := roundInside (s := r.links) (k := 0) (by simp [found])
      have fewer : ∀ i < r.links.receiveStateFrame.1.channel.linkCount,
          (r.links.receiveStateFrame.1.reads i).length < fuel := by
        intro j within
        rw [advanced.count] at within
        have own := enough j within
        have other := enough i inside
        rw [advanced.reads j within, List.length_drop]
        omega
      obtain ⟨stop, frames, after, rest, drained⟩ :=
        ih (r := { r with links := r.links.receiveStateFrame.1 }.process frame) advanced.idle fewer
      have shifted : ∀ k, r.links.receiveStateFrame.1.round k = r.links.round (k + 1) := fun k => by
        rw [advanced.round, Nat.add_comm]
      refine ⟨stop + 1, (frame, r.clock 0) :: frames, after, goesOn.trans rest, ?_, ?_, ?_, drained.negotiator, ?_⟩
      · rw [← shifted]
        exact drained.barren
      · intro j inside
        cases j with
        | zero => simp [found]
        | succ j =>
          rw [← shifted]
          exact drained.before j (Nat.lt_of_succ_lt_succ inside)
      · rw [List.map_cons, drained.read, yieldedSucc, found]
        simp only [← shifted]
        rfl
      · rw [show stop + 1 + 1 = 1 + (stop + 1) by omega]
        exact advanced.trans drained.links

end PlatformRte.Dual.Listening
