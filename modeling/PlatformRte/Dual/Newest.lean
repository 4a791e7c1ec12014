import PlatformRte.Dual.Drain
import PlatformRte.Dual.Working
import Mathlib.Algebra.Order.BigOperators.Group.List

/-! Whether one round of the negotiator ends on the newest beacon that had arrived. The
receives of a round are its turns: the first one may take what was staged before the round,
and every other one reads the next entry of each link, the links in their order. -/
namespace PlatformRte.Dual.Listening
open Checksum Channel Sweep

theorem sendStateAlike (s : Links) (frame : DualStateFrame) (answers : Nat → Answer) :
    Alike s.channel s.manager (s.sendStateFrame frame answers).channel (s.sendStateFrame frame answers).manager ∧
      (s.sendStateFrame frame answers).reads = s.reads := by
  unfold Links.sendStateFrame
  induction s.channel.linkCount with
  | zero => exact ⟨⟨rfl, rfl, fun _ => ⟨rfl, rfl, rfl⟩, rfl, rfl⟩, rfl⟩
  | succ n ih =>
    rw [List.range_succ, List.foldl_append]
    obtain ⟨before, reads⟩ := ih
    generalize (List.range n).foldl (Links.sendOn answers (stateFrame frame)) s = t at before reads
    have sent := sendAlike t.channel t.manager n (stateFrame frame) (answers n)
    exact ⟨⟨sent.count.trans before.count, sent.state.trans before.state,
      fun j => (before.links j).trans (sent.links j), before.table.trans sent.table⟩, reads⟩

theorem sendStateHeard (s : Links) (frame : DualStateFrame) (answers : Nat → Answer) (i : Nat) :
    (s.sendStateFrame frame answers).heard i = s.heard i := by
  obtain ⟨alike, reads⟩ := sendStateAlike s frame answers
  rw [Links.heard, reads, heardDepends (alike.links i) alike.table]
  rfl

theorem readsEnough (s : Links) {i : Nat} (inside : i < s.channel.linkCount) : (s.reads i).length < s.enough :=
  Nat.lt_succ_of_le (List.le_sum_of_mem (List.mem_map_of_mem (List.mem_range.mpr inside)))

def Links.staged (s : Links) : Nat := if s.channel.pendingState.isSome then 1 else 0

def Links.found (s : Links) (turn link : Nat) : Option DualStateFrame :=
  match s.channel.pendingState, turn with
  | none, turn => holds (s.heard link) turn
  | some frame, 0 => if link = 0 then some frame else none
  | some _, turn + 1 => holds (s.heard link) turn

def Links.yields (s : Links) (turn : Nat) : Option DualStateFrame := last (s.found turn) s.channel.linkCount

theorem yieldsIdle {s : Links} (idle : s.channel.pendingState = none) (turn : Nat) : s.yields turn = s.round turn := by
  refine lastCongr fun i _ => ?_
  unfold Links.found
  rw [idle]

theorem yieldsStaged {s : Links} {frame : DualStateFrame} (staged : s.channel.pendingState = some frame) :
    s.yields 0 = some frame ∧ ∀ turn, s.yields (turn + 1) = s.round turn := by
  refine ⟨lastSome.mpr ⟨0, s.channel.some_, ?_, fun j after _ => ?_⟩, fun turn => lastCongr fun i _ => ?_⟩
  · simp [Links.found, staged]
  · simp [Links.found, staged, Nat.ne_of_gt after]
  · simp [Links.found, staged]

structure Executed (n : DualNegotiator) (s : Links) (stop : Nat) (frames : List (DualStateFrame × UInt64))
    (nowMs : UInt64) (after : DualNegotiator × Links) : Prop where
  stops : Stops s.yields stop
  read : frames.map Prod.fst = yielded s.yields stop
  negotiator : after.1 = dualNegotiatorExecute n ⟨s.channel.lastStatus, frames, nowMs⟩
  links : Advanced (stop + 1 - s.staged) s after.2

theorem firstReceive (s : Links) : ∃ d, d + s.staged = 1 ∧ s.receiveStateFrame.2 = s.yields 0 ∧
    Advanced d s s.receiveStateFrame.1 ∧ ∀ turn, s.yields (turn + 1) = s.round (d + turn) := by
  cases staged : s.channel.pendingState with
  | none =>
    obtain ⟨returned, advanced⟩ := receiveSweeps staged
    refine ⟨1, by simp [Links.staged, staged], returned.trans (yieldsIdle staged 0).symm, advanced, fun turn => ?_⟩
    rw [yieldsIdle staged, Nat.add_comm]
  | some frame =>
    obtain ⟨returned, advanced⟩ := receiveStaged staged
    obtain ⟨first, later⟩ := yieldsStaged staged
    refine ⟨0, by simp [Links.staged, staged], returned.trans first.symm, advanced, fun turn => ?_⟩
    rw [later, Nat.zero_add]

theorem sendStateFirst (s : Links) (frame : DualStateFrame) (answers : Nat → Answer) :
    (s.sendStateFrame frame answers).staged = s.staged ∧
      ∀ turn, (s.sendStateFrame frame answers).yields turn = s.yields turn := by
  obtain ⟨alike, _⟩ := sendStateAlike s frame answers
  refine ⟨by rw [Links.staged, alike.state, Links.staged], fun turn => ?_⟩
  rw [Links.yields, alike.count]
  refine lastCongr fun i _ => ?_
  simp only [Links.found, alike.state, sendStateHeard]

theorem takeProcesses (r : Round) (frame : Option DualStateFrame) : ∃ firsts : List (DualStateFrame × UInt64),
    (r.take frame).links = r.links ∧ firsts.map Prod.fst = frame.toList ∧
      (r.take frame).negotiator = processed r.negotiator firsts := by
  cases frame with
  | none => exact ⟨[], rfl, rfl, rfl⟩
  | some frame => exact ⟨[(frame, r.clock 0)], rfl, rfl, rfl⟩

theorem executeReads (n : DualNegotiator) (s : Links) (clock : Nat → UInt64) (answers : Nat → Answer) :
    ∃ stop frames nowMs after, execute n s clock answers = some after ∧ Executed n s stop frames nowMs after := by
  obtain ⟨alike, sameReads⟩ := sendStateAlike s (negotiatorAnnounce n s.channel.lastStatus).2 answers
  have sameHeard := sendStateHeard s (negotiatorAnnounce n s.channel.lastStatus).2 answers
  obtain ⟨sameStaged, sameYields⟩ := sendStateFirst s (negotiatorAnnounce n s.channel.lastStatus).2 answers
  obtain ⟨d, counts, returned, advanced, later⟩ :=
    firstReceive (s.sendStateFrame (negotiatorAnnounce n s.channel.lastStatus).2 answers)
  unfold execute
  dsimp only
  generalize s.sendStateFrame (negotiatorAnnounce n s.channel.lastStatus).2 answers = sent at *
  obtain ⟨firsts, links, taken, negotiator⟩ := takeProcesses
    ⟨(negotiatorAnnounce n s.channel.lastStatus).1, sent.receiveStateFrame.1, clock⟩ sent.receiveStateFrame.2
  generalize (⟨(negotiatorAnnounce n s.channel.lastStatus).1, sent.receiveStateFrame.1, clock⟩ : Round).take
    sent.receiveStateFrame.2 = r at *
  dsimp only at links negotiator
  rw [returned, sameYields] at taken
  rw [← links] at advanced
  obtain ⟨stop, frames, last, drained, spec⟩ := drainReads advanced.idle fun i inside => readsEnough r.links inside
  have rounds : ∀ k, r.links.round k = s.yields (k + 1) := fun k => by
    rw [advanced.round, ← later, sameYields]
  have whole := advanced.trans spec.links
  refine ⟨stop + 1, firsts ++ frames, last.clock 0, _, by rw [drained]; rfl, ⟨by omega, ?_, fun j after before => ?_⟩,
    ?_, ?_, ?_⟩
  · rw [← rounds]
    exact spec.barren
  · obtain ⟨k, rfl⟩ := Nat.exists_eq_add_of_lt after
    rw [Nat.zero_add, ← rounds]
    exact spec.before k (by omega)
  · rw [List.map_append, taken, spec.read, yieldedSucc]
    exact congrArg (fun rounds => (s.yields 0).toList ++ yielded rounds stop) (funext rounds)
  · simp only [spec.negotiator, negotiator, dualNegotiatorExecute, negotiatorSettle, processed, List.foldl_append]
  · have total : stop + 1 + 1 - s.staged = d + (stop + 1) := by omega
    rw [total]
    refine ⟨whole.count.trans alike.count, whole.idle, fun j inside => ?_, fun j inside => ?_⟩
    · rw [← sameHeard, whole.heard j (alike.count ▸ inside)]
    · rw [← sameReads, whole.reads j (alike.count ▸ inside)]

def Arrived (s : Links) (waiting : Nat → Nat) (turn link : Nat) : Prop :=
  link < s.channel.linkCount ∧ turn < s.staged + waiting link ∧ (s.found turn link).isSome = true

def Unbroken (s : Links) (turn : Nat) : Prop :=
  ∀ earlier, 0 < earlier → earlier < turn → ∃ link < s.channel.linkCount, (s.found earlier link).isSome = true

def AllRead (s : Links) (waiting : Nat → Nat) (after : Links) : Prop :=
  ∀ link < s.channel.linkCount, ∀ k frame, holds (after.heard link) k = some frame →
    waiting link ≤ (s.reads link).length - (after.reads link).length + k

structure AsNew (s : Links) (waiting : Nat → Nat) (sentAs : Nat → Nat → Nat) (turn link : Nat)
    (frame : DualStateFrame) : Prop where
  inside : link < s.channel.linkCount
  found : s.found turn link = some frame
  unbroken : Unbroken s turn
  newest : ∀ turn' link', Arrived s waiting turn' link' → sentAs turn' link' ≤ sentAs turn link

def Recorded (n : DualNegotiator) (frame : DualStateFrame) : Prop :=
  n.peerStartupTimestampMs = frame.timestampMs ∧ n.peerChannelDegraded = (frame.channelDegraded != 0)

def NewestRecorded (s : Links) (waiting : Nat → Nat) (sentAs : Nat → Nat → Nat) (n : DualNegotiator) : Prop :=
  (∃ turn link, Arrived s waiting turn link) → ∃ turn link frame, AsNew s waiting sentAs turn link frame ∧ Recorded n frame

structure LastFound (s : Links) (turn link : Nat) (frame : DualStateFrame) : Prop where
  inside : link < s.channel.linkCount
  found : s.found turn link = some frame
  unbroken : Unbroken s turn
  last : ∀ turn' link', link' < s.channel.linkCount → Unbroken s turn' → (s.found turn' link').isSome = true →
    turn' < turn ∨ turn' = turn ∧ link' ≤ link

/- No turn before a beacon that had arrived is without one. -/
def NoGap (s : Links) (waiting : Nat → Nat) : Prop := ∀ turn link, Arrived s waiting turn link → Unbroken s turn

/- The links lag by nothing that counts: the last beacon agrees with one that is as new. -/
def LastAsNew (s : Links) (waiting : Nat → Nat) (sentAs : Nat → Nat → Nat) : Prop :=
  (∃ turn link, Arrived s waiting turn link) → ∀ turn link frame, LastFound s turn link frame →
    ∃ turn' link' frame', AsNew s waiting sentAs turn' link' frame' ∧ frame'.timestampMs = frame.timestampMs ∧
      (frame'.channelDegraded != 0) = (frame.channelDegraded != 0)

theorem unbrokenIff (s : Links) (turn : Nat) : Unbroken s turn ↔ Sweep.Reached s.yields turn := by
  simp only [Unbroken, Sweep.Reached, Links.yields, lastIsSome]

theorem foundBehind {s : Links} {turn link : Nat} (behind : s.staged ≤ turn) :
    s.found turn link = holds (s.heard link) (turn - s.staged) := by
  unfold Links.staged at behind ⊢
  unfold Links.found
  cases staged : s.channel.pendingState with
  | none => simp
  | some frame =>
    simp only [staged, Option.isSome_some, if_true] at behind ⊢
    obtain ⟨turn, rfl⟩ := Nat.exists_eq_add_of_le' behind
    rfl

theorem processedLast (n : DualNegotiator) {frames : List (DualStateFrame × UInt64)} {frame : DualStateFrame}
    (last : (frames.map Prod.fst).getLast? = some frame) : Recorded (processed n frames) frame := by
  rw [List.getLast?_map] at last
  obtain ⟨entry, ends, rfl⟩ := Option.map_eq_some_iff.mp last
  obtain ⟨init, rfl⟩ := List.getLast?_eq_some_iff.mp ends
  simp only [processed, List.foldl_append]
  exact ⟨rfl, rfl⟩

section Round
variable {n : DualNegotiator} {s : Links} {stop : Nat} {frames : List (DualStateFrame × UInt64)} {nowMs : UInt64}
  {after : DualNegotiator × Links} (executed : Executed n s stop frames nowMs after)
include executed

theorem foundReached {turn link : Nat} (inside : link < s.channel.linkCount)
    (some_ : (s.found turn link).isSome = true) : Unbroken s turn ↔ turn < stop := by
  rw [unbrokenIff]
  exact foundBefore executed.stops (lastIsSome.mpr ⟨link, inside, some_⟩)

theorem leftBehind {link : Nat} (inside : link < s.channel.linkCount) {k : Nat} {frame : DualStateFrame}
    (left : holds (after.2.heard link) k = some frame) :
    (s.reads link).length - (after.2.reads link).length = stop + 1 - s.staged ∧
      s.found (stop + 1 + k) link = some frame := by
  rw [executed.links.heard link inside, holdsDrop] at left
  have within := holdsInside left
  rw [Links.heard, heardLength] at within
  have started := executed.stops.started
  have small : s.staged ≤ 1 := by
    unfold Links.staged
    split <;> omega
  refine ⟨?_, ?_⟩
  · rw [executed.links.reads link inside, List.length_drop]
    omega
  · rw [foundBehind (by omega), show stop + 1 + k - s.staged = stop + 1 - s.staged + k by omega]
    exact left

theorem allReadIff (waiting : Nat → Nat) : AllRead s waiting after.2 ↔ NoGap s waiting := by
  have small : s.staged ≤ 1 := by
    unfold Links.staged
    split <;> omega
  have started := executed.stops.started
  constructor
  · intro read turn link arrived
    obtain ⟨inside, early, some_⟩ := arrived
    rw [foundReached executed inside some_]
    by_contra late
    have notLast : turn ≠ stop := by
      rintro rfl
      have barren := lastNone.mp executed.stops.barren link inside
      rw [barren] at some_
      cases some_
    obtain ⟨frame, found⟩ := Option.isSome_iff_exists.mp some_
    obtain ⟨k, rfl⟩ := Nat.exists_eq_add_of_le (show stop + 1 ≤ turn by omega)
    have left : holds (after.2.heard link) k = some frame := by
      rw [executed.links.heard link inside, holdsDrop, ← found, foundBehind (by omega)]
      exact congrArg (holds (s.heard link)) (by omega)
    have past := read link inside k frame left
    rw [(leftBehind executed inside left).1] at past
    omega
  · intro noGap link inside k frame left
    obtain ⟨taken, found⟩ := leftBehind executed inside left
    rw [taken]
    by_contra early
    have arrived : Arrived s waiting (stop + 1 + k) link := ⟨inside, by omega, by simp [found]⟩
    have before := (foundReached executed inside arrived.2.2).mp (noGap _ _ arrived)
    omega

theorem recordsLast {turn link : Nat} {frame : DualStateFrame} (lastFound : LastFound s turn link frame) :
    Recorded after.1 frame := by
  have some_ : (s.found turn link).isSome = true := by simp [lastFound.found]
  have before := (foundReached executed lastFound.inside some_).mp lastFound.unbroken
  have yields : s.yields turn = some frame := by
    refine lastSome.mpr ⟨link, lastFound.inside, lastFound.found, fun link' past inside => ?_⟩
    by_contra found
    rcases lastFound.last turn link' inside lastFound.unbroken (Option.isSome_iff_ne_none.mpr found) with less | ⟨_, le⟩
    · exact Nat.lt_irrefl turn less
    · omega
  have later : ∀ turn', turn < turn' → turn' < stop → s.yields turn' = none := by
    intro turn' past inside
    refine lastNone.mpr fun link' within => ?_
    by_contra found
    have found := Option.isSome_iff_ne_none.mpr found
    rcases lastFound.last turn' link' within ((foundReached executed within found).mpr inside) found with less | ⟨same, _⟩
    · omega
    · omega
  have ends : (frames.map Prod.fst).getLast? = some frame := by
    rw [executed.read, yieldedLast]
    exact lastSome.mpr ⟨turn, before, yields, later⟩
  obtain ⟨own, peer, same⟩ := updateStatesOnly (processed (negotiatorAnnounce n s.channel.lastStatus).1 frames) nowMs
  have result : after.1 = negotiatorUpdateStates (processed (negotiatorAnnounce n s.channel.lastStatus).1 frames) nowMs :=
    executed.negotiator
  rw [result, same]
  exact processedLast _ ends

theorem lastExists {turn link : Nat} (inside : link < s.channel.linkCount) (some_ : (s.found turn link).isSome = true)
    (unbroken : Unbroken s turn) : ∃ turn link frame, LastFound s turn link frame := by
  have before := (foundReached executed inside some_).mp unbroken
  have yields : (last s.yields stop).isSome = true := lastIsSome.mpr ⟨turn, before, lastIsSome.mpr ⟨link, inside, some_⟩⟩
  obtain ⟨frame, yields⟩ := Option.isSome_iff_exists.mp yields
  obtain ⟨turn, before, yields, later⟩ := lastSome.mp yields
  obtain ⟨link, inside, found, silent⟩ := lastSome.mp yields
  refine ⟨turn, link, frame, inside, found, (foundReached executed inside (by simp [found])).mpr before, ?_⟩
  intro turn' link' within unbroken' some_'
  have before' := (foundReached executed within some_').mp unbroken'
  rcases Nat.lt_trichotomy turn' turn with less | rfl | past
  · exact Or.inl less
  · refine Or.inr ⟨rfl, ?_⟩
    by_contra beyond
    rw [silent link' (Nat.lt_of_not_le beyond) within] at some_'
    cases some_'
  · have none_ := lastNone.mp (later turn' past before') link' within
    rw [none_] at some_'
    cases some_'

end Round

/- The negotiator ends a round on the newest beacon that had arrived, with none left unread,
exactly if the turns before it all find one and the last of them is as new. -/
theorem newestBeaconRecordedIff (n : DualNegotiator) (s : Links) (clock : Nat → UInt64) (answers : Nat → Answer)
    (waiting : Nat → Nat) (sentAs : Nat → Nat → Nat) :
    ∃ n' after, execute n s clock answers = some (n', after) ∧ after.channel.pendingState = none ∧
      (AllRead s waiting after ∧ NewestRecorded s waiting sentAs n' ↔
        NoGap s waiting ∧ LastAsNew s waiting sentAs) := by
  obtain ⟨stop, frames, nowMs, ⟨n', after⟩, ran, executed⟩ := executeReads n s clock answers
  refine ⟨n', after, ran, executed.links.idle, ?_⟩
  rw [allReadIff executed]
  refine and_congr_right fun noGap => ⟨fun recorded some_ turn link frame lastFound => ?_, fun asNew some_ => ?_⟩
  · obtain ⟨turn', link', frame', newest, timestamp, degraded⟩ := recorded some_
    have here := recordsLast executed lastFound
    exact ⟨turn', link', frame', newest, timestamp.symm.trans here.1, degraded.symm.trans here.2⟩
  · obtain ⟨turn, link, arrived⟩ := some_
    obtain ⟨turn', link', frame', lastFound⟩ := lastExists executed arrived.1 arrived.2.2 (noGap turn link arrived)
    obtain ⟨_, _, frame, newest, timestamp, degraded⟩ := asNew ⟨turn, link, arrived⟩ turn' link' frame' lastFound
    have here := recordsLast executed lastFound
    exact ⟨_, _, frame, newest, here.1.trans timestamp.symm, here.2.trans degraded.symm⟩

theorem heardNext {link : DualMsgchannel} {m : ChecksumManager} (ready : m.initialized = true) {raw : Bytes}
    (short : raw.length ≤ vitalPayloadMax) {answer : Answer} {stampMs : UInt64} (rest : List Answer)
    (arrived : answer.arrival = .ok (messageOf m link.expectedPeerId link.expectedSequence raw stampMs)) :
    heardOn link m (answer :: rest) =
      beaconOf raw :: heardOn { link with expectedSequence := link.expectedSequence + 1 } m rest := by
  have verified : (checksumVitalMessageVerify m (messageOf m link.expectedPeerId link.expectedSequence raw stampMs)
      link.expectedSequence (UInt8.ofNat vitalPayloadMax).toNat).2 = .ok raw :=
    createdVerifies (createsMessage ready link.expectedPeerId link.expectedSequence short stampMs) ready rfl short
  obtain ⟨_, delivered, moved⟩ := receiveAccepts (by decide : UInt8.ofNat vitalPayloadMax ≠ 0) rfl verified
  have kept := receiveKeepsTable link m (UInt8.ofNat vitalPayloadMax) answer.arrival
  rw [arrived] at kept
  simp only [heardOn, arrived, delivered, moved, Option.bind_some]
  exact congrArg _ (heardDepends ⟨rfl, rfl, rfl⟩ kept rest)

def behindData : Links where
  channel := freshChannel 2 1 1 Nat.one_pos oneLinkFew
  manager := readyManager
  reads := fun _ => [hears 1 0 (dataFrame [7]), hears 1 1 (dataFrame [8]), hears 1 2 (stateFrame ⟨2, 1, 900⟩)]

theorem behindDataHeard (i : Nat) : behindData.heard i = [none, none, some ⟨2, 1, 900⟩] := by
  have next : ∀ (number : UInt32) (raw : Bytes) (rest : List Answer), raw.length ≤ vitalPayloadMax →
      heardOn ⟨2, 1, 0, number, false⟩ readyManager (hears 1 number raw :: rest) =
        beaconOf raw :: heardOn ⟨2, 1, 0, number + 1, false⟩ readyManager rest :=
    fun number raw rest short => heardNext rfl short rest rfl
  have beacon : beaconOf (stateFrame ⟨2, 1, 900⟩) = some ⟨2, 1, 900⟩ := by decide
  have first : beaconOf (dataFrame [7]) = none := by decide
  have second : beaconOf (dataFrame [8]) = none := by decide
  calc behindData.heard i
    _ = beaconOf (dataFrame [7]) :: heardOn ⟨2, 1, 0, 1, false⟩ readyManager
          [hears 1 1 (dataFrame [8]), hears 1 2 (stateFrame ⟨2, 1, 900⟩)] := next 0 _ _ (by decide)
    _ = beaconOf (dataFrame [7]) :: beaconOf (dataFrame [8]) :: heardOn ⟨2, 1, 0, 2, false⟩ readyManager
          [hears 1 2 (stateFrame ⟨2, 1, 900⟩)] := congrArg _ (next 1 _ _ (by decide))
    _ = beaconOf (dataFrame [7]) :: beaconOf (dataFrame [8]) :: [beaconOf (stateFrame ⟨2, 1, 900⟩)] :=
        congrArg _ (congrArg _ (next 2 _ _ (by decide)))
    _ = [none, none, some ⟨2, 1, 900⟩] := by rw [beacon, first, second]

/- All three had arrived, and the round ends with the beacon unread and no peer seen. -/
theorem beaconLeftUnread : ∃ n' after,
    execute (dualNegotiatorInit ⟨2, 1, 50, .idle, 1000⟩ 0) behindData (fun _ => 10) (fun _ => quiet) = some (n', after) ∧
      ¬(AllRead behindData (fun _ => 3) after ∧ NewestRecorded behindData (fun _ => 3) (fun turn _ => turn) n') ∧
      after.heard 0 = [some ⟨2, 1, 900⟩] ∧ n'.haveLastPeerSeen = false := by
  obtain ⟨stop, frames, nowMs, ⟨n', after⟩, ran, executed⟩ :=
    executeReads (dualNegotiatorInit ⟨2, 1, 50, .idle, 1000⟩ 0) behindData (fun _ => 10) (fun _ => quiet)
  have rounds : ∀ turn, behindData.yields turn = holds [none, none, some ⟨2, 1, 900⟩] turn := by
    intro turn
    rw [yieldsIdle rfl]
    have same : behindData.round turn = last (fun _ => holds [none, none, some ⟨2, 1, 900⟩] turn) 1 :=
      lastCongr fun i _ => by rw [behindDataHeard]
    exact same.trans Option.or_none
  have stops : stop = 1 := by
    refine Nat.le_antisymm ?_ executed.stops.started
    by_contra past
    have found := executed.stops.reached 1 Nat.one_pos (Nat.lt_of_not_le past)
    rw [rounds] at found
    cases found
  subst stops
  have left : after.heard 0 = [some ⟨2, 1, 900⟩] := by
    rw [executed.links.heard 0 Nat.one_pos, behindDataHeard]
    rfl
  have none_ : frames = [] := by
    have read := executed.read
    simp only [yielded, List.range_one, List.filterMap_cons, rounds, holdsHead, List.filterMap_nil] at read
    exact List.map_eq_nil_iff.mp read
  refine ⟨n', after, ran, fun both => ?_, left, ?_⟩
  · have first : holds (after.heard 0) 0 = some ⟨2, 1, 900⟩ := by
      rw [left]
      rfl
    have taken := (leftBehind executed Nat.one_pos first).1
    have behind := both.1 0 Nat.one_pos 0 ⟨2, 1, 900⟩ first
    rw [taken] at behind
    exact absurd behind (by decide)
  · have result := executed.negotiator
    rw [none_] at result
    obtain ⟨own, peer, same⟩ :=
      updateStatesOnly (negotiatorAnnounce (dualNegotiatorInit ⟨2, 1, 50, .idle, 1000⟩ 0) .down).1 nowMs
    exact congrArg DualNegotiator.haveLastPeerSeen (result.trans same)

end PlatformRte.Dual.Listening
