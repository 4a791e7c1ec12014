import PlatformRte.Dual.Working

/-! What a send tells its caller is so: a link counts as up when the peer has let in this
very message, and one link that is up means the peer has staged the payload. -/
namespace PlatformRte.Dual.Channel
open Checksum Machine

theorem postedOnSide (e : Endpoint) (i : Nat) : Acknowledge.postedOn i (side e).posted = carriedOn i e.carried := by
  simp only [Acknowledge.postedOn, carriedOn, side, List.countP_map]
  rfl

structure Numbered (e : Endpoint) : Prop where
  placed : Acknowledge.Placed (side e).posted
  next : ∀ i, (e.channel.links i).nextSequence = UInt32.ofNat (carriedOn i e.carried)

theorem numberedFresh {s : Pair Endpoint} (fresh : Fresh s) (p : Party) : Numbered (s.get p) := by
  obtain ⟨config, channel, manager, enable, init, same⟩ := fresh.created p
  rw [same]
  refine ⟨True.intro, fun i => ?_⟩
  unfold dualChannelInit at init
  split at init
  · split at init <;> cases init
    rfl
  · cases init

theorem numberedStart {e : Endpoint} (numbered : Numbered e) (request : Request) : Numbered (e.start request) := by
  refine ⟨by rw [startSide]; exact numbered.placed, ?_⟩
  have next := numbered.next
  unfold Endpoint.start
  split
  · exact next
  · exact next

theorem numberedProceed {e : Endpoint} (numbered : Numbered e) (call : Call) (answer : Answer) (source : Nat)
    (short : ∀ i, carriedOn i (e.proceed call answer source).carried < 2 ^ 32) :
    Numbered (e.proceed call answer source) := by
  have access := advanceAccess answer e.channel e.manager call
  have links : (e.proceed call answer source).channel.links =
      (advance e.channel e.manager call answer).done.channel.links :=
    (advanceOutcome e.channel e.manager call answer).links
  have carried : (e.proceed call answer source).carried = (e.sends call answer).toList ++ e.carried := rfl
  cases sends : e.sends call answer with
  | none =>
    have nothing : (advance e.channel e.manager call answer).done.carried = none := Option.map_eq_none_iff.mp sends
    refine ⟨?_, fun i => ?_⟩
    · simp only [sideProceed, sends]
      exact numbered.placed
    · rw [links, carried, sends, access.posts.next, nothing, numbered.next]
      simp
  | some sent =>
    obtain ⟨⟨raw, frame⟩, handed, rfl⟩ := Option.map_eq_some_iff.mp sends
    have number := (access.posts.numbered raw frame handed).1
    have small : carriedOn (nextAction e.channel call).link e.carried < 2 ^ 32 := by
      refine Nat.lt_of_le_of_lt ?_ (short (nextAction e.channel call).link)
      rw [carried, carriedOn, carriedOn, List.countP_append]
      exact Nat.le_add_left _ _
    refine ⟨?_, fun i => ?_⟩
    · simp only [sideProceed, sends]
      refine ⟨?_, numbered.placed⟩
      change frame.sequenceNumber.toNat = Acknowledge.postedOn (nextAction e.channel call).link (side e).posted
      rw [postedOnSide, number, numbered.next, UInt32.toNat_ofNat', Nat.mod_eq_of_lt small]
    · rw [links, carried, sends, access.posts.next, handed, numbered.next]
      rcases eq_or_ne i (nextAction e.channel call).link with rfl | elsewhere
      · simp [carriedOn, UInt32.ofNat_add]
      · simp [carriedOn, elsewhere, Ne.symm elsewhere]

structure Calling (e : Endpoint) : Prop where
  sent : ∀ call payload frame, e.running = some call → callFrame call = some (payload, frame) →
    ∀ i number, (i, number) ∈ e.seen.sent →
      ∃ message, message.sequenceNumber = number ∧ ⟨e.results.length, i, frame, message⟩ ∈ e.carried
  acked : ∀ i number, (i, number) ∈ e.seen.acked →
    ∃ heard ∈ e.accepted, heard.link = i ∧ ackNumber heard.raw = some number
  status : ∀ call, e.running = some call → e.statusBefore = e.channel.lastStatus
  exchanging : ∀ payload frame link ackCount hardFault wait,
    e.running = some (.exchange payload frame link ackCount hardFault wait) →
      Exchanging e.channel e.seen link ackCount hardFault wait

theorem callingStart {e : Endpoint} (calling : Calling e) (request : Request) : Calling (e.start request) := by
  unfold Endpoint.start
  split
  · exact calling
  refine ⟨by simp [Seen.empty], by simp [Seen.empty], fun _ _ => rfl, ?_⟩
  intro payload frame link ackCount hardFault wait begun
  have first : link = 0 ∧ ackCount = 0 ∧ hardFault = false ∧ wait = none := by
    cases request with
    | send payload' =>
      simp only [startCall] at begun
      split at begun <;> cases begun
      exact ⟨rfl, rfl, rfl, rfl⟩
    | heartbeat nowMs =>
      cases begun
      exact ⟨rfl, rfl, rfl, rfl⟩
    | receive maxSize =>
      simp only [startCall] at begun
      split at begun <;> cases begun
    | sendStateFrame beacon => cases begun
    | receiveStateFrame => cases begun
  obtain ⟨rfl, rfl, rfl, rfl⟩ := first
  exact exchangingStart e.channel

theorem proceedRuns {e : Endpoint} {call next : Call} {answer : Answer} {source : Nat}
    (on : (e.proceed call answer source).running = some next) :
    (advance e.channel e.manager call answer).next = .inl next := by
  simp only [Endpoint.proceed] at on
  cases step : (advance e.channel e.manager call answer).next with
  | inl next' =>
    rw [step] at on
    cases on
    rfl
  | inr returned =>
    rw [step] at on
    cases on

theorem transmitsOwn {channel : DualChannel} {m : ChecksumManager} {call : Call} {answer : Answer}
    {payload : Option Bytes} {frame sent raw : Bytes} {message : VitalMessage} {i : Nat}
    (shape : callFrame call = some (payload, frame)) (transmits : nextAction channel call = .transmit i raw)
    (carried : (advance channel m call answer).done.carried = some (sent, message)) : sent = frame := by
  have access := advanceAccess answer channel m call
  obtain ⟨payload', shape'⟩ := transmitFrame transmits
  rw [shape] at shape'
  cases shape'
  rcases access.origin sent message carried with same | ⟨n, heard, accepted, _⟩
  · rw [transmits] at same
    cases same
    rfl
  · have polls := (access.heard n heard accepted).1
    rw [transmits] at polls
    cases polls

theorem callingProceed {e : Endpoint} (calling : Calling e) {call : Call} (running : e.running = some call)
    (answer : Answer) (source : Nat) : Calling (e.proceed call answer source) := by
  have access := advanceAccess answer e.channel e.manager call
  have outcome := advanceOutcome e.channel e.manager call answer
  refine ⟨?_, ?_, ?_, ?_⟩
  · intro next payload frame on shape i number member
    have step := proceedRuns on
    simp only [step] at outcome
    rw [outcome.frame] at shape
    have number_ : (e.proceed call answer source).results.length = e.results.length := by
      simp [Endpoint.proceed, step]
    rw [number_]
    rcases (Seen.observeSent _ _ _ _ _).mp member with old | ⟨raw, sent, message, transmits, carried, rfl⟩
    · obtain ⟨message, same, kept⟩ := calling.sent call payload frame running shape i number old
      exact ⟨message, same, List.mem_append_right _ kept⟩
    · have own : sent = frame := transmitsOwn shape transmits carried
      subst own
      refine ⟨message, rfl, List.mem_append_left _ (Option.mem_toList.mpr ?_)⟩
      simp [Endpoint.sends, carried, transmits, Action.link]
  · intro i number member
    rcases (Seen.observeAcked _ _ _ _ _).mp member with old | ⟨rfl, matched⟩
    · obtain ⟨heard, kept, link, names⟩ := calling.acked i number old
      exact ⟨heard, List.mem_append_right _ kept, link, names⟩
    · obtain ⟨n, raw, accepted, names⟩ := (access.acked number).mp matched
      refine ⟨⟨source, (nextAction e.channel call).link, n, raw⟩, List.mem_append_left _ (Option.mem_toList.mpr ?_),
        rfl, names⟩
      simp [Endpoint.hears, accepted]
  · intro next on
    have step := proceedRuns on
    simp only [step] at outcome
    exact (calling.status call running).trans (outcome.lastStatus.trans access.posts.lastStatus).symm
  · intro payload frame link ackCount hardFault wait on
    have step := proceedRuns on
    simp only [step] at outcome
    have kind := outcome.kind
    cases call with
    | exchange payload' frame' link' ackCount' hardFault' wait' =>
      rcases exchangeAdvance e.manager answer (calling.exchanging _ _ _ _ _ _ running) with
        ⟨_, _, _, _, next, exchanging⟩ | ⟨_, _, _, next, _⟩
      · rw [step] at next
        cases next
        exact exchanging
      · rw [step] at next
        cases next
    | receive _ _ _ => cases kind
    | beacon _ _ _ => cases kind
    | receiveState _ => cases kind

theorem acknowledgedStaged {s : Pair Endpoint} (recorded : Recorded s) {p : Party} (numbered : Numbered (s.get p))
    {call i : Nat} {payload : Bytes} {message : VitalMessage}
    (carried : ⟨call, i, dataFrame payload, message⟩ ∈ (s.get p).carried) {ack : Accepted}
    (heard : ack ∈ (s.get p).accepted) (link : ack.link = i)
    (names : ackNumber ack.raw = some message.sequenceNumber) :
    ⟨call, i, message.sequenceNumber, dataFrame payload⟩ ∈ (s.get p.other).accepted ∧
      ⟨call, i, message.sequenceNumber, payload⟩ ∈ (s.get p.other).staged := by
  have placed : Acknowledge.Placed ((s.map side).get p).posted := by
    rw [Pair.getMap]
    exact numbered.placed
  have posted : Carried.message ⟨call, i, dataFrame payload, message⟩ ∈ ((s.map side).get p).posted := by
    rw [Pair.getMap]
    exact List.mem_map_of_mem carried
  have acknowledged : ack.message ∈ ((s.map side).get p).heard := by
    rw [Pair.getMap]
    exact List.mem_map_of_mem heard
  have number : acks ack.message.content = some message.sequenceNumber.toNat := by
    simp only [acks, Accepted.message, names, Option.map_some]
  have met := Acknowledge.acknowledgedHeard recorded.sound placed posted acknowledged link number
  rw [Pair.getMap] at met
  obtain ⟨⟨call', link', number, raw⟩, accepted, same⟩ := List.mem_map.mp met
  simp only [Accepted.message, Carried.message, Acknowledge.Message.mk.injEq, Prod.mk.injEq, UInt32.toNat_inj] at same
  obtain ⟨rfl, rfl, rfl, rfl⟩ := same
  exact ⟨accepted, ((recorded.wired p.other).staged _ _ _ _).mpr ⟨_, accepted, dataPayloadFrame payload⟩⟩

/- What a send that returns has told its caller. -/
def Contract (s : Pair Endpoint) (event : Event) : Prop :=
  ∀ p payload status ackCount callback,
    ((step s event).get p).results = (s.get p).results ++ [.exchange (some payload) status (some ackCount) callback] →
      let e := (step s event).get p
      Concluded e.statusBefore e.seen e.channel status ackCount callback ∧
        (status = .ok → ∃ i number, i < e.channel.linkCount ∧ (i, number) ∈ e.seen.sent ∧ (i, number) ∈ e.seen.acked ∧
          ⟨(s.get p).results.length, i, number, dataFrame payload⟩ ∈ ((step s event).get p.other).accepted ∧
          ⟨(s.get p).results.length, i, number, payload⟩ ∈ ((step s event).get p.other).staged)

structure Coherent (s : Pair Endpoint) : Prop where
  recorded : Recorded s
  numbered : ∀ p, Numbered (s.get p)
  calling : ∀ p, Calling (s.get p)

theorem coherentFresh {s : Pair Endpoint} (fresh : Fresh s) : Coherent s := by
  refine ⟨recordedFresh fresh, numberedFresh fresh, fun p => ?_⟩
  obtain ⟨config, channel, manager, enable, _, same⟩ := fresh.created p
  rw [same]
  exact ⟨by simp [Endpoint.fresh], by simp [Endpoint.fresh, Seen.empty], by simp [Endpoint.fresh],
    by simp [Endpoint.fresh]⟩

theorem coherentStep (s : Pair Endpoint) (event : Event) (coherent : Coherent s)
    (admitted : Genuine s event ∧ Short s event) : Coherent (step s event) := by
  have recorded := recordedStep s event coherent.recorded admitted.1
  have short := admitted.2
  cases event with
  | start p request =>
    exact ⟨recorded, Pair.setKeeps (numberedStart (coherent.numbered p) request) coherent.numbered,
      Pair.setKeeps (callingStart (coherent.calling p) request) coherent.calling⟩
  | advance p answer source =>
    cases running : (s.get p).running with
    | none => simpa only [step, running] using coherent
    | some call =>
      have own : ∀ i, carriedOn i ((s.get p).proceed call answer source).carried < 2 ^ 32 := by
        intro i
        simpa [step, running] using short p i
      simp only [step, running] at recorded ⊢
      exact ⟨recorded, Pair.setKeeps (numberedProceed (coherent.numbered p) call answer source own) coherent.numbered,
        Pair.setKeeps (callingProceed (coherent.calling p) running answer source) coherent.calling⟩

theorem startRefuses {channel : DualChannel} {request : Request} {payload : Option Bytes} {status : RteStatus}
    {ackCount : Option Nat} {callback : Option (DualChannelStatus × DualChannelStatus)}
    (refused : startCall channel request = .inr (.exchange payload status ackCount callback)) :
    status = .invalidParam ∧ ackCount = none := by
  cases request with
  | send payload' =>
    simp only [startCall] at refused
    split at refused <;> cases refused
    exact ⟨rfl, rfl⟩
  | heartbeat nowMs => cases refused
  | receive maxSize =>
    simp only [startCall] at refused
    split at refused <;> cases refused
  | sendStateFrame beacon => cases refused
  | receiveStateFrame => cases refused

theorem startReturns {e : Endpoint} {request : Request} {returned : Returned}
    (returns : (e.start request).results = e.results ++ [returned]) : startCall e.channel request = .inr returned := by
  unfold Endpoint.start at returns
  split at returns
  · simp at returns
  have began := List.append_cancel_left returns
  cases begun : startCall e.channel request with
  | inl call =>
    rw [begun] at began
    cases began
  | inr returned' =>
    rw [begun] at began
    cases began
    rfl

theorem proceedReturns {e : Endpoint} {call : Call} {answer : Answer} {source : Nat} {returned : Returned}
    (returns : (e.proceed call answer source).results = e.results ++ [returned]) :
    (advance e.channel e.manager call answer).next = .inr returned := by
  have ended := List.append_cancel_left returns
  cases step : (advance e.channel e.manager call answer).next with
  | inl next =>
    rw [step] at ended
    cases ended
  | inr returned' =>
    rw [step] at ended
    cases ended
    rfl

theorem upMet {before : DualChannelStatus} {seen : Seen} {after : DualChannel} {status : RteStatus} {ackCount : Nat}
    {callback : Option (DualChannelStatus × DualChannelStatus)}
    (concluded : Concluded before seen after status ackCount callback) (some_ : 0 < ackCount) :
    ∃ i < after.linkCount, seen.Met i := by
  rw [concluded.count, upCount, List.countP_pos_iff] at some_
  obtain ⟨i, inside, up⟩ := some_
  exact ⟨i, List.mem_range.mp inside, (concluded.up i (List.mem_range.mp inside)).mp up⟩

theorem contractStep (s : Pair Endpoint) (event : Event) (coherent : Coherent s) : Contract s event := by
  intro p payload status ackCount callback returns
  cases event with
  | start q request =>
    simp only [step] at returns
    rcases Party.eqOrOther q p with rfl | rfl
    · rw [Pair.getSet] at returns
      cases (startRefuses (startReturns returns)).2
    · simp at returns
  | advance q answer source =>
    cases running : (s.get q).running with
    | none => simp [step, running] at returns
    | some call =>
      simp only [step, running] at returns ⊢
      rcases Party.eqOrOther q p with rfl | rfl
      · rw [Pair.getSet] at returns
        rw [Pair.getSet, Pair.getSetOther]
        have next := proceedReturns returns
        have outcome := advanceOutcome (s.get p).channel (s.get p).manager call answer
        simp only [next] at outcome
        obtain ⟨_, frame, shape⟩ := outcome.own
        cases call with
        | exchange payload' frame' link ackCount' hardFault wait =>
          cases shape
          have calling := coherent.calling p
          rcases exchangeAdvance (s.get p).manager answer
            (calling.exchanging _ _ _ _ _ _ running) with ⟨_, _, _, _, on, _⟩ | ⟨same, status', _, ended, concluded⟩
          · rw [next] at on
            cases on
          · rw [next] at ended
            cases ended
            simp only [Endpoint.proceed, same, calling.status _ running]
            refine ⟨concluded, fun confirmed => ?_⟩
            obtain ⟨i, inside, number, sent, acked⟩ := upMet concluded (concluded.status.1.mp confirmed)
            obtain ⟨message, rfl, carried⟩ := calling.sent _ _ _ running rfl i number sent
            obtain ⟨ack, heard, link, names⟩ := calling.acked i _ acked
            rw [((coherent.recorded.wired p).framed _ running _ _ rfl).1] at carried
            exact ⟨i, _, inside, sent, acked,
              acknowledgedStaged coherent.recorded (coherent.numbered p) carried heard link names⟩
        | receive _ _ _ => cases shape
        | beacon _ _ _ => cases shape
        | receiveState _ => cases shape
      · simp at returns

/- In every run of two ends, every send that returns tells its caller the truth about
this very message. -/
theorem sendsHonest {start : Pair Endpoint} {events : List Event} (fresh : Fresh start)
    (genuine : Always step Genuine start events) (short : Always step Short start events) :
    Always step Contract start events := by
  have admitted : Always step (fun s event => Genuine s event ∧ Short s event) start events :=
    fun before event after split => ⟨genuine before event after split, short before event after split⟩
  exact alwaysOfInvariant (coherentFresh fresh) coherentStep (fun s event coherent _ => contractStep s event coherent)
    admitted

def oneLink : Pair Endpoint := freshEnds 1 (by decide) (by decide)

def deliverOne : List Event :=
  [.start .one (.send [7]), .advance .one quiet 0, .start .two .receiveStateFrame,
    .advance .two (hears 1 0 (dataFrame [7])) 0, .advance .two quiet 0, .advance .one (hears 2 0 (ackFrame 0)) 0,
    .advance .one quiet 0, .start .two (.receive 248), .advance .two quiet 0]

theorem deliverOneReached : ∃ v, Reached readyManager Calm oneLink deliverOne v ∧
    v.one.results = [.exchange (some [7]) .ok (some 1) (some (.full, .down))] ∧ v.two.handed = [(0, [7])] := by
  have r0 : Reached readyManager Calm oneLink [] _ := freshEndsReached (by decide) (by decide)
  have r1 := reachedStart r0 .one (.send [7]) fun _ _ after => startCalm after (by decide)
  have r2 := reachedProceed r1 .one quiet 0 rfl (performsSends rfl (by decide) rfl) fun _ _ after =>
    silentCalm rfl after (by decide)
  have r3 := reachedStart r2 .two .receiveStateFrame fun _ _ after => startCalm after (by decide)
  have r4 := reachedProceed r3 .two (hears 1 0 (dataFrame [7])) 0 rfl (performsData rfl (by decide) rfl rfl)
    fun _ shown after =>
      hearsCalm shown (hearsGenuine shown rfl rfl rfl List.mem_cons_self) rfl rfl after (by decide)
  have r5 := reachedProceed r4 .two quiet 0 rfl performsFinish fun _ _ after => silentCalm rfl after (by decide)
  have r6 := reachedProceed r5 .one (hears 2 0 (ackFrame 0)) 0 rfl (performsAck rfl rfl) fun _ shown after =>
    hearsCalm shown (hearsGenuine shown rfl rfl rfl List.mem_cons_self) rfl rfl after (by decide)
  have r7 := reachedProceed r6 .one quiet 0 rfl performsFinish fun _ _ after => silentCalm rfl after (by decide)
  have r8 := reachedStart r7 .two (.receive 248) fun _ _ after => startCalm after (by decide)
  have r9 := reachedProceed r8 .two quiet 0 rfl performsFinish fun _ _ after => silentCalm rfl after (by decide)
  exact ⟨_, r9, rfl, rfl⟩

theorem deliverOneHonest : Always step Contract oneLink deliverOne := by
  obtain ⟨_, reached, _⟩ := deliverOneReached
  exact sendsHonest (freshEndsFresh _ _) (alwaysMono (fun _ _ calm => calm.1) reached.admitted)
    (alwaysMono (fun _ _ calm => calm.2.1) reached.admitted)

end PlatformRte.Dual.Channel
