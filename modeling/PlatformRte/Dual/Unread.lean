import PlatformRte.Dual.Delivery

/-! A send that was acknowledged and the place its payload waits in. The acknowledgement
goes out when the payload is staged, and the next DATA frame takes the place over. -/
namespace PlatformRte.Dual.Channel
open Checksum Machine History

def Confirmed (e : Endpoint) (k : Nat) : Prop :=
  ∃ payload ackCount callback, e.results[k]? = some (.exchange (some payload) .ok ackCount callback)

def Wanted (own other : Endpoint) (k : Nat) : Prop := (∃ staged ∈ other.staged, staged.call = k) ∧ ¬Failed own k

structure Unlost (own other : Endpoint) : Prop where
  keeps : (slot other).Keeps (Wanted own other)
  inOrder : (slot other).InOrder (Confirmed own)
  staged : ∀ k payload ackCount callback, own.results[k]? = some (.exchange (some payload) .ok ackCount callback) →
    ∃ i number, ⟨k, i, number, payload⟩ ∈ other.staged

theorem confirmedWanted {own other : Endpoint} (unlost : Unlost own other) {k : Nat} (confirmed : Confirmed own k) :
    Wanted own other k := by
  obtain ⟨payload, ackCount, callback, result⟩ := confirmed
  obtain ⟨i, number, staged⟩ := unlost.staged k payload ackCount callback result
  refine ⟨⟨_, staged, rfl⟩, ?_⟩
  rintro ⟨payload', status, ackCount', callback', failed, bad⟩
  rw [result] at failed
  cases failed
  exact bad rfl

theorem unlostSender {own own' other : Endpoint} (unlost : Unlost own other) {more : List Returned}
    (grows : own'.results = own.results ++ more) (begun : ∀ k ∈ (slot other).taken, k ≤ own.results.length)
    (staged : ∀ k payload ackCount callback, own'.results[k]? = some (.exchange (some payload) .ok ackCount callback) →
      ∃ i number, ⟨k, i, number, payload⟩ ∈ other.staged) : Unlost own' other := by
  have kept : ∀ k, k < own.results.length → own'.results[k]? = own.results[k]? := by
    intro k inside
    rw [grows]
    exact List.getElem?_append_left inside
  refine ⟨fun k wanted => unlost.keeps k ⟨wanted.1, fun failed => wanted.2 ?_⟩, ?_, staged⟩
  · obtain ⟨payload, status, ackCount, callback, result, bad⟩ := failed
    exact ⟨payload, status, ackCount, callback, (kept k (List.getElem?_eq_some_iff.mp result).1).trans result, bad⟩
  · refine eachMono (fun k member earlier before smaller less confirmed => before smaller less ?_) unlost.inOrder
    obtain ⟨payload, ackCount, callback, result⟩ := confirmed
    have inside : smaller < own.results.length := Nat.lt_of_lt_of_le less (begun k member)
    exact ⟨payload, ackCount, callback, (kept smaller inside).symm.trans result⟩

theorem proceedStaged {e : Endpoint} {call : Call} {answer : Answer} {source : Nat} {staged : Staged}
    (member : staged ∈ (e.proceed call answer source).staged) : staged ∈ e.staged ∨
      staged.call = source ∧ (advance e.channel e.manager call answer).done.staged.isSome = true := by
  rcases List.mem_append.mp member with new | old
  · obtain ⟨heard, hears, stages⟩ := Option.bind_eq_some_iff.mp (Option.mem_toList.mp new)
    obtain ⟨payload, some_, rfl⟩ := Option.map_eq_some_iff.mp stages
    exact Or.inr ⟨rfl, by simp [some_]⟩
  · exact Or.inl old

theorem unlostReceiver {s : Pair Endpoint} {p : Party} {call : Call} {answer : Answer} {source : Nat}
    (recorded : Recorded s) (genuine : Genuine s (.advance p answer source)) (running : (s.get p).running = some call)
    (spared : ¬Overwrites s (.advance p answer source)) (unlost : Unlost (s.get p.other) (s.get p)) :
    Unlost (s.get p.other) ((s.get p).proceed call answer source) := by
  have stays : ∀ staged ∈ (s.get p).staged, staged ∈ ((s.get p).proceed call answer source).staged :=
    fun staged member => List.mem_append_right _ member
  have confirmed : ∀ k payload ackCount callback,
      (s.get p.other).results[k]? = some (.exchange (some payload) .ok ackCount callback) →
        ∃ i number, ⟨k, i, number, payload⟩ ∈ ((s.get p).proceed call answer source).staged := by
    intro k payload ackCount callback result
    obtain ⟨i, number, staged⟩ := unlost.staged k payload ackCount callback result
    exact ⟨i, number, stays _ staged⟩
  have nothingNew : (advance (s.get p).channel (s.get p).manager call answer).done.staged = none →
      ∀ k, Wanted (s.get p.other) ((s.get p).proceed call answer source) k → Wanted (s.get p.other) (s.get p) k := by
    rintro nothing k ⟨⟨staged, member, rfl⟩, alive⟩
    rcases proceedStaged member with old | ⟨_, some_⟩
    · exact ⟨⟨staged, old, rfl⟩, alive⟩
    · simp [nothing] at some_
  cases proceedSlot (s.get p) call answer source with
  | put payload new holds slotFrom handed =>
    refine ⟨?_, ?_, confirmed⟩
    · rw [slotPut holds slotFrom handed]
      refine Slot.keepsPut unlost.keeps ?_ ?_
      · intro old held
        by_contra lost
        rw [not_or, not_or, not_not] at lost
        obtain ⟨other, unread, wanted⟩ := lost
        obtain ⟨payload', pending, rfl⟩ := Option.map_eq_some_iff.mp held
        exact spared ⟨(stagedArrives recorded genuine running new).1, by simp [pending], other, unread, wanted.2⟩
      · rintro k ⟨⟨staged, member, rfl⟩, alive⟩
        rcases proceedStaged member with old | ⟨source_, _⟩
        · exact Or.inl ⟨⟨staged, old, rfl⟩, alive⟩
        · exact Or.inr source_
    · rw [slotPut holds slotFrom handed]
      exact unlost.inOrder
  | take payload held none_ handed nothing =>
    refine ⟨?_, ?_, confirmed⟩
    · rw [slotTake held none_ handed]
      exact Slot.keepsTake fun k wanted => unlost.keeps k (nothingNew nothing k wanted)
    · rw [slotTake held none_ handed]
      exact Slot.inOrderTake unlost.inOrder fun k sure => unlost.keeps k (confirmedWanted unlost sure)
  | keep holds slotFrom handed nothing =>
    refine ⟨?_, ?_, confirmed⟩
    · rw [slotKeep holds slotFrom handed]
      exact fun k wanted => unlost.keeps k (nothingNew nothing k wanted)
    · rw [slotKeep holds slotFrom handed]
      exact unlost.inOrder

theorem unlostSame {own other other' : Endpoint} (unlost : Unlost own other) (same : slot other' = slot other)
    (staged : other'.staged = other.staged) : Unlost own other' := by
  refine ⟨?_, ?_, ?_⟩
  · rw [same]
    intro k wanted
    rw [Wanted, staged] at wanted
    exact unlost.keeps k wanted
  · rw [same]
    exact unlost.inOrder
  · rw [staged]
    exact unlost.staged

theorem handedBegun {s : Pair Endpoint} (traced : Traced s) (p : Party) :
    ∀ k ∈ (slot (s.get p.other)).taken, k ≤ (s.get p).results.length := by
  intro k member
  obtain ⟨⟨_, payload⟩, handed, rfl⟩ := List.mem_map.mp member
  have fromSend := traced.fromSend p.other
  rw [Party.otherOther] at fromSend
  have inside := (List.getElem?_eq_some_iff.mp (fromSend.handed _ payload handed)).1
  have begun := (traced.recorded.wired p).begun
  split at begun <;> omega

theorem stagedGrows {own own' other : Endpoint} (unlost : Unlost own other) {returned : Option Returned}
    (grows : own'.results = own.results ++ returned.toList)
    (last : ∀ payload ackCount callback, returned = some (.exchange (some payload) .ok ackCount callback) →
      ∃ i number, ⟨own.results.length, i, number, payload⟩ ∈ other.staged) :
    ∀ k payload ackCount callback, own'.results[k]? = some (.exchange (some payload) .ok ackCount callback) →
      ∃ i number, ⟨k, i, number, payload⟩ ∈ other.staged := by
  intro k payload ackCount callback result
  rw [grows] at result
  rcases Nat.lt_or_ge k own.results.length with inside | outside
  · rw [List.getElem?_append_left inside] at result
    exact unlost.staged k payload ackCount callback result
  · rw [List.getElem?_append_right outside] at result
    obtain ⟨bound, _⟩ := List.getElem?_eq_some_iff.mp result
    cases returned with
    | none => simp at bound
    | some returned =>
      have here : k = own.results.length := by
        simp at bound
        omega
      subst here
      simp only [Nat.sub_self, Option.toList_some, List.getElem?_cons_zero, Option.some.injEq] at result
      exact last payload ackCount callback (congrArg some result)

structure Delivering (s : Pair Endpoint) : Prop where
  coherent : Coherent s
  traced : Traced s
  unlost : ∀ p, Unlost (s.get p) (s.get p.other)

theorem deliveringFresh {s : Pair Endpoint} (fresh : Fresh s) : Delivering s := by
  refine ⟨coherentFresh fresh, tracedFresh fresh, fun p => ?_⟩
  obtain ⟨_, _, _, _, _, own⟩ := fresh.created p
  obtain ⟨_, _, _, _, _, other⟩ := fresh.created p.other
  rw [own, other]
  refine ⟨?_, True.intro, by simp [Endpoint.fresh]⟩
  rintro k ⟨⟨staged, member, _⟩, _⟩
  cases member

theorem unlostStart {s : Pair Endpoint} {p : Party} (delivering : Delivering s) (request : Request) :
    Unlost ((s.get p).start request) (s.get p.other) := by
  have unlost := delivering.unlost p
  by_cases busy : (s.get p).running.isSome = true
  · obtain ⟨call, running⟩ := Option.isSome_iff_exists.mp busy
    simpa only [Endpoint.start, running] using unlost
  have idle : (s.get p).running = none := by simpa using busy
  have grows : ((s.get p).start request).results =
      (s.get p).results ++ (startCall (s.get p).channel request).getRight?.toList := by
    simp only [Endpoint.start, idle]
  refine unlostSender unlost grows (handedBegun delivering.traced p) (stagedGrows unlost grows ?_)
  intro payload ackCount callback returned
  have refused := startRefuses (Sum.getRight?_eq_some_iff.mp returned)
  cases refused.1

theorem unlostProceed {s : Pair Endpoint} {p : Party} {call : Call} {answer : Answer} {source : Nat}
    (delivering : Delivering s) (running : (s.get p).running = some call) :
    Unlost ((s.get p).proceed call answer source) (s.get p.other) := by
  have unlost := delivering.unlost p
  have grows : ((s.get p).proceed call answer source).results = (s.get p).results ++
      (advance (s.get p).channel (s.get p).manager call answer).next.getRight?.toList := rfl
  refine unlostSender unlost grows (handedBegun delivering.traced p) (stagedGrows unlost grows ?_)
  intro payload ackCount callback returned
  have next := Sum.getRight?_eq_some_iff.mp returned
  have outcome := advanceOutcome (s.get p).channel (s.get p).manager call answer
  simp only [next] at outcome
  obtain ⟨count, rfl⟩ := Option.isSome_iff_exists.mp outcome.own.1
  have returns : ((step s (.advance p answer source)).get p).results =
      (s.get p).results ++ [.exchange (some payload) .ok (some count) callback] := by
    simp [step, running, grows, next]
  obtain ⟨i, number, _, _, _, _, staged⟩ :=
    (contractStep s (.advance p answer source) delivering.coherent p payload .ok count callback returns).2 rfl
  refine ⟨i, number, ?_⟩
  simpa [step, running] using staged

theorem deliveringStep (s : Pair Endpoint) (event : Event) (delivering : Delivering s)
    (admitted : Genuine s event ∧ Short s event ∧ ¬Overwrites s event) : Delivering (step s event) := by
  obtain ⟨genuine, short, spared⟩ := admitted
  refine ⟨coherentStep s event delivering.coherent ⟨genuine, short⟩, tracedStep s event delivering.traced genuine, ?_⟩
  cases event with
  | start p request =>
    have towards := delivering.unlost p.other
    rw [Party.otherOther] at towards
    have staged : ((s.get p).start request).staged = (s.get p).staged := by
      unfold Endpoint.start
      split <;> rfl
    exact Pair.setBoth (unlostStart delivering request) (unlostSame towards (startSlot (s.get p) request) staged)
  | advance p answer source =>
    cases running : (s.get p).running with
    | none => simpa only [step, running] using delivering.unlost
    | some call =>
      have towards := delivering.unlost p.other
      rw [Party.otherOther] at towards
      simp only [step, running]
      exact Pair.setBoth (unlostProceed delivering running)
        (unlostReceiver delivering.traced.recorded genuine running spared towards)

theorem stagedRequested {s : Pair Endpoint} (recorded : Recorded s) {p : Party} {k i : Nat} {number : UInt32}
    {payload : Bytes} (staged : ⟨k, i, number, payload⟩ ∈ (s.get p.other).staged) :
    (s.get p).requests[k]? = some (.send payload) := by
  obtain ⟨raw, accepted, data⟩ := ((recorded.wired p.other).staged k i number payload).mp staged
  have heard : Accepted.message ⟨k, i, number, raw⟩ ∈ ((s.map side).get p.other).heard := by
    rw [Pair.getMap]
    exact List.mem_map_of_mem accepted
  have posted := recorded.sound.heard p.other _ heard
  rw [Party.otherOther, Pair.getMap] at posted
  obtain ⟨sent, carried, same⟩ := List.mem_map.mp posted
  simp only [Carried.message, Accepted.message, Acknowledge.Message.mk.injEq, Prod.mk.injEq] at same
  obtain ⟨_, _, rfl, rfl⟩ := same
  exact (recorded.wired p).data sent carried payload data

theorem receiveReturns {s : Pair Endpoint} {q : Party} {payload : Bytes} (idle : (s.get q).running = none)
    (held : (s.get q).channel.pendingData = some payload) {maxSize : UInt8} (open_ : maxSize ≠ 0)
    (room : payload.length ≤ maxSize.toNat) (answer : Answer) (source : Nat) :
    ((run step s [.start q (.receive maxSize), .advance q answer source]).get q).results =
        (s.get q).results ++ [.receive .ok (some payload)] ∧
      ((run step s [.start q (.receive maxSize), .advance q answer source]).get q).handed =
        ((s.get q).slotFrom, payload) :: (s.get q).handed := by
  have begun : startCall (s.get q).channel (.receive maxSize) =
      .inl (.receive maxSize (s.get q).channel.linkCount false) := by
    simp [startCall, open_, held]
  have started : (s.get q).start (.receive maxSize) = { s.get q with
      running := some (.receive maxSize (s.get q).channel.linkCount false)
      seen := Seen.empty
      statusBefore := (s.get q).channel.lastStatus
      requests := (s.get q).requests ++ [.receive maxSize] } := by
    simp [Endpoint.start, idle, begun]
  have ended : (advance (s.get q).channel (s.get q).manager (.receive maxSize (s.get q).channel.linkCount false)
      answer).next = .inr (.receive .ok (some payload)) := by
    simp [advance, conclude, nextAction, perform, finishCall, held, Nat.not_lt.mpr room]
  simp only [run, List.foldl, step, Pair.getSet, started, Endpoint.proceed, ended]
  exact ⟨rfl, rfl⟩

/- In every run in which no unread payload is overwritten, what was confirmed has been
handed over, or is what the next receive returns; and nothing is handed over before
what was sent and confirmed earlier. -/
theorem confirmedDelivered {start : Pair Endpoint} {events : List Event} (fresh : Fresh start)
    (genuine : Always step Genuine start events) (short : Always step Short start events)
    (spared : Always step (fun s event => ¬Overwrites s event) start events) (p : Party) :
    let s := run step start events
    (∀ k payload ackCount callback,
      (s.get p).results[k]? = some (.exchange (some payload) .ok ackCount callback) →
        (k, payload) ∈ (s.get p.other).handed ∨
          (s.get p.other).slotFrom = k ∧ (s.get p.other).channel.pendingData = some payload ∧
            ∀ maxSize answer source, (s.get p.other).running = none → maxSize ≠ 0 → payload.length ≤ maxSize.toNat →
              let next := run step s [.start p.other (.receive maxSize), .advance p.other answer source]
              (next.get p.other).results = (s.get p.other).results ++ [.receive .ok (some payload)] ∧
                (next.get p.other).handed = (k, payload) :: (s.get p.other).handed) ∧
      Each (fun k earlier => ∀ smaller < k, Confirmed (s.get p) smaller → smaller ∈ earlier)
        (handedCalls (s.get p.other)) := by
  have admitted : Always step (fun s event => Genuine s event ∧ Short s event ∧ ¬Overwrites s event) start events :=
    fun before event after split =>
      ⟨genuine before event after split, short before event after split, spared before event after split⟩
  have delivering : Delivering (run step start events) := invariantRun (deliveringFresh fresh) deliveringStep admitted
  dsimp only
  generalize run step start events = s at delivering
  have unlost := delivering.unlost p
  have fromSend := delivering.traced.fromSend p.other
  rw [Party.otherOther] at fromSend
  refine ⟨fun k payload ackCount callback result => ?_, unlost.inOrder⟩
  have asked : (s.get p).requests[k]? = some (.send payload) := by
    obtain ⟨i, number, staged⟩ := unlost.staged k payload ackCount callback result
    exact stagedRequested delivering.traced.recorded staged
  rcases unlost.keeps k (confirmedWanted unlost ⟨payload, ackCount, callback, result⟩) with taken | held
  · obtain ⟨⟨_, payload'⟩, handed, rfl⟩ := List.mem_map.mp taken
    have same := fromSend.handed _ payload' handed
    rw [asked] at same
    cases same
    exact Or.inl handed
  · obtain ⟨payload', pending, rfl⟩ := Option.map_eq_some_iff.mp held
    have same := fromSend.held payload' pending
    rw [asked] at same
    cases same
    exact Or.inr ⟨rfl, pending, fun maxSize answer source idle open_ room =>
      receiveReturns idle pending open_ room answer source⟩

theorem deliverOneKept : (0, [7]) ∈ ((run step oneLink deliverOne).get .two).handed ∨
    ((run step oneLink deliverOne).get .two).slotFrom = 0 ∧
      ((run step oneLink deliverOne).get .two).channel.pendingData = some [7] := by
  obtain ⟨_, reached, results, _⟩ := deliverOneReached
  have fresh : Fresh oneLink := freshEndsFresh _ _
  have kept := (confirmedDelivered fresh (alwaysMono (fun _ _ calm => calm.1) reached.admitted)
    (alwaysMono (fun _ _ calm => calm.2.1) reached.admitted)
    (alwaysMono (fun _ _ calm => calm.2.2.2) reached.admitted) .one).1 0 [7] (some 1) (some (.full, .down))
  have confirmed : ((run step oneLink deliverOne).get .one).results[0]? =
      some (.exchange (some [7]) .ok (some 1) (some (.full, .down))) := by
    rw [(reached.shown .one).results.trans results]
    rfl
  have two : Party.one.other = Party.two := rfl
  simp only [two] at kept
  rcases kept confirmed with handed | ⟨slotFrom, held, _⟩
  · exact Or.inl handed
  · exact Or.inr (And.intro slotFrom held)

def sendTwo : List Event :=
  [.start .one (.send [7]), .advance .one quiet 0, .start .two .receiveStateFrame,
    .advance .two (hears 1 0 (dataFrame [7])) 0, .advance .two quiet 0, .advance .one (hears 2 0 (ackFrame 0)) 0,
    .advance .one quiet 0, .start .one (.send [8]), .advance .one quiet 0, .start .two .receiveStateFrame,
    .advance .two (hears 1 1 (dataFrame [8])) 1, .advance .two quiet 0, .advance .one (hears 2 1 (ackFrame 1)) 1,
    .advance .one quiet 0, .start .two (.receive 248), .advance .two quiet 0]

def Admitted (s : Pair Endpoint) (event : Event) : Prop := Genuine s event ∧ Short s event

theorem sendTwoReached : ∃ v, Reached readyManager Admitted oneLink sendTwo v ∧
    v.one.results = [.exchange (some [7]) .ok (some 1) (some (.full, .down)), .exchange (some [8]) .ok (some 1) none] ∧
    v.two.handed = [(1, [8])] ∧ v.two.channel.pendingData = none := by
  have r0 : Reached readyManager Admitted oneLink [] _ := freshEndsReached (by decide) (by decide)
  have r1 := reachedStart r0 .one (.send [7]) fun _ _ after => ⟨True.intro, shownShort after (by decide)⟩
  have r2 := reachedProceed r1 .one quiet 0 rfl (performsSends rfl (by decide) rfl) fun _ _ after =>
    ⟨silentGenuine rfl, shownShort after (by decide)⟩
  have r3 := reachedStart r2 .two .receiveStateFrame fun _ _ after => ⟨True.intro, shownShort after (by decide)⟩
  have r4 := reachedProceed r3 .two (hears 1 0 (dataFrame [7])) 0 rfl (performsData rfl (by decide) rfl rfl)
    fun _ shown after => ⟨hearsGenuine shown rfl rfl rfl List.mem_cons_self, shownShort after (by decide)⟩
  have r5 := reachedProceed r4 .two quiet 0 rfl performsFinish fun _ _ after =>
    ⟨silentGenuine rfl, shownShort after (by decide)⟩
  have r6 := reachedProceed r5 .one (hears 2 0 (ackFrame 0)) 0 rfl (performsAck rfl rfl) fun _ shown after =>
    ⟨hearsGenuine shown rfl rfl rfl List.mem_cons_self, shownShort after (by decide)⟩
  have r7 := reachedProceed r6 .one quiet 0 rfl performsFinish fun _ _ after =>
    ⟨silentGenuine rfl, shownShort after (by decide)⟩
  have r8 := reachedStart r7 .one (.send [8]) fun _ _ after => ⟨True.intro, shownShort after (by decide)⟩
  have r9 := reachedProceed r8 .one quiet 0 rfl (performsSends rfl (by decide) rfl) fun _ _ after =>
    ⟨silentGenuine rfl, shownShort after (by decide)⟩
  have r10 := reachedStart r9 .two .receiveStateFrame fun _ _ after => ⟨True.intro, shownShort after (by decide)⟩
  have r11 := reachedProceed r10 .two (hears 1 1 (dataFrame [8])) 1 rfl (performsData rfl (by decide) rfl rfl)
    fun _ shown after => ⟨hearsGenuine shown rfl rfl rfl List.mem_cons_self, shownShort after (by decide)⟩
  have r12 := reachedProceed r11 .two quiet 0 rfl performsFinish fun _ _ after =>
    ⟨silentGenuine rfl, shownShort after (by decide)⟩
  have r13 := reachedProceed r12 .one (hears 2 1 (ackFrame 1)) 1 rfl (performsAck rfl rfl) fun _ shown after =>
    ⟨hearsGenuine shown rfl rfl rfl List.mem_cons_self, shownShort after (by decide)⟩
  have r14 := reachedProceed r13 .one quiet 0 rfl performsFinish fun _ _ after =>
    ⟨silentGenuine rfl, shownShort after (by decide)⟩
  have r15 := reachedStart r14 .two (.receive 248) fun _ _ after => ⟨True.intro, shownShort after (by decide)⟩
  have r16 := reachedProceed r15 .two quiet 0 rfl performsFinish fun _ _ after =>
    ⟨silentGenuine rfl, shownShort after (by decide)⟩
  exact ⟨_, r16, rfl, rfl, rfl⟩

/- Both sends were confirmed, and the only payload handed over is the second. -/
theorem firstOverwritten : Fresh oneLink ∧ Always step Genuine oneLink sendTwo ∧ Always step Short oneLink sendTwo ∧
    ((run step oneLink sendTwo).get .one).results =
      [.exchange (some [7]) .ok (some 1) (some (.full, .down)), .exchange (some [8]) .ok (some 1) none] ∧
    ((run step oneLink sendTwo).get .two).handed = [(1, [8])] ∧
    ((run step oneLink sendTwo).get .two).channel.pendingData = none := by
  obtain ⟨v, reached, results, handed, pending⟩ := sendTwoReached
  have channel := (reached.shown .two).channel
  exact ⟨freshEndsFresh _ _, alwaysMono (fun _ _ admitted => admitted.1) reached.admitted,
    alwaysMono (fun _ _ admitted => admitted.2) reached.admitted, (reached.shown .one).results.trans results,
    (reached.shown .two).handed.trans handed, (congrArg DualChannel.pendingData channel).trans pending⟩

end PlatformRte.Dual.Channel
