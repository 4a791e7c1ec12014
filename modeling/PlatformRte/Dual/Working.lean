import PlatformRte.Dual.Endpoints

/-! What an access does on a link that works: the message is carried, and the next
message of the peer is let in. Runs are followed on a view of the two ends that leaves
out the counters of the checksum module. -/
namespace PlatformRte.Dual.Channel
open Checksum Machine

def messageOf (m : ChecksumManager) (sender number : UInt32) (raw : Bytes) (stampMs : UInt64) : VitalMessage :=
  (filledMessage sender number raw stampMs).sealed (checksumCrc64 m (filledMessage sender number raw stampMs).covered).2

def Performs (m : ChecksumManager) (channel : DualChannel) (answer : Answer) (action : Action) (done : Performed) :
    Prop :=
  ∀ used, SameTable m used →
    ∃ left, SameTable m left ∧ perform channel used answer action = { done with manager := left }

section Access
variable {m : ChecksumManager} {channel : DualChannel} {answer : Answer} {i : Nat}

theorem performsFinish : Performs m channel answer .finish ⟨channel, m, .ok, 0, none, none, none, none⟩ :=
  fun used same => ⟨used, same, rfl⟩

theorem performsNothing {status : {status : RteStatus // status ≠ .ok}} (silent : answer.arrival = .error status) :
    Performs m channel answer (.poll i) ⟨channel, m, status, 0, none, none, none, none⟩ := by
  intro used same
  refine ⟨used, same, ?_⟩
  have nothing : dualMsgchannelReceive (channel.links i) used (UInt8.ofNat vitalPayloadMax) answer.arrival =
      ⟨channel.links i, used, status, none⟩ := by
    rw [silent]
    rfl
  simp only [perform, pollLinkOnce, nothing, withLinkSame]

theorem sendWorks (channel : DualChannel) (i : Nat) (ready : m.initialized = true) {raw : Bytes}
    (short : raw.length ≤ vitalPayloadMax)
    (up : answer.linkStatus = .ok) {used : ChecksumManager} (same : SameTable m used) :
    ∃ left, SameTable m left ∧ sendOnLink channel used i raw answer =
      ⟨withLink channel i { channel.links i with nextSequence := (channel.links i).nextSequence + 1 }, left, .ok,
        (channel.links i).nextSequence, none,
        some (raw, messageOf m (channel.links i).senderId (channel.links i).nextSequence raw answer.stampMs), none,
        none⟩ := by
  obtain ⟨left, created⟩ : ∃ left, checksumVitalMessageCreate used (channel.links i).senderId
      (channel.links i).nextSequence raw answer.stampMs =
        (left, .ok (messageOf m (channel.links i).senderId (channel.links i).nextSequence raw answer.stampMs)) := by
    have made := createsMessage (same.ready.trans ready) (channel.links i).senderId (channel.links i).nextSequence short
      answer.stampMs
    rw [crcDepends same] at made
    exact ⟨_, made⟩
  have kept := createKeeps used (channel.links i).senderId (channel.links i).nextSequence raw answer.stampMs
  rw [created] at kept
  refine ⟨left, same.trans kept, ?_⟩
  simp [sendOnLink, dualMsgchannelSend, created, up]

theorem performsSends (ready : m.initialized = true) {raw : Bytes} (short : raw.length ≤ vitalPayloadMax)
    (up : answer.linkStatus = .ok) :
    Performs m channel answer (.transmit i raw)
      ⟨withLink channel i { channel.links i with nextSequence := (channel.links i).nextSequence + 1 }, m, .ok,
        (channel.links i).nextSequence, none,
        some (raw, messageOf m (channel.links i).senderId (channel.links i).nextSequence raw answer.stampMs), none,
        none⟩ := by
  intro used same
  obtain ⟨left, kept, works⟩ := sendWorks channel i ready short up same
  exact ⟨left, kept, works⟩

theorem dispatchData {payload : Bytes} (fits : payload.length ≤ dualChannelMaxPayload) (sequence : UInt32) :
    dispatchFrame channel m i (dataFrame payload) sequence answer =
      autoAck { channel with pendingData := some payload } m i sequence .data (some payload) answer := by
  have long : ¬(dataFrame payload).length < headerSize := by simp [dataFrame]
  have kind : frameKind (dataFrame payload) = some .data := frameKindHeader _ _
  have drop : (dataFrame payload).drop headerSize = payload := by
    rw [dataFrame, ← headerLength .data, List.drop_left]
  simp only [dispatchFrame, if_neg long, kind, drop, if_pos fits]

theorem dispatchAck (number sequence : UInt32) :
    dispatchFrame channel m i (ackFrame number) sequence answer =
      ⟨channel, m, .ok, sequence, some (.ack number), none, none, none⟩ := by
  have length : (ackFrame number).length = ackFrameSize := by simp [ackFrame, ackFrameSize, headerSize]
  have long : ¬(ackFrame number).length < headerSize := by simp [ackFrame]
  have enough : ¬(ackFrame number).length < ackFrameSize := by simp [length]
  have kind : frameKind (ackFrame number) = some .ack := frameKindHeader _ _
  have names : readAckedSequence (ackFrame number) = number := by
    have named := ackNumberFrame number
    simp only [ackNumber, length, kind, Nat.le_refl, and_self, if_true, Option.some.injEq] at named
    exact named
  simp only [dispatchFrame, if_neg long, kind, if_neg enough, names]

theorem pollHears (ready : m.initialized = true) {raw : Bytes} (short : raw.length ≤ vitalPayloadMax) {stampMs : UInt64}
    (arrived : answer.arrival = .ok (messageOf m (channel.links i).expectedPeerId (channel.links i).expectedSequence raw
      stampMs)) {used : ChecksumManager} (same : SameTable m used) :
    ∃ left, SameTable m left ∧ pollLinkOnce channel used i answer =
      { dispatchFrame (withLink channel i { channel.links i with
          expectedSequence := (channel.links i).expectedSequence + 1 }) left i raw (channel.links i).expectedSequence
          answer with accepted := some ((channel.links i).expectedSequence, raw) } := by
  have created := createsMessage ready (channel.links i).expectedPeerId (channel.links i).expectedSequence short stampMs
  have room : raw.length ≤ (UInt8.ofNat vitalPayloadMax).toNat := short
  have verified := createdVerifies created (same.ready.trans ready) same.table room
  have number : (messageOf m (channel.links i).expectedPeerId (channel.links i).expectedSequence raw
      stampMs).sequenceNumber = (channel.links i).expectedSequence := rfl
  have peer : (messageOf m (channel.links i).expectedPeerId (channel.links i).expectedSequence raw stampMs).senderId =
      (channel.links i).expectedPeerId := rfl
  obtain ⟨_, delivered, moved⟩ := receiveAccepts (by decide) peer verified
  have kept := receiveKeepsTable (channel.links i) used (UInt8.ofNat vitalPayloadMax) answer.arrival
  rw [number] at delivered moved
  refine ⟨_, same.trans kept, ?_⟩
  simp only [pollLinkOnce, arrived, delivered, moved]

theorem performsData (ready : m.initialized = true) {payload : Bytes} (fits : payload.length ≤ dualChannelMaxPayload)
    {stampMs : UInt64} (up : answer.linkStatus = .ok) (arrived : answer.arrival = .ok (messageOf m
      (channel.links i).expectedPeerId (channel.links i).expectedSequence (dataFrame payload) stampMs)) :
    let heard := { channel.links i with expectedSequence := (channel.links i).expectedSequence + 1 }
    Performs m channel answer (.poll i)
      ⟨withLink { withLink channel i heard with pendingData := some payload } i
          { heard with nextSequence := heard.nextSequence + 1 }, m, .ok, (channel.links i).nextSequence, some .data,
        some (ackFrame (channel.links i).expectedSequence, messageOf m (channel.links i).senderId
          (channel.links i).nextSequence (ackFrame (channel.links i).expectedSequence) answer.stampMs),
        some ((channel.links i).expectedSequence, dataFrame payload), some payload⟩ := by
  intro heard used same
  obtain ⟨left, kept, polled⟩ := pollHears ready (dataFrameShort fits) arrived same
  have small : (ackFrame (channel.links i).expectedSequence).length ≤ vitalPayloadMax := by
    simp [ackFrame, headerSize, vitalPayloadMax]
  obtain ⟨last, kept', sent⟩ := sendWorks { withLink channel i heard with pendingData := some payload } i ready small up
    kept
  have own : (withLink channel i heard).links i = heard := by simp [withLink]
  simp only [own] at sent
  refine ⟨last, kept', ?_⟩
  simp only [perform, polled, dispatchData fits, autoAck]
  rw [sent]

theorem performsAck (ready : m.initialized = true) {number : UInt32} {stampMs : UInt64}
    (arrived : answer.arrival = .ok (messageOf m (channel.links i).expectedPeerId (channel.links i).expectedSequence
      (ackFrame number) stampMs)) :
    Performs m channel answer (.poll i)
      ⟨withLink channel i { channel.links i with expectedSequence := (channel.links i).expectedSequence + 1 }, m, .ok,
        (channel.links i).expectedSequence, some (.ack number), none,
        some ((channel.links i).expectedSequence, ackFrame number), none⟩ := by
  intro used same
  have short : (ackFrame number).length ≤ vitalPayloadMax := by simp [ackFrame, headerSize, vitalPayloadMax]
  obtain ⟨left, kept, polled⟩ := pollHears ready short arrived same
  refine ⟨left, kept, ?_⟩
  simp only [perform, polled, dispatchAck]

end Access

structure View where
  channel : DualChannel
  running : Option Call
  requests : List Request
  results : List Returned
  carried : List Carried
  slotFrom : Nat
  handed : List (Nat × Bytes)

def view (e : Endpoint) : View := ⟨e.channel, e.running, e.requests, e.results, e.carried, e.slotFrom, e.handed⟩

namespace View

def start (v : View) (request : Request) : View :=
  match v.running with
  | some _ => v
  | none =>
      let begun := startCall v.channel request
      { v with
        running := begun.getLeft?
        requests := v.requests ++ [request]
        results := v.results ++ begun.getRight?.toList }

def proceed (v : View) (call : Call) (answer : Answer) (source : Nat) (done : Performed) : View :=
  let concluded := conclude call (nextAction v.channel call) done answer.nowMs
  { channel := concluded.1
    running := concluded.2.getLeft?
    requests := v.requests
    results := v.results ++ concluded.2.getRight?.toList
    carried :=
      (done.carried.map fun sent => ⟨v.results.length, (nextAction v.channel call).link, sent.1, sent.2⟩).toList ++
      v.carried
    slotFrom := if done.staged.isSome then source else v.slotFrom
    handed := ((concluded.2.getRight?.bind Returned.delivered).map fun payload => (v.slotFrom, payload)).toList ++
      v.handed }

end View

structure Shows (m : ChecksumManager) (e : Endpoint) (v : View) : Prop where
  table : SameTable m e.manager
  same : view e = v

namespace Shows

variable {m : ChecksumManager} {e : Endpoint} {v : View} (shows_ : Shows m e v)
include shows_

theorem channel : e.channel = v.channel := congrArg View.channel shows_.same

theorem running : e.running = v.running := congrArg View.running shows_.same

theorem requests : e.requests = v.requests := congrArg View.requests shows_.same

theorem results : e.results = v.results := congrArg View.results shows_.same

theorem carried : e.carried = v.carried := congrArg View.carried shows_.same

theorem handed : e.handed = v.handed := congrArg View.handed shows_.same

end Shows

theorem concludeCounters (call : Call) (action : Action) (done : Performed) (left : ChecksumManager) (nowMs : UInt64) :
    conclude call action { done with manager := left } nowMs = conclude call action done nowMs := by
  cases action with
  | finish => rfl
  | transmit i raw =>
    cases call with
    | exchange _ _ _ _ _ wait => cases wait <;> rfl
    | receive _ _ _ => rfl
    | beacon _ _ _ => rfl
    | receiveState _ => rfl
  | poll i =>
    cases call with
    | exchange _ _ _ _ _ wait => cases wait <;> rfl
    | receive _ _ _ => rfl
    | beacon _ _ _ => rfl
    | receiveState _ => rfl

section Shows
variable {m : ChecksumManager} {e : Endpoint} {v : View}

theorem showsStart (shows_ : Shows m e v) (request : Request) : Shows m (e.start request) (v.start request) := by
  obtain ⟨table, rfl⟩ := shows_
  cases running : e.running with
  | some call =>
    exact ⟨by simpa [Endpoint.start, running] using table, by simp [Endpoint.start, View.start, view, running]⟩
  | none => exact ⟨by simpa [Endpoint.start, running] using table, by simp [Endpoint.start, View.start, view, running]⟩

theorem showsProceed (shows_ : Shows m e v) {call : Call} {answer : Answer} (source : Nat) {done : Performed}
    (performs : Performs m v.channel answer (nextAction v.channel call) done) :
    Shows m (e.proceed call answer source) (v.proceed call answer source done) := by
  obtain ⟨table, rfl⟩ := shows_
  obtain ⟨left, kept, performed⟩ := performs e.manager table
  change perform e.channel e.manager answer (nextAction e.channel call) = _ at performed
  have moved : advance e.channel e.manager call answer =
      ⟨(conclude call (nextAction e.channel call) done answer.nowMs).1, left, { done with manager := left },
        (conclude call (nextAction e.channel call) done answer.nowMs).2⟩ := by
    simp only [advance]
    rw [performed, concludeCounters]
  refine ⟨?_, ?_⟩
  · simp only [Endpoint.proceed, moved]
    exact kept
  · simp only [view, Endpoint.proceed, View.proceed, Endpoint.sends, moved]

end Shows

def Shown (m : ChecksumManager) (s : Pair Endpoint) (v : Pair View) : Prop := ∀ p, Shows m (s.get p) (v.get p)

structure Reached (m : ChecksumManager) (P : Pair Endpoint → Event → Prop) (first : Pair Endpoint) (events : List Event)
    (v : Pair View) : Prop where
  shown : Shown m (run step first events) v
  admitted : Always step P first events

section Reach
variable {m : ChecksumManager} {P : Pair Endpoint → Event → Prop} {first : Pair Endpoint} {events : List Event}
variable {v : Pair View}

theorem reachedStart (reached : Reached m P first events v) (p : Party) (request : Request)
    (fine : ∀ s, Shown m s v → Shown m (step s (.start p request)) (v.set p ((v.get p).start request)) →
      P s (.start p request)) :
    Reached m P first (events ++ [.start p request]) (v.set p ((v.get p).start request)) := by
  have shown : Shown m (step (run step first events) (.start p request)) (v.set p ((v.get p).start request)) := by
    intro q
    rcases Party.eqOrOther p q with rfl | rfl
    · simpa [step] using showsStart (reached.shown q) request
    · simpa [step] using reached.shown p.other
  exact ⟨runSnoc step first events _ ▸ shown, alwaysSnoc.mpr ⟨reached.admitted, fine _ reached.shown shown⟩⟩

theorem reachedProceed (reached : Reached m P first events v) (p : Party) (answer : Answer) (source : Nat) {call : Call}
    (running : (v.get p).running = some call) {done : Performed}
    (performs : Performs m (v.get p).channel answer (nextAction (v.get p).channel call) done)
    (fine : ∀ s, Shown m s v → Shown m (step s (.advance p answer source))
      (v.set p ((v.get p).proceed call answer source done)) → P s (.advance p answer source)) :
    Reached m P first (events ++ [.advance p answer source]) (v.set p ((v.get p).proceed call answer source done)) := by
  have goes : ((run step first events).get p).running = some call :=
    (reached.shown p).running.trans running
  have shown : Shown m (step (run step first events) (.advance p answer source))
      (v.set p ((v.get p).proceed call answer source done)) := by
    intro q
    simp only [step, goes]
    rcases Party.eqOrOther p q with rfl | rfl
    · simpa using showsProceed (reached.shown q) source performs
    · simpa using reached.shown p.other
  exact ⟨runSnoc step first events _ ▸ shown, alwaysSnoc.mpr ⟨reached.admitted, fine _ reached.shown shown⟩⟩

end Reach

section Shown
variable {m : ChecksumManager} {s : Pair Endpoint} {v w : Pair View} {p : Party} {answer : Answer} {source : Nat}

theorem shownShort {event : Event} (after : Shown m (step s event) w)
    (few : w.one.carried.length < 2 ^ 32 ∧ w.two.carried.length < 2 ^ 32) : Short s event := by
  have each : ∀ q, (w.get q).carried.length < 2 ^ 32 := by
    rintro (_ | _)
    · exact few.1
    · exact few.2
  intro q i
  rw [(after q).carried]
  exact Nat.lt_of_le_of_lt List.countP_le_length (each q)

theorem silentGenuine {status : {status : RteStatus // status ≠ .ok}} (silent : answer.arrival = .error status) :
    Genuine s (.advance p answer source) := by
  intro _ _ _ _ _ arrived
  rw [silent] at arrived
  cases arrived

theorem hearsGenuine (shown : Shown m s v) {call : Call} (running : (v.get p).running = some call) {i : Nat}
    (polls : nextAction (v.get p).channel call = .poll i) {frame : VitalMessage} (arrives : answer.arrival = .ok frame)
    {raw : Bytes} (member : ⟨source, i, raw, frame⟩ ∈ (v.get p.other).carried) :
    Genuine s (.advance p answer source) := by
  intro call' i' frame' running' polls' arrived
  have same : call = call' := by
    have goes := (shown p).running.trans running
    exact Option.some.inj (goes.symm.trans running')
  rw [(shown p).channel, ← same, polls] at polls'
  rw [arrives] at arrived
  cases polls'
  cases arrived
  exact Or.inl ⟨raw, by rw [(shown p.other).carried]; exact member⟩

def Calm (s : Pair Endpoint) (event : Event) : Prop :=
  Genuine s event ∧ Short s event ∧ ¬LateCopy s event ∧ ¬Overwrites s event

theorem startCalm {request : Request} (after : Shown m (step s (.start p request)) w)
    (few : w.one.carried.length < 2 ^ 32 ∧ w.two.carried.length < 2 ^ 32) : Calm s (.start p request) :=
  ⟨True.intro, shownShort after few, id, id⟩

theorem silentCalm {status : {status : RteStatus // status ≠ .ok}} (silent : answer.arrival = .error status)
    (after : Shown m (step s (.advance p answer source)) w)
    (few : w.one.carried.length < 2 ^ 32 ∧ w.two.carried.length < 2 ^ 32) : Calm s (.advance p answer source) := by
  have nothing : ¬DataArrives s p answer source := by
    rintro ⟨_, _, _, _, _, _, arrived, _⟩
    rw [silent] at arrived
    cases arrived
  exact ⟨silentGenuine silent, shownShort after few, fun late => nothing late.1, fun overwrites => nothing overwrites.1⟩

theorem hearsCalm (shown : Shown m s v) (genuine : Genuine s (.advance p answer source))
    (noneHanded : (v.get p).handed = []) (empty : (v.get p).channel.pendingData = none)
    (after : Shown m (step s (.advance p answer source)) w)
    (few : w.one.carried.length < 2 ^ 32 ∧ w.two.carried.length < 2 ^ 32) : Calm s (.advance p answer source) := by
  refine ⟨genuine, shownShort after few, ?_, ?_⟩
  · rintro ⟨_, had⟩
    rw [handedCalls, (shown p).handed, noneHanded] at had
    cases had
  · rintro ⟨_, held, _⟩
    rw [(shown p).channel, empty] at held
    cases held

end Shown

def readyManager : ChecksumManager := ⟨true, .ertms, some .ertms, noStats⟩

def freshChannel (sender peer : UInt32) (linkCount : Nat) (some_ : 0 < linkCount)
    (few : linkCount ≤ dualChannelMaxLinks) : DualChannel :=
  ⟨linkCount, some_, few, fun _ => ⟨sender, peer, 0, 0, false⟩, fun _ => false, .down, true, 100, none, none⟩

theorem oneLinkFew : 1 ≤ dualChannelMaxLinks := by decide

def freshEnds (linkCount : Nat) (some_ : 0 < linkCount) (few : linkCount ≤ dualChannelMaxLinks) : Pair Endpoint where
  one := Endpoint.fresh (freshChannel 1 2 linkCount some_ few) readyManager
  two := Endpoint.fresh (freshChannel 2 1 linkCount some_ few) readyManager

theorem freshChannelInit (sender peer : UInt32) {linkCount : Nat} (some_ : 0 < linkCount)
    (few : linkCount ≤ dualChannelMaxLinks) :
    dualChannelInit ⟨List.replicate linkCount true, linkCount, sender, peer, 100, true⟩ =
      .ok (freshChannel sender peer linkCount some_ few) := by
  have given : ((List.range linkCount).all fun i => (List.replicate linkCount true).getD i false) = true := by
    rw [List.all_eq_true]
    intro i member
    simp [List.getD_eq_getElem?_getD, List.mem_range.mp member]
  simp only [dualChannelInit, some_, few, and_self, given, dif_pos, if_true]
  rfl

theorem freshEndsFresh {linkCount : Nat} (some_ : 0 < linkCount) (few : linkCount ≤ dualChannelMaxLinks) :
    Fresh (freshEnds linkCount some_ few) := by
  have distinct : (1 : UInt32) ≠ 2 := by decide
  refine ⟨?_, fun _ _ => distinct, ?_⟩
  · rintro (_ | _)
    · exact ⟨_, _, _, false, freshChannelInit 1 2 some_ few, rfl⟩
    · exact ⟨_, _, _, false, freshChannelInit 2 1 some_ few, rfl⟩
  · rintro (_ | _) i <;> rfl

theorem freshEndsReached {P : Pair Endpoint → Event → Prop} {linkCount : Nat} (some_ : 0 < linkCount)
    (few : linkCount ≤ dualChannelMaxLinks) :
    Reached readyManager P (freshEnds linkCount some_ few) [] ((freshEnds linkCount some_ few).map view) := by
  refine ⟨?_, alwaysNil step P _⟩
  rintro (_ | _) <;> exact ⟨⟨rfl, rfl⟩, rfl⟩

def quiet : Answer := ⟨.error ⟨.timeout, by simp⟩, .ok, 0, 0⟩

def hears (sender number : UInt32) (raw : Bytes) : Answer :=
  ⟨.ok (messageOf readyManager sender number raw 0), .ok, 0, 0⟩

end PlatformRte.Dual.Channel
