import PlatformRte.Dual.Exchange
import PlatformRte.Lib.Acknowledge
import PlatformRte.Lib.Machine

/-! Two dual channels and the links between them. Each end has one call running at a
time, and the other end may move between any two of its accesses. What a link once
carried may arrive on it at any later time, any number of times and in any order, or
never; next to it arrives what fails the CRC or names another sender. -/
namespace PlatformRte.Dual.Channel
open Bytes Checksum Machine

structure Carried where
  call : Nat
  link : Nat
  raw : Bytes
  frame : VitalMessage

structure Accepted where
  call : Nat
  link : Nat
  number : UInt32
  raw : Bytes

structure Staged where
  call : Nat
  link : Nat
  number : UInt32
  payload : Bytes

/- The calls are numbered from 0 in the order in which they begin. slotFrom: the call of
the peer whose payload was staged last; handed: the payloads that receive calls
returned, newest first, each with the call of the peer it comes from. -/
structure Endpoint where
  channel : DualChannel
  manager : ChecksumManager
  running : Option Call
  seen : Seen
  statusBefore : DualChannelStatus
  requests : List Request
  results : List Returned
  carried : List Carried
  accepted : List Accepted
  staged : List Staged
  slotFrom : Nat
  handed : List (Nat × Bytes)

def Returned.delivered : Returned → Option Bytes
  | .receive .ok payload => payload
  | _ => none

namespace Endpoint

def fresh (channel : DualChannel) (manager : ChecksumManager) : Endpoint :=
  ⟨channel, manager, none, Seen.empty, channel.lastStatus, [], [], [], [], [], 0, []⟩

def start (e : Endpoint) (request : Request) : Endpoint :=
  match e.running with
  | some _ => e
  | none =>
      let begun := startCall e.channel request
      { e with
        running := begun.getLeft?
        seen := Seen.empty
        statusBefore := e.channel.lastStatus
        requests := e.requests ++ [request]
        results := e.results ++ begun.getRight?.toList }

def sends (e : Endpoint) (call : Call) (answer : Answer) : Option Carried :=
  (advance e.channel e.manager call answer).done.carried.map fun sent =>
    ⟨e.results.length, (nextAction e.channel call).link, sent.1, sent.2⟩

def hears (e : Endpoint) (call : Call) (answer : Answer) (source : Nat) : Option Accepted :=
  (advance e.channel e.manager call answer).done.accepted.map fun heard =>
    ⟨source, (nextAction e.channel call).link, heard.1, heard.2⟩

def stages (e : Endpoint) (call : Call) (answer : Answer) (source : Nat) : Option Staged :=
  (e.hears call answer source).bind fun heard =>
    (advance e.channel e.manager call answer).done.staged.map fun payload =>
      ⟨source, heard.link, heard.number, payload⟩

def proceed (e : Endpoint) (call : Call) (answer : Answer) (source : Nat) : Endpoint :=
  let progress := advance e.channel e.manager call answer
  { channel := progress.channel
    manager := progress.manager
    running := progress.next.getLeft?
    seen := e.seen.observe (nextAction e.channel call) progress.done
    statusBefore := e.statusBefore
    requests := e.requests
    results := e.results ++ progress.next.getRight?.toList
    carried := (e.sends call answer).toList ++ e.carried
    accepted := (e.hears call answer source).toList ++ e.accepted
    staged := (e.stages call answer source).toList ++ e.staged
    slotFrom := if progress.done.staged.isSome then source else e.slotFrom
    handed := ((progress.next.getRight?.bind Returned.delivered).map fun payload => (e.slotFrom, payload)).toList ++
      e.handed }

end Endpoint

inductive Event where
  | start (p : Party) (request : Request)
  | advance (p : Party) (answer : Answer) (source : Nat)

def step (s : Pair Endpoint) : Event → Pair Endpoint
  | .start p request => s.set p ((s.get p).start request)
  | .advance p answer source =>
      match (s.get p).running with
      | none => s
      | some call => s.set p ((s.get p).proceed call answer source)

/- What may arrive: a message that the link has carried from the other end, or an
injected one. -/
def Genuine (s : Pair Endpoint) : Event → Prop
  | .start _ _ => True
  | .advance p answer source => ∀ call i frame, (s.get p).running = some call →
      nextAction (s.get p).channel call = .poll i → answer.arrival = .ok frame →
        (∃ raw, ⟨source, i, raw, frame⟩ ∈ (s.get p.other).carried) ∨
          Injected ((s.get p).channel.links i) (s.get p).manager frame

def carriedOn (i : Nat) (carried : List Carried) : Nat := carried.countP fun message => message.link = i

def Short (s : Pair Endpoint) (e : Event) : Prop := ∀ p i, carriedOn i ((step s e).get p).carried < 2 ^ 32

def DataArrives (s : Pair Endpoint) (p : Party) (answer : Answer) (source : Nat) : Prop :=
  ∃ call i raw frame, (s.get p).running = some call ∧ nextAction (s.get p).channel call = .poll i ∧
    answer.arrival = .ok frame ∧ ⟨source, i, raw, frame⟩ ∈ (s.get p.other).carried ∧
    (dataPayload raw).isSome = true ∧ frame.sequenceNumber = ((s.get p).channel.links i).expectedSequence

def handedCalls (e : Endpoint) : List Nat := e.handed.map Prod.fst

/- A copy of a payload that the application has had. -/
def LateCopy (s : Pair Endpoint) : Event → Prop
  | .start _ _ => False
  | .advance p answer source => DataArrives s p answer source ∧ source ∈ handedCalls (s.get p)

def Failed (e : Endpoint) (k : Nat) : Prop :=
  ∃ payload status ackCount callback, e.results[k]? = some (.exchange payload status ackCount callback) ∧ status ≠ .ok

/- A payload while that of another send is unread: it has not been handed over, and its
send has not failed. -/
def Overwrites (s : Pair Endpoint) : Event → Prop
  | .start _ _ => False
  | .advance p answer source => DataArrives s p answer source ∧ (s.get p).channel.pendingData.isSome = true ∧
      (s.get p).slotFrom ≠ source ∧ (s.get p).slotFrom ∉ handedCalls (s.get p) ∧
      ¬Failed (s.get p.other) (s.get p).slotFrom

structure Fresh (s : Pair Endpoint) : Prop where
  created : ∀ p, ∃ config channel manager enable, dualChannelInit config = .ok channel ∧
    s.get p = Endpoint.fresh (dualChannelSetResync channel enable) manager
  distinct : ∀ i j, (s.one.channel.links i).senderId ≠ (s.two.channel.links j).senderId
  crossed : ∀ p i, ((s.get p.other).channel.links i).expectedPeerId = ((s.get p).channel.links i).senderId

def Carried.message (sent : Carried) : Acknowledge.Message (Nat × Bytes) :=
  ⟨sent.link, sent.frame.sequenceNumber.toNat, sent.call, sent.raw⟩

def Accepted.message (heard : Accepted) : Acknowledge.Message (Nat × Bytes) :=
  ⟨heard.link, heard.number.toNat, heard.call, heard.raw⟩

def side (e : Endpoint) : Acknowledge.Side (Nat × Bytes) where
  posted := e.carried.map Carried.message
  heard := e.accepted.map Accepted.message

def acks (content : Nat × Bytes) : Option Nat := (ackNumber content.2).map UInt32.toNat

def callFrame : Call → Option (Option Bytes × Bytes)
  | .exchange payload frame _ _ _ _ => some (payload, frame)
  | .beacon frame _ _ => some (none, frame)
  | .receive _ _ _ => none
  | .receiveState _ => none

def Call.exchanges : Call → Bool
  | .exchange _ _ _ _ _ _ => true
  | _ => false

theorem transmitFrame {channel : DualChannel} {call : Call} {i : Nat} {raw : Bytes}
    (action : nextAction channel call = .transmit i raw) : ∃ payload, callFrame call = some (payload, raw) := by
  cases call with
  | exchange payload frame link _ _ wait =>
    cases wait <;> simp only [nextAction] at action <;> split at action <;> cases action
    exact ⟨payload, rfl⟩
  | receive _ _ _ =>
    simp only [nextAction] at action
    split at action <;> cases action
  | beacon frame _ _ =>
    simp only [nextAction] at action
    split at action <;> cases action
    exact ⟨none, rfl⟩
  | receiveState _ =>
    simp only [nextAction] at action
    split at action <;> cases action

inductive Outcome (channel : DualChannel) (call : Call) : DualChannel → Call ⊕ Returned → Prop where
  | goesOn (next : Call) (up : Nat → Bool) (frame : callFrame next = callFrame call)
      (kind : next.exchanges = call.exchanges) :
      Outcome channel call { channel with linkUp := up } (.inl next)
  | takes (payload : Bytes) (slot : channel.pendingData = some payload) :
      Outcome channel call { channel with pendingData := none } (.inr (.receive .ok (some payload)))
  | ends (returned : Returned) (last : DualChannelStatus) (state : Option DualStateFrame)
      (nothing : returned.delivered = none)
      (own : ∀ payload status ackCount callback, returned = .exchange payload status ackCount callback →
        ackCount.isSome = true ∧ ∃ frame, callFrame call = some (payload, frame)) :
      Outcome channel call { channel with lastStatus := last, pendingState := state } (.inr returned)

theorem Outcome.links {channel after : DualChannel} {call : Call} {next : Call ⊕ Returned}
    (outcome : Outcome channel call after next) : after.links = channel.links := by
  cases outcome <;> rfl

theorem Outcome.frame {channel after : DualChannel} {call next : Call}
    (outcome : Outcome channel call after (.inl next)) : callFrame next = callFrame call := by
  cases outcome with
  | goesOn _ _ frame _ => exact frame

theorem Outcome.kind {channel after : DualChannel} {call next : Call}
    (outcome : Outcome channel call after (.inl next)) : next.exchanges = call.exchanges := by
  cases outcome with
  | goesOn _ _ _ kind => exact kind

theorem Outcome.lastStatus {channel after : DualChannel} {call next : Call}
    (outcome : Outcome channel call after (.inl next)) : after.lastStatus = channel.lastStatus := by
  cases outcome
  rfl

theorem Outcome.pending {channel after : DualChannel} {call next : Call}
    (outcome : Outcome channel call after (.inl next)) : after.pendingData = channel.pendingData := by
  cases outcome
  rfl

theorem Outcome.delivers {channel after : DualChannel} {call : Call} {returned : Returned}
    (outcome : Outcome channel call after (.inr returned)) :
    (∃ payload, channel.pendingData = some payload ∧ returned.delivered = some payload ∧ after.pendingData = none) ∨
      returned.delivered = none ∧ after.pendingData = channel.pendingData := by
  cases outcome with
  | takes payload slot => exact Or.inl ⟨payload, slot, rfl, rfl⟩
  | ends _ _ _ nothing => exact Or.inr ⟨nothing, rfl⟩

theorem Outcome.own {channel after : DualChannel} {call : Call} {payload : Option Bytes} {status : RteStatus}
    {ackCount : Option Nat} {callback : Option (DualChannelStatus × DualChannelStatus)}
    (outcome : Outcome channel call after (.inr (.exchange payload status ackCount callback))) :
    ackCount.isSome = true ∧ ∃ frame, callFrame call = some (payload, frame) := by
  cases outcome with
  | ends _ _ _ _ own => exact own payload status ackCount callback rfl

theorem finishOutcome (channel : DualChannel) (call : Call) :
    Outcome channel call (finishCall channel call).1 (finishCall channel call).2 := by
  cases call with
  | exchange payload frame link ackCount hardFault wait =>
    simp only [finishCall, updateStatusLast]
    exact .ends _ _ channel.pendingState rfl (by rintro _ _ _ _ ⟨⟩; exact ⟨rfl, frame, rfl⟩)
  | receive maxSize link hardFault =>
    simp only [finishCall]
    split
    · refine .ends _ channel.lastStatus channel.pendingState ?_ (by simp)
      cases hardFault <;> rfl
    · split
      · exact .ends _ channel.lastStatus channel.pendingState rfl (by simp)
      · rename_i slot _
        exact .takes _ slot
  | beacon frame link sentCount => exact .ends _ channel.lastStatus channel.pendingState rfl (by simp)
  | receiveState link =>
    simp only [finishCall]
    split
    · exact .ends _ channel.lastStatus channel.pendingState rfl (by simp)
    · exact .ends _ channel.lastStatus none rfl (by simp)

theorem settleOutcome (channel : DualChannel) (done : Performed) (nowMs : UInt64) (call : Call) :
    Outcome channel call (settle channel done nowMs call).1 (settle channel done nowMs call).2 := by
  cases call with
  | receive maxSize link hardFault => exact .goesOn _ channel.linkUp rfl rfl
  | beacon frame link sentCount => exact .goesOn _ channel.linkUp rfl rfl
  | receiveState link => exact .goesOn _ channel.linkUp rfl rfl
  | exchange payload frame link ackCount hardFault wait =>
    cases wait with
    | none =>
      simp only [settle]
      split
      · exact .goesOn _ channel.linkUp rfl rfl
      · exact .goesOn _ _ rfl rfl
    | some w =>
      simp only [settle]
      split
      · exact .goesOn _ _ rfl rfl
      · exact .goesOn _ _ rfl rfl
      · split
        · exact .goesOn _ channel.linkUp rfl rfl
        · exact .goesOn _ _ rfl rfl

theorem advanceOutcome (channel : DualChannel) (m : ChecksumManager) (call : Call) (answer : Answer) :
    let progress := advance channel m call answer
    Outcome progress.done.channel call progress.channel progress.next := by
  simp only [advance, conclude]
  split
  · exact finishOutcome _ call
  · exact settleOutcome _ _ _ call

def Framed (requests : List Request) (number : Nat) (call : Call) : Prop :=
  ∀ payload frame, callFrame call = some (payload, frame) → match payload with
    | some payload => frame = dataFrame payload ∧ requests[number]? = some (.send payload)
    | none => dataPayload frame = none ∧ ackNumber frame = none

structure Wired (e : Endpoint) : Prop where
  holds : ∀ sent ∈ e.carried, field sent.frame.bytes vitalPayloadOffset sent.frame.payloadSize.toNat = sent.raw
  data : ∀ sent ∈ e.carried, ∀ payload, dataPayload sent.raw = some payload →
    e.requests[sent.call]? = some (.send payload)
  staged : ∀ call link number payload, ⟨call, link, number, payload⟩ ∈ e.staged ↔
    ∃ raw, ⟨call, link, number, raw⟩ ∈ e.accepted ∧ dataPayload raw = some payload
  begun : e.requests.length = e.results.length + if e.running.isSome then 1 else 0
  framed : ∀ call, e.running = some call → Framed e.requests e.results.length call

theorem kindOther (kind : FrameKind) (rest : Bytes) (noData : kind ≠ .data) (noAck : kind ≠ .ack) :
    dataPayload (frameHeader kind ++ rest) = none ∧ ackNumber (frameHeader kind ++ rest) = none := by
  simp [dataPayload, ackNumber, noData, noAck]

theorem startFramed (channel : DualChannel) (requests : List Request) (request : Request) (call : Call)
    (begun : (startCall channel request).getLeft? = some call) :
    Framed (requests ++ [request]) requests.length call := by
  rintro payload frame framed
  cases request with
  | send payload' =>
    simp only [startCall] at begun
    split at begun <;> cases begun
    cases framed
    exact ⟨rfl, by simp⟩
  | heartbeat nowMs =>
    cases begun
    cases framed
    simp only [heartbeatFrame, List.append_assoc]
    exact kindOther .heartbeat _ (by simp) (by simp)
  | receive maxSize =>
    simp only [startCall] at begun
    split at begun <;> cases begun
    cases framed
  | sendStateFrame beacon =>
    cases begun
    cases framed
    simp only [stateFrame, List.append_assoc]
    exact kindOther .state _ (by simp) (by simp)
  | receiveStateFrame =>
    cases begun
    cases framed

theorem wiredStart {e : Endpoint} (wired : Wired e) (request : Request) : Wired (e.start request) := by
  unfold Endpoint.start
  split
  · exact wired
  rename_i idle
  have begun := wired.begun
  rw [idle] at begun
  refine ⟨wired.holds, fun sent member payload data => ?_, wired.staged, ?_, fun call running => ?_⟩
  · exact List.getElem?_append_left (List.getElem?_eq_some_iff.mp (wired.data sent member payload data)).1 ▸
      wired.data sent member payload data
  · rcases startCall e.channel request with call | returned <;> simp [begun]
  · have framed := startFramed e.channel e.requests request call running
    rcases started : startCall e.channel request with call' | returned
    · rw [begun] at framed
      simpa [started] using framed
    · rw [started] at running
      cases running

section Proceed
variable {e : Endpoint} {call : Call} (answer : Answer) (source : Nat)

theorem advanceAccess (channel : DualChannel) (m : ChecksumManager) (call : Call) :
    Access channel m answer (nextAction channel call) (advance channel m call answer).done :=
  performAccess channel m answer (nextAction channel call)

theorem proceedCarried {sent : Carried} (member : sent ∈ (e.proceed call answer source).carried) :
    sent ∈ e.carried ∨
      (advance e.channel e.manager call answer).done.carried = some (sent.raw, sent.frame) ∧
        sent.call = e.results.length ∧ sent.link = (nextAction e.channel call).link := by
  rcases List.mem_append.mp member with new | old
  · obtain ⟨⟨raw, frame⟩, carried, rfl⟩ := Option.map_eq_some_iff.mp (Option.mem_toList.mp new)
    exact Or.inr ⟨carried, rfl, rfl⟩
  · exact Or.inl old

theorem proceedStages (access : Access e.channel e.manager answer (nextAction e.channel call)
    (advance e.channel e.manager call answer).done) {call' link : Nat} {number : UInt32} {payload : Bytes} :
    e.stages call answer source = some ⟨call', link, number, payload⟩ ↔
      ∃ raw, e.hears call answer source = some ⟨call', link, number, raw⟩ ∧ dataPayload raw = some payload := by
  have staged := access.staged
  unfold Endpoint.stages Endpoint.hears
  rw [staged]
  rcases (advance e.channel e.manager call answer).done.accepted with _ | ⟨number', raw⟩
  · simp
  · simp only [Option.map_some, Option.bind_some, Option.some.injEq, Option.map_eq_some_iff, Staged.mk.injEq,
      Accepted.mk.injEq]
    constructor
    · rintro ⟨payload', data, rfl, rfl, rfl, rfl⟩
      exact ⟨raw, ⟨rfl, rfl, rfl, rfl⟩, data⟩
    · rintro ⟨_, ⟨rfl, rfl, rfl, rfl⟩, data⟩
      exact ⟨payload, data, rfl, rfl, rfl, rfl⟩

theorem wiredProceed (wired : Wired e) (running : e.running = some call) : Wired (e.proceed call answer source) := by
  have access := advanceAccess answer e.channel e.manager call
  have framed := wired.framed call running
  refine ⟨fun sent member => ?_, fun sent member payload data => ?_, fun call' link number payload => ?_, ?_, ?_⟩
  · rcases proceedCarried answer source member with old | ⟨carried, _, _⟩
    · exact wired.holds sent old
    · exact (access.posts.numbered _ _ carried).2
  · rcases proceedCarried answer source member with old | ⟨carried, own, _⟩
    · exact wired.data sent old payload data
    · rcases access.origin _ _ carried with transmits | ⟨number, heard, _, answers⟩
      · obtain ⟨payload', frame⟩ := transmitFrame transmits
        have shape := framed _ _ frame
        cases payload' with
        | none =>
          rw [shape.1] at data
          cases data
        | some payload' =>
          rw [shape.1, dataPayloadFrame] at data
          cases data
          rw [own]
          exact shape.2
      · rw [answers] at data
        simp [dataPayload, ackFrame] at data
  · simp only [Endpoint.proceed, List.mem_append, Option.mem_toList, wired.staged, proceedStages answer source access]
    constructor
    · rintro (⟨raw, heard, data⟩ | ⟨raw, old, data⟩)
      · exact ⟨raw, Or.inl heard, data⟩
      · exact ⟨raw, Or.inr old, data⟩
    · rintro ⟨raw, heard | old, data⟩
      · exact Or.inl ⟨raw, heard, data⟩
      · exact Or.inr ⟨raw, old, data⟩
  · have begun := wired.begun
    rw [running] at begun
    cases step : (advance e.channel e.manager call answer).next <;>
      simp only [Endpoint.proceed, List.length_append, step] <;> simpa using begun
  · intro next goes payload frame shape
    have outcome := advanceOutcome e.channel e.manager call answer
    simp only [Endpoint.proceed] at goes ⊢
    cases step : (advance e.channel e.manager call answer).next with
    | inr returned =>
      rw [step] at goes
      cases goes
    | inl next' =>
      rw [step] at goes
      cases goes
      simp only [step] at outcome
      rw [outcome.frame] at shape
      simpa using framed payload frame shape

end Proceed
structure Recorded (s : Pair Endpoint) : Prop where
  wired : ∀ p, Wired (s.get p)
  sound : Acknowledge.Sound acks (s.map side)

theorem recordedFresh {s : Pair Endpoint} (fresh : Fresh s) : Recorded s := by
  have each : ∀ p, ∃ channel manager, s.get p = Endpoint.fresh channel manager := by
    intro p
    obtain ⟨_, _, manager, _, _, same⟩ := fresh.created p
    exact ⟨_, manager, same⟩
  refine ⟨fun p => ?_, Acknowledge.soundFresh fun p => ?_⟩
  · obtain ⟨channel, manager, same⟩ := each p
    rw [same]
    exact ⟨by simp [Endpoint.fresh], by simp [Endpoint.fresh], by simp [Endpoint.fresh], rfl, by simp [Endpoint.fresh]⟩
  · obtain ⟨channel, manager, same⟩ := each p
    rw [Pair.getMap, same]
    rfl

theorem startSide (e : Endpoint) (request : Request) : side (e.start request) = side e := by
  unfold Endpoint.start
  split <;> rfl

theorem sideProceed (e : Endpoint) (call : Call) (answer : Answer) (source : Nat) :
    side (e.proceed call answer source) =
      ⟨(e.sends call answer).toList.map Carried.message ++ (side e).posted,
        (e.hears call answer source).toList.map Accepted.message ++ (side e).heard⟩ := by
  simp only [side, Endpoint.proceed, List.map_append]

theorem acceptedCarried {s : Pair Endpoint} {p : Party} {call : Call} {answer : Answer} {source : Nat}
    (wired : Wired (s.get p.other)) (genuine : Genuine s (.advance p answer source))
    (running : (s.get p).running = some call) {number : UInt32} {raw : Bytes}
    (accepted : (advance (s.get p).channel (s.get p).manager call answer).done.accepted = some (number, raw)) :
    ∃ frame, ⟨source, (nextAction (s.get p).channel call).link, raw, frame⟩ ∈ (s.get p.other).carried ∧
      Heard (s.get p).channel (s.get p).manager answer (nextAction (s.get p).channel call).link number raw frame := by
  have access := advanceAccess answer (s.get p).channel (s.get p).manager call
  obtain ⟨polls, frame, heard⟩ := access.heard number raw accepted
  rcases genuine call _ frame running polls heard.arrived with ⟨raw', carried⟩ | injected
  · have same : raw' = raw := (wired.holds _ carried).symm.trans heard.raw.symm
    rw [same] at carried
    exact ⟨frame, carried, heard⟩
  · exact absurd injected heard.genuine

theorem recordedStep (s : Pair Endpoint) (event : Event) (recorded : Recorded s) (genuine : Genuine s event) :
    Recorded (step s event) := by
  cases event with
  | start p request =>
    refine ⟨Pair.setKeeps (wiredStart (recorded.wired p) request) recorded.wired, ?_⟩
    · simp only [step, Pair.mapSet, startSide]
      rw [← Pair.getMap side s p, Pair.setGet]
      exact recorded.sound
  | advance p answer source =>
    cases running : (s.get p).running with
    | none => simpa only [step, running] using recorded
    | some call =>
      simp only [step, running]
      have access := advanceAccess answer (s.get p).channel (s.get p).manager call
      refine ⟨Pair.setKeeps (wiredProceed answer source (recorded.wired p) running) recorded.wired, ?_⟩
      · rw [Pair.mapSet, sideProceed, ← Pair.getMap side]
        refine Acknowledge.soundMove recorded.sound p ?_ ?_
        · intro message member
          obtain ⟨heard, new, rfl⟩ := List.mem_map.mp member
          obtain ⟨⟨number, raw⟩, accepted, rfl⟩ := Option.map_eq_some_iff.mp (Option.mem_toList.mp new)
          obtain ⟨frame, carried, heard⟩ := acceptedCarried (recorded.wired p.other) genuine running accepted
          rw [Pair.getMap]
          refine List.mem_map.mpr ⟨_, carried, ?_⟩
          simp only [Carried.message, Accepted.message, heard.number]
        · intro ack member number names
          obtain ⟨sent, new, rfl⟩ := List.mem_map.mp member
          obtain ⟨⟨raw, frame⟩, carried, rfl⟩ := Option.map_eq_some_iff.mp (Option.mem_toList.mp new)
          obtain ⟨named, acked, rfl⟩ := Option.map_eq_some_iff.mp names
          rcases access.origin _ _ carried with transmits | ⟨n, heard, accepted, answers⟩
          · obtain ⟨payload, shape⟩ := transmitFrame transmits
            have framed := (recorded.wired p).framed call running payload raw shape
            have none_ : ackNumber raw = none := by
              cases payload with
              | none => exact framed.2
              | some payload =>
                rw [framed.1]
                simp [ackNumber, dataFrame]
            simp only [Carried.message] at acked
            rw [none_] at acked
            cases acked
          · simp only [Carried.message, answers, ackNumberFrame, Option.some.injEq] at acked
            subst acked
            refine ⟨_, List.mem_append_left _ (List.mem_map.mpr ⟨_, Option.mem_toList.mpr
              (Option.map_eq_some_iff.mpr ⟨_, accepted, rfl⟩), rfl⟩), rfl, rfl⟩

end PlatformRte.Dual.Channel
