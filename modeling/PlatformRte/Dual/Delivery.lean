import PlatformRte.Dual.AckSoundness
import PlatformRte.Lib.Slot

/-! The payloads on their way to the application. Every copy that is let in is put into
the one place the channel has for them, whatever the place holds and whatever was taken
from it before. -/
namespace PlatformRte.Dual.Channel
open Checksum Machine History

def slot (e : Endpoint) : Slot Nat := ⟨e.channel.pendingData.map fun _ => e.slotFrom, e.handed.map Prod.fst⟩

inductive SlotStep (e e' : Endpoint) (source : Nat) (staged : Option Bytes) : Prop where
  | put (payload : Bytes) (new : staged = some payload) (holds : e'.channel.pendingData = some payload)
      (slotFrom : e'.slotFrom = source) (handed : e'.handed = e.handed)
  | take (payload : Bytes) (held : e.channel.pendingData = some payload) (none_ : e'.channel.pendingData = none)
      (handed : e'.handed = (e.slotFrom, payload) :: e.handed) (nothing : staged = none)
  | keep (holds : e'.channel.pendingData = e.channel.pendingData) (slotFrom : e'.slotFrom = e.slotFrom)
      (handed : e'.handed = e.handed) (nothing : staged = none)

theorem slotPut {e e' : Endpoint} {payload : Bytes} {source : Nat} (holds : e'.channel.pendingData = some payload)
    (slotFrom : e'.slotFrom = source) (handed : e'.handed = e.handed) : slot e' = (slot e).put source := by
  simp [slot, Slot.put, holds, slotFrom, handed]

theorem slotTake {e e' : Endpoint} {payload : Bytes} (held : e.channel.pendingData = some payload)
    (none_ : e'.channel.pendingData = none) (handed : e'.handed = (e.slotFrom, payload) :: e.handed) :
    slot e' = (slot e).take := by
  simp [slot, Slot.take, held, none_, handed]

theorem slotKeep {e e' : Endpoint} (holds : e'.channel.pendingData = e.channel.pendingData)
    (slotFrom : e'.slotFrom = e.slotFrom) (handed : e'.handed = e.handed) : slot e' = slot e := by
  simp [slot, holds, slotFrom, handed]

theorem settleGoes (channel : DualChannel) (done : Performed) (nowMs : UInt64) (call : Call) :
    ∃ next, (settle channel done nowMs call).2 = .inl next := by
  cases call with
  | receive _ _ _ => exact ⟨_, rfl⟩
  | beacon _ _ _ => exact ⟨_, rfl⟩
  | receiveState _ => exact ⟨_, rfl⟩
  | exchange payload frame link ackCount hardFault wait =>
    cases wait with
    | none =>
      simp only [settle]
      split <;> exact ⟨_, rfl⟩
    | some w =>
      simp only [settle]
      split
      · exact ⟨_, rfl⟩
      · exact ⟨_, rfl⟩
      · split <;> exact ⟨_, rfl⟩

theorem endsStageNothing {channel : DualChannel} {m : ChecksumManager} {call : Call} {answer : Answer}
    {returned : Returned} (ends : (advance channel m call answer).next = .inr returned) :
    (advance channel m call answer).done.staged = none := by
  simp only [advance, conclude] at ends ⊢
  cases action : nextAction channel call with
  | finish => rfl
  | transmit i raw =>
    rw [action] at ends
    obtain ⟨next, goes⟩ := settleGoes (perform channel m answer (.transmit i raw)).channel
      (perform channel m answer (.transmit i raw)) answer.nowMs call
    rw [goes] at ends
    cases ends
  | poll i =>
    rw [action] at ends
    obtain ⟨next, goes⟩ := settleGoes (perform channel m answer (.poll i)).channel
      (perform channel m answer (.poll i)) answer.nowMs call
    rw [goes] at ends
    cases ends

theorem proceedSlot (e : Endpoint) (call : Call) (answer : Answer) (source : Nat) :
    SlotStep e (e.proceed call answer source) source (advance e.channel e.manager call answer).done.staged := by
  have pending := (advanceAccess answer e.channel e.manager call).slot
  have outcome := advanceOutcome e.channel e.manager call answer
  have handed : (e.proceed call answer source).handed =
      (((advance e.channel e.manager call answer).next.getRight?.bind Returned.delivered).map fun payload =>
        (e.slotFrom, payload)).toList ++ e.handed := rfl
  have holds : (e.proceed call answer source).channel = (advance e.channel e.manager call answer).channel := rfl
  cases new : (advance e.channel e.manager call answer).done.staged with
  | some payload =>
    rw [new] at pending
    cases step : (advance e.channel e.manager call answer).next with
    | inr returned =>
      rw [endsStageNothing step] at new
      cases new
    | inl next =>
      simp only [step] at outcome
      refine .put payload rfl ?_ ?_ ?_
      · rw [holds, outcome.pending, pending]
        rfl
      · simp [Endpoint.proceed, new]
      · simp [handed, step]
  | none =>
    rw [new] at pending
    have slotFrom : (e.proceed call answer source).slotFrom = e.slotFrom := by simp [Endpoint.proceed, new]
    cases step : (advance e.channel e.manager call answer).next with
    | inl next =>
      simp only [step] at outcome
      refine .keep ?_ slotFrom ?_ rfl
      · rw [holds, outcome.pending, pending]
        rfl
      · simp [handed, step]
    | inr returned =>
      simp only [step] at outcome
      rcases outcome.delivers with ⟨payload, held, delivered, empty⟩ | ⟨nothing, same⟩
      · refine .take payload ?_ ?_ ?_ rfl
        · rw [← held, pending]
          rfl
        · rw [holds, empty]
        · simp [handed, step, delivered]
      · refine .keep ?_ slotFrom ?_ rfl
        · rw [holds, same, pending]
          rfl
        · simp [handed, step, nothing]

structure FromSend (own other : Endpoint) : Prop where
  held : ∀ payload, other.channel.pendingData = some payload → own.requests[other.slotFrom]? = some (.send payload)
  handed : ∀ k payload, (k, payload) ∈ other.handed → own.requests[k]? = some (.send payload)

theorem stagedArrives {s : Pair Endpoint} {p : Party} {call : Call} {answer : Answer} {source : Nat}
    (recorded : Recorded s) (genuine : Genuine s (.advance p answer source)) (running : (s.get p).running = some call)
    {payload : Bytes}
    (staged : (advance (s.get p).channel (s.get p).manager call answer).done.staged = some payload) :
    DataArrives s p answer source ∧ (s.get p.other).requests[source]? = some (.send payload) := by
  have access := advanceAccess answer (s.get p).channel (s.get p).manager call
  rw [access.staged] at staged
  obtain ⟨⟨number, raw⟩, accepted, data⟩ := Option.bind_eq_some_iff.mp staged
  obtain ⟨frame, carried, heard⟩ := acceptedCarried (recorded.wired p.other) genuine running accepted
  refine ⟨⟨call, _, raw, frame, running, (access.heard number raw accepted).1, heard.arrived, carried, ?_,
    heard.expected⟩, (recorded.wired p.other).data _ carried payload data⟩
  exact Option.isSome_iff_exists.mpr ⟨payload, data⟩

theorem startSlot (e : Endpoint) (request : Request) : slot (e.start request) = slot e := by
  unfold Endpoint.start
  split <;> rfl

theorem fromSendStart {own other : Endpoint} (fromSend : FromSend own other) (request : Request) :
    FromSend (own.start request) other ∧ FromSend own (other.start request) := by
  have grows : ∀ (k : Nat) (asked : Request), own.requests[k]? = some asked →
      (own.start request).requests[k]? = some asked := by
    intro k asked old
    unfold Endpoint.start
    split
    · exact old
    · exact (List.getElem?_append_left (List.getElem?_eq_some_iff.mp old).1).trans old
  refine ⟨⟨fun payload held => grows _ _ (fromSend.held payload held),
    fun k payload handed => grows _ _ (fromSend.handed k payload handed)⟩, ?_⟩
  unfold Endpoint.start
  split <;> exact ⟨fromSend.held, fromSend.handed⟩

theorem fromSendProceed {s : Pair Endpoint} {p : Party} {call : Call} {answer : Answer} {source : Nat}
    (recorded : Recorded s) (genuine : Genuine s (.advance p answer source)) (running : (s.get p).running = some call)
    (fromSend : FromSend (s.get p.other) (s.get p)) :
    FromSend (s.get p.other) ((s.get p).proceed call answer source) := by
  cases proceedSlot (s.get p) call answer source with
  | put payload new holds slotFrom handed =>
    have request := (stagedArrives recorded genuine running new).2
    refine ⟨fun payload' held => ?_, fun k payload' member => ?_⟩
    · rw [holds] at held
      cases held
      rw [slotFrom]
      exact request
    · rw [handed] at member
      exact fromSend.handed k payload' member
  | take payload held none_ handed nothing =>
    refine ⟨fun payload' held' => ?_, fun k payload' member => ?_⟩
    · rw [none_] at held'
      cases held'
    · rw [handed] at member
      rcases List.mem_cons.mp member with new | old
      · cases new
        exact fromSend.held payload held
      · exact fromSend.handed k payload' old
  | keep holds slotFrom handed nothing =>
    refine ⟨fun payload held => ?_, fun k payload member => ?_⟩
    · rw [holds] at held
      rw [slotFrom]
      exact fromSend.held payload held
    · rw [handed] at member
      exact fromSend.handed k payload member

structure Traced (s : Pair Endpoint) : Prop where
  recorded : Recorded s
  fromSend : ∀ p, FromSend (s.get p.other) (s.get p)

theorem tracedFresh {s : Pair Endpoint} (fresh : Fresh s) : Traced s := by
  refine ⟨recordedFresh fresh, fun p => ?_⟩
  obtain ⟨config, channel, manager, enable, init, same⟩ := fresh.created p
  have empty : (dualChannelSetResync channel enable).pendingData = none := by
    unfold dualChannelInit at init
    split at init
    · split at init <;> cases init
      rfl
    · cases init
  rw [same]
  exact ⟨by simp [Endpoint.fresh, empty], by simp [Endpoint.fresh]⟩

theorem tracedStep (s : Pair Endpoint) (event : Event) (traced : Traced s) (genuine : Genuine s event) :
    Traced (step s event) := by
  refine ⟨recordedStep s event traced.recorded genuine, ?_⟩
  cases event with
  | start p request =>
    have towards := traced.fromSend p.other
    rw [Party.otherOther] at towards
    exact Pair.setBoth (R := fun own other => FromSend other own) (fromSendStart (traced.fromSend p) request).2
      (fromSendStart towards request).1
  | advance p answer source =>
    cases running : (s.get p).running with
    | none => simpa only [step, running] using traced.fromSend
    | some call =>
      have towards := traced.fromSend p.other
      rw [Party.otherOther] at towards
      simp only [step, running]
      exact Pair.setBoth (R := fun own other => FromSend other own)
        (fromSendProceed traced.recorded genuine running (traced.fromSend p)) ⟨towards.held, towards.handed⟩

theorem onceStep (s : Pair Endpoint) (event : Event) (state : Traced s ∧ ∀ p, (slot (s.get p)).Once)
    (admitted : Genuine s event ∧ ¬LateCopy s event) :
    Traced (step s event) ∧ ∀ p, (slot ((step s event).get p)).Once := by
  obtain ⟨traced, once⟩ := state
  refine ⟨tracedStep s event traced admitted.1, ?_⟩
  cases event with
  | start p request =>
    refine Pair.setKeeps (P := fun e => (slot e).Once) ?_ once
    rw [startSlot]
    exact once p
  | advance p answer source =>
    cases running : (s.get p).running with
    | none => simpa only [step, running] using once
    | some call =>
      simp only [step, running]
      refine Pair.setKeeps (P := fun e => (slot e).Once) ?_ once
      cases proceedSlot (s.get p) call answer source with
      | put payload new holds slotFrom handed =>
        rw [slotPut holds slotFrom handed]
        exact Slot.oncePut (once p) fun late =>
          admitted.2 ⟨(stagedArrives traced.recorded admitted.1 running new).1, late⟩
      | take payload held none_ handed nothing =>
        rw [slotTake held none_ handed]
        exact Slot.onceTake (once p)
      | keep holds slotFrom handed nothing =>
        rw [slotKeep holds slotFrom handed]
        exact once p

/- In every run without a late copy each send is handed over at most once, and with its
own payload. -/
theorem handedOnce {start : Pair Endpoint} {events : List Event} (fresh : Fresh start)
    (genuine : Always step Genuine start events) (timely : Always step (fun s event => ¬LateCopy s event) start events)
    (p : Party) :
    (handedCalls ((run step start events).get p)).Nodup ∧
      ∀ k payload, (k, payload) ∈ ((run step start events).get p).handed →
        ((run step start events).get p.other).requests[k]? = some (.send payload) := by
  have admitted : Always step (fun s event => Genuine s event ∧ ¬LateCopy s event) start events :=
    fun before event after split => ⟨genuine before event after split, timely before event after split⟩
  have first : ∀ q, (slot (start.get q)).Once := by
    intro q
    obtain ⟨_, _, _, _, _, same⟩ := fresh.created q
    rw [same]
    refine ⟨fun _ _ => ?_, ?_⟩ <;> simp [slot, Endpoint.fresh]
  obtain ⟨traced, once⟩ := invariantRun ⟨tracedFresh fresh, first⟩ onceStep admitted
  exact ⟨(once p).distinct, (traced.fromSend p).handed⟩

theorem deliverOneOnce : (handedCalls ((run step oneLink deliverOne).get .two)).Nodup ∧
    ∀ k payload, (k, payload) ∈ ((run step oneLink deliverOne).get .two).handed →
      ((run step oneLink deliverOne).get .one).requests[k]? = some (.send payload) := by
  obtain ⟨_, reached, _⟩ := deliverOneReached
  exact handedOnce (freshEndsFresh _ _) (alwaysMono (fun _ _ calm => calm.1) reached.admitted)
    (alwaysMono (fun _ _ calm => calm.2.2.1) reached.admitted) .two

def twoLinks : Pair Endpoint := freshEnds 2 (by decide) (by decide)

def copiesApart : List Event :=
  [.start .one (.send [7]), .advance .one quiet 0, .advance .one { quiet with nowMs := 100 } 0, .advance .one quiet 0,
    .start .two (.receive 248), .advance .two (hears 1 0 (dataFrame [7])) 0, .advance .two quiet 0,
    .advance .two quiet 0, .start .two (.receive 248), .advance .two quiet 0,
    .advance .two (hears 1 0 (dataFrame [7])) 0, .advance .two quiet 0]

theorem copiesApartReached : ∃ v, Reached readyManager Genuine twoLinks copiesApart v ∧ v.one.requests = [.send [7]] ∧
    v.two.results = [.receive .ok (some [7]), .receive .ok (some [7])] ∧ v.two.handed = [(0, [7]), (0, [7])] := by
  have r0 : Reached readyManager Genuine twoLinks [] _ := freshEndsReached (by decide) (by decide)
  have r1 := reachedStart r0 .one (.send [7]) fun _ _ _ => True.intro
  have r2 := reachedProceed r1 .one quiet 0 rfl (performsSends rfl (by decide) rfl) fun _ _ _ => silentGenuine rfl
  have r3 := reachedProceed r2 .one { quiet with nowMs := 100 } 0 rfl (performsNothing rfl) fun _ _ _ =>
    silentGenuine rfl
  have r4 := reachedProceed r3 .one quiet 0 rfl (performsSends rfl (by decide) rfl) fun _ _ _ => silentGenuine rfl
  have r5 := reachedStart r4 .two (.receive 248) fun _ _ _ => True.intro
  have r6 := reachedProceed r5 .two (hears 1 0 (dataFrame [7])) 0 rfl (performsData rfl (by decide) rfl rfl)
    fun _ shown _ => hearsGenuine shown rfl rfl rfl (List.mem_cons_of_mem _ List.mem_cons_self)
  have r7 := reachedProceed r6 .two quiet 0 rfl (performsNothing rfl) fun _ _ _ => silentGenuine rfl
  have r8 := reachedProceed r7 .two quiet 0 rfl performsFinish fun _ _ _ => silentGenuine rfl
  have r9 := reachedStart r8 .two (.receive 248) fun _ _ _ => True.intro
  have r10 := reachedProceed r9 .two quiet 0 rfl (performsNothing rfl) fun _ _ _ => silentGenuine rfl
  have r11 := reachedProceed r10 .two (hears 1 0 (dataFrame [7])) 0 rfl (performsData rfl (by decide) rfl rfl)
    fun _ shown _ => hearsGenuine shown rfl rfl rfl List.mem_cons_self
  have r12 := reachedProceed r11 .two quiet 0 rfl performsFinish fun _ _ _ => silentGenuine rfl
  exact ⟨_, r12, rfl, rfl, rfl⟩

/- One send, and two receive calls return its payload. -/
theorem handedTwice : Fresh twoLinks ∧ Always step Genuine twoLinks copiesApart ∧
    ((run step twoLinks copiesApart).get .one).requests = [.send [7]] ∧
    ((run step twoLinks copiesApart).get .two).results = [.receive .ok (some [7]), .receive .ok (some [7])] ∧
    ((run step twoLinks copiesApart).get .two).handed = [(0, [7]), (0, [7])] := by
  obtain ⟨v, reached, requests, results, handed⟩ := copiesApartReached
  exact ⟨freshEndsFresh _ _, reached.admitted, (reached.shown .one).requests.trans requests,
    (reached.shown .two).results.trans results, (reached.shown .two).handed.trans handed⟩

end PlatformRte.Dual.Channel
