import PlatformRte.Dual.AckWait
import PlatformRte.Dual.Drain
import Mathlib.Data.List.GetD

/-! A call of the dual channel, run on the answers its accesses are given: a send over one
link that hears its acknowledgement, and a receive. -/
namespace PlatformRte.Dual.Channel
open Bytes Checksum Loop Listening

structure Ended where
  channel : DualChannel
  manager : ChecksumManager
  returned : Returned

def finishes (channel : DualChannel) (call : Call) : Bool :=
  match nextAction channel call with
  | .finish => true
  | _ => false

def finishOn (channel : DualChannel) (m : ChecksumManager) (call : Call) : Option Ended :=
  match finishCall channel call with
  | (channel, .inr returned) => some ⟨channel, m, returned⟩
  | (_, .inl _) => none

/- none: the answers are used up and the call has not returned. -/
def runOn (channel : DualChannel) (m : ChecksumManager) (call : Call) : List Answer → Option Ended
  | [] => if finishes channel call then finishOn channel m call else none
  | answer :: rest =>
      if finishes channel call then finishOn channel m call
      else
        let progress := advance channel m call answer
        match progress.next with
        | .inl call => runOn progress.channel progress.manager call rest
        | .inr returned => some ⟨progress.channel, progress.manager, returned⟩

def runCall (channel : DualChannel) (m : ChecksumManager) (request : Request) (answers : List Answer) : Option Ended :=
  match startCall channel request with
  | .inl call => runOn channel m call answers
  | .inr returned => some ⟨channel, m, returned⟩

def held (frame : VitalMessage) : Bytes := field frame.bytes vitalPayloadOffset frame.payloadSize.toNat

structure InOrder (link : DualMsgchannel) (m : ChecksumManager) (frame : VitalMessage) : Prop where
  genuine : ¬Injected link m frame
  next : frame.sequenceNumber = link.expectedSequence
  room : frame.payloadSize.toNat ≤ vitalPayloadMax

def Delivered (link : DualMsgchannel) (m : ChecksumManager) : Arrival → Prop
  | .error status => status.val = .timeout
  | .ok frame => InOrder link m frame

def Fits (size : Nat) (answer : Answer) : Prop :=
  ∀ frame payload, answer.arrival = .ok frame → dataPayload (held frame) = some payload → payload.length ≤ size

theorem deliveredReceive {link : DualMsgchannel} {m : ChecksumManager} {frame : VitalMessage}
    (inOrder : InOrder link m frame) :
    (dualMsgchannelReceive link m (UInt8.ofNat vitalPayloadMax) (.ok frame)).delivered =
      some (held frame, frame.sequenceNumber) := by
  obtain ⟨peer, intact⟩ := not_or.mp inOrder.genuine
  have verified : (checksumVitalMessageVerify m frame link.expectedSequence (UInt8.ofNat vitalPayloadMax).toNat).2 =
      .ok (held frame) := verifyAccepts (not_not.mp intact) inOrder.next inOrder.room
  exact (receiveAccepts (by decide) (not_not.mp peer) verified).2.1

section Poll
variable {channel : DualChannel} {m : ChecksumManager} {i : Nat} {answer : Answer}

theorem deliveredPoll (delivered : Delivered (channel.links i) m answer.arrival) :
    (pollLinkOnce channel m i answer).status ≠ .hardwareFault := by
  unfold pollLinkOnce
  cases arrived : answer.arrival with
  | error status =>
    rw [arrived] at delivered
    have quiet : status.val = .timeout := delivered
    simp [dualMsgchannelReceive, vitalPayloadMax, quiet]
  | ok frame =>
    rw [arrived] at delivered
    have short : (held frame).length ≤ vitalPayloadMax := by
      rw [held, field, List.length_take]
      exact Nat.le_trans (Nat.min_le_left _ _) delivered.room
    simp only [deliveredReceive delivered]
    exact (dispatchFrameDone _ _ i _ answer short).status.1

theorem deliveredAck {frame : VitalMessage} {number : UInt32} (arrived : answer.arrival = .ok frame)
    (inOrder : InOrder (channel.links i) m frame) (ack : ackNumber (held frame) = some number) :
    (pollLinkOnce channel m i answer).status = .ok ∧
      (pollLinkOnce channel m i answer).matched = some (.ack number) := by
  have access := pollAccess channel m answer i
  have accepted : (perform channel m answer (.poll i)).accepted = some (frame.sequenceNumber, held frame) := by
    simp only [perform, pollLinkOnce, arrived, deliveredReceive inOrder]
  have matched := (access.acked number).mpr ⟨_, _, accepted, ack⟩
  exact ⟨access.fine (by rw [matched]; rfl), matched⟩

end Poll

structure Serves (ackTimeoutMs : UInt32) (size : Nat) (channel : DualChannel) (m : ChecksumManager) : Prop where
  single : channel.linkCount = 1
  timeout : channel.ackTimeoutMs = ackTimeoutMs
  fits : ∀ payload, channel.pendingData = some payload → payload.length ≤ size
  ready : m.initialized = true

section Serving
variable {ackTimeoutMs : UInt32} {size : Nat} {channel : DualChannel} {m : ChecksumManager} {answer : Answer}

theorem performServes (action : Action) (fits : (∃ i, action = .poll i) → Fits size answer)
    (serves : Serves ackTimeoutMs size channel m) :
    Serves ackTimeoutMs size (perform channel m answer action).channel (perform channel m answer action).manager := by
  have access := performAccess channel m answer action
  refine ⟨access.posts.count.trans serves.single, access.posts.timeout.trans serves.timeout, fun payload pending => ?_,
    ?_⟩
  · rw [access.slot, access.staged] at pending
    cases accepted : (perform channel m answer action).accepted with
    | none =>
      rw [accepted] at pending
      exact serves.fits payload pending
    | some heard =>
      obtain ⟨number, raw⟩ := heard
      obtain ⟨polled, frame, heard⟩ := access.heard number raw accepted
      rw [accepted, Option.bind_some] at pending
      cases data : dataPayload raw with
      | none =>
        rw [data] at pending
        exact serves.fits payload pending
      | some staged =>
        rw [data] at pending
        cases pending
        exact fits ⟨_, polled⟩ frame payload heard.arrived (by rw [held, ← heard.raw]; exact data)
  · cases action with
    | transmit i raw => exact (sendAlike channel m i raw answer).table.ready.trans serves.ready
    | poll i =>
      have kept := receiveKeepsTable (channel.links i) m (UInt8.ofNat vitalPayloadMax) answer.arrival
      exact ((kept.trans (pollReads channel m i answer).table).ready).trans serves.ready
    | finish => exact serves.ready

theorem settleServes (call : Call) {done : Performed} (nowMs : UInt64) (serves : Serves ackTimeoutMs size channel m) :
    Serves ackTimeoutMs size (settle channel done nowMs call).1 m := by
  have up (payload frame link ackCount hardFault up) :
      Serves ackTimeoutMs size (linkDone channel payload frame link ackCount hardFault up).1 m :=
    ⟨serves.single, serves.timeout, serves.fits, serves.ready⟩
  cases call with
  | exchange payload frame link ackCount hardFault wait =>
    cases wait with
    | none =>
      simp only [settle]
      split
      · exact serves
      · exact up ..
    | some w =>
      simp only [settle]
      split
      · exact up ..
      · exact up ..
      · split
        · exact serves
        · exact up ..
  | receive => exact serves
  | beacon => exact serves
  | receiveState => exact serves

theorem finishServes (call : Call) (serves : Serves ackTimeoutMs size channel m) :
    Serves ackTimeoutMs size (finishCall channel call).1 m := by
  cases call with
  | exchange =>
    simp only [finishCall, updateStatus]
    split
    · exact ⟨serves.single, serves.timeout, serves.fits, serves.ready⟩
    · exact serves
  | receive =>
    simp only [finishCall]
    split
    · exact serves
    · split
      · exact serves
      · exact ⟨serves.single, serves.timeout, by simp, serves.ready⟩
  | beacon => exact serves
  | receiveState =>
    simp only [finishCall]
    split
    · exact serves
    · exact ⟨serves.single, serves.timeout, serves.fits, serves.ready⟩

theorem advanceServes (call : Call) (fits : Fits size answer) (serves : Serves ackTimeoutMs size channel m) :
    Serves ackTimeoutMs size (advance channel m call answer).channel (advance channel m call answer).manager := by
  have performed := performServes (nextAction channel call) (fun _ => fits) serves
  simp only [advance, conclude]
  split
  · exact finishServes call performed
  · exact settleServes call answer.nowMs performed

theorem finishOnServes {call : Call} {ended : Ended} (serves : Serves ackTimeoutMs size channel m)
    (finished : finishOn channel m call = some ended) : Serves ackTimeoutMs size ended.channel ended.manager := by
  have kept := finishServes call serves
  unfold finishOn at finished
  split at finished
  · rename_i same
    cases finished
    rw [same] at kept
    exact kept
  · cases finished

theorem runOnServes {call : Call} {answers : List Answer} {ended : Ended} (fits : ∀ answer ∈ answers, Fits size answer)
    (serves : Serves ackTimeoutMs size channel m) (ran : runOn channel m call answers = some ended) :
    Serves ackTimeoutMs size ended.channel ended.manager := by
  induction answers generalizing channel m call with
  | nil =>
    simp only [runOn] at ran
    split at ran
    · exact finishOnServes serves ran
    · cases ran
  | cons answer rest ih =>
    have advanced := advanceServes call (fits answer List.mem_cons_self) serves
    simp only [runOn] at ran
    split at ran
    · exact finishOnServes serves ran
    · split at ran
      · exact ih (fun answer later => fits answer (List.mem_cons_of_mem _ later)) advanced ran
      · cases ran
        exact advanced

theorem runCallServes {request : Request} {answers : List Answer} {ended : Ended}
    (fits : ∀ answer ∈ answers, Fits size answer) (serves : Serves ackTimeoutMs size channel m)
    (ran : runCall channel m request answers = some ended) :
    Serves ackTimeoutMs size ended.channel ended.manager := by
  unfold runCall at ran
  split at ran
  · exact runOnServes fits serves ran
  · cases ran
    exact serves

end Serving

def stream (answers : List Answer) (k : Nat) : Answer := answers.getD k silence

theorem streamInside {answers : List Answer} {k : Nat} (inside : k < answers.length) :
    stream answers k = answers[k] := List.getD_eq_getElem _ _ inside

def polling (channel : DualChannel) (m : ChecksumManager) (answers : Nat → Answer) : Nat → DualChannel × ChecksumManager
  | 0 => (channel, m)
  | n + 1 =>
      let before := polling channel m answers n
      let done := pollLinkOnce before.1 before.2 0 (answers n)
      (done.channel, done.manager)

def pollOf (channel : DualChannel) (m : ChecksumManager) (answers : Nat → Answer) (n : Nat) : Poll :=
  let before := polling channel m answers n
  let done := pollLinkOnce before.1 before.2 0 (answers n)
  ⟨done.status, done.matched, (answers n).nowMs⟩

/- Poll n brings the acknowledgement, and until then the link delivers and the wait is not over: the
budget is not used up, and no 32 readings of the clock in a row show no time since the start. -/
structure AckInTime (channel : DualChannel) (m : ChecksumManager) (sequence : UInt32) (startMs : UInt64)
    (answers : Nat → Answer) (n : Nat) : Prop where
  delivers : ∀ k ≤ n, Delivered ((polling channel m answers k).1.links 0) (polling channel m answers k).2
    (answers k).arrival
  acks : ∃ frame, (answers n).arrival = .ok frame ∧ ackNumber (held frame) = some sequence
  early : ∀ k < n, (answers k).nowMs.toNat < startMs.toNat + channel.ackTimeoutMs.toNat
  moves : ∀ k < n, ¬NoTimePassed startMs (pollOf channel m answers) k

section Send
variable {channel : DualChannel} {m : ChecksumManager} {payload : Option Bytes} {frame : Bytes}

theorem ackDecides {sequence : UInt32} {startMs : UInt64} {answers : Nat → Answer} {n : Nat}
    (ack : AckInTime channel m sequence startMs answers n) :
    (pollOf channel m answers n).status = .ok ∧ (pollOf channel m answers n).matched = some (.ack sequence) := by
  obtain ⟨frame, arrived, names⟩ := ack.acks
  have delivered := ack.delivers n (Nat.le_refl n)
  rw [arrived] at delivered
  exact deliveredAck arrived delivered names

theorem firstAck {sequence : UInt32} {startMs : UInt64} {answers : Nat → Answer} {n : Nat}
    (ack : AckInTime channel m sequence startMs answers n) :
    ∃ k ≤ n, ((pollOf channel m answers k).status = .ok ∧
        (pollOf channel m answers k).matched = some (.ack sequence)) ∧
      ∀ j < k, ¬Decides sequence (pollOf channel m answers) j := by
  classical
  have some_ : ∃ k, Decides sequence (pollOf channel m answers) k := ⟨n, Or.inl (ackDecides ack)⟩
  have upTo : Nat.find some_ ≤ n := Nat.find_min' some_ (Or.inl (ackDecides ack))
  refine ⟨Nat.find some_, upTo, ?_, fun j before => Nat.find_min some_ before⟩
  rcases Nat.find_spec some_ with acked | broken
  · exact acked
  · exact absurd broken (deliveredPoll (ack.delivers _ upTo))

theorem beginStays {first : Answer} {s : LinkWait} (single : channel.linkCount = 1)
    (begun : beginLink payload frame 0 0 false channel m first = some s) :
    s.channel = (sendOnLink channel m 0 frame first).channel ∧
      s.manager = (sendOnLink channel m 0 frame first).manager ∧
      ∀ rest, runOn channel m (.exchange payload frame 0 0 false none) (first :: rest) =
        runOn s.channel s.manager (.exchange payload frame 0 0 false (some s.wait)) rest := by
  have inside : 0 < channel.linkCount := by rw [single]; exact Nat.one_pos
  have going : finishes channel (.exchange payload frame 0 0 false none) = false := by
    simp [finishes, nextAction, inside]
  simp only [runOn, going, Bool.false_eq_true, if_false]
  simp only [beginLink, Progress.stays, advance, nextAction, inside, if_true, perform, conclude, settle] at begun ⊢
  by_cases waits : (sendOnLink channel m 0 frame first).status = .ok ∧
      (⟨(sendOnLink channel m 0 frame first).sequence, first.nowMs,
        (sendOnLink channel m 0 frame first).channel.ackTimeoutMs, 0⟩ : AckWait).goesOn = true
  · simp only [if_pos waits] at begun ⊢
    cases begun
    exact ⟨rfl, rfl, fun rest => by rw [waits.1]; rfl⟩
  · simp only [if_neg waits, linkDone] at begun
    cases begun

theorem pollStays {s s' : LinkWait} {answer : Answer} (single : s.channel.linkCount = 1)
    (stays : linkRound payload frame 0 0 false s answer = some s') :
    s'.channel = (pollLinkOnce s.channel s.manager 0 answer).channel ∧
      s'.manager = (pollLinkOnce s.channel s.manager 0 answer).manager ∧
      ∀ rest, runOn s.channel s.manager (.exchange payload frame 0 0 false (some s.wait)) (answer :: rest) =
        runOn s'.channel s'.manager (.exchange payload frame 0 0 false (some s'.wait)) rest := by
  have inside : 0 < s.channel.linkCount := by rw [single]; exact Nat.one_pos
  have going : finishes s.channel (.exchange payload frame 0 0 false (some s.wait)) = false := by
    simp [finishes, nextAction, inside]
  simp only [runOn, going, Bool.false_eq_true, if_false]
  simp only [linkRound, Progress.stays, advance, nextAction, inside, if_true, perform, conclude, settle] at stays ⊢
  cases judged : judgePoll s.wait (pollLinkOnce s.channel s.manager 0 answer).channel.ackTimeoutMs
      (pollLinkOnce s.channel s.manager 0 answer).status (pollLinkOnce s.channel s.manager 0 answer).matched
      answer.nowMs with
  | acked =>
    simp only [judged, linkDone] at stays
    cases stays
  | broken =>
    simp only [judged, linkDone] at stays
    cases stays
  | again next =>
    by_cases goes : next.goesOn = true
    · simp only [judged, if_pos goes] at stays ⊢
      cases stays
      exact ⟨rfl, rfl, fun _ => rfl⟩
    · simp only [judged, if_neg goes, linkDone] at stays
      cases stays

section Wait
variable {first : Answer} {answers : Nat → Answer} {rest : List Answer}

theorem waitStates (single : channel.linkCount = 1) (n : Nat) (s : LinkWait)
    (entered : entering (linkRound payload frame 0 0 false) (beginLink payload frame 0 0 false channel m first)
      answers n = some s) :
    s.channel.linkCount = 1 ∧ (s.channel, s.manager) =
      polling (sendOnLink channel m 0 frame first).channel (sendOnLink channel m 0 frame first).manager answers n := by
  refine enteringKeeps (P := fun n s => s.channel.linkCount = 1 ∧ (s.channel, s.manager) = polling
    (sendOnLink channel m 0 frame first).channel (sendOnLink channel m 0 frame first).manager answers n) ?_ ?_ n s
    entered
  · intro s begun
    obtain ⟨channel_, manager, _⟩ := beginStays single begun
    rw [channel_, manager]
    exact ⟨(sendOnLinkPosts channel m 0 frame first).1.count.trans single, rfl⟩
  · rintro n s s' ⟨single_, before⟩ stays
    obtain ⟨channel_, manager, _⟩ := pollStays single_ stays
    rw [channel_, manager, polling, ← before]
    exact ⟨(pollAccess s.channel s.manager (answers n) 0).posts.count.trans single_, rfl⟩

theorem waitRuns (single : channel.linkCount = 1) (n : Nat) (s : LinkWait)
    (entered : entering (linkRound payload frame 0 0 false) (beginLink payload frame 0 0 false channel m first)
      (stream rest) n = some s) (within : n ≤ rest.length) :
    runOn channel m (.exchange payload frame 0 0 false none) (first :: rest) =
      runOn s.channel s.manager (.exchange payload frame 0 0 false (some s.wait)) (rest.drop n) := by
  induction n generalizing s with
  | zero => exact (beginStays single entered).2.2 rest
  | succ n ih =>
    obtain ⟨before, earlier, stays⟩ := Option.bind_eq_some_iff.mp entered
    have single_ := (waitStates single n before earlier).1
    rw [ih before earlier (Nat.le_of_succ_le within), List.drop_eq_getElem_cons within]
    rw [streamInside within] at stays
    exact (pollStays single_ stays).2.2 _

variable (payload) in
theorem waitReaches (budget : 0 < channel.ackTimeoutMs) (single : channel.linkCount = 1)
    (sent : (sendOnLink channel m 0 frame first).status = .ok) {k : Nat}
    (on : ∀ j < k, ¬Leaves channel.ackTimeoutMs first.nowMs (channel.links 0).nextSequence
      (pollOf (sendOnLink channel m 0 frame first).channel (sendOnLink channel m 0 frame first).manager answers) j) :
    ∃ s, entering (linkRound payload frame 0 0 false) (beginLink payload frame 0 0 false channel m first) answers k =
      some s ∧ s.wait.sentSequence = (channel.links 0).nextSequence := by
  have inside : 0 < channel.linkCount := by rw [single]; exact Nat.one_pos
  have waits := linkWaits payload frame 0 0 false (m := m) inside first answers
    (pollOf (sendOnLink channel m 0 frame first).channel (sendOnLink channel m 0 frame first).manager answers)
    (fun n s entered => by rw [pollOf, ← (waitStates single n s entered).2]; rfl) k
  rw [if_pos sent] at waits
  obtain ⟨w, reached⟩ := Option.isSome_iff_exists.mp ((waitingIff k).mpr ⟨budget, on⟩)
  rw [reached] at waits
  obtain ⟨s, entered, rfl⟩ := Option.map_eq_some_iff.mp waits
  exact ⟨s, entered, (waitingWaited reached).sequence⟩

end Wait

theorem ackEnds {s : LinkWait} {answer : Answer} {rest : List Answer} (single : s.channel.linkCount = 1)
    (acked : (pollLinkOnce s.channel s.manager 0 answer).status = .ok ∧
      (pollLinkOnce s.channel s.manager 0 answer).matched = some (.ack s.wait.sentSequence)) :
    ∃ ended callback,
      runOn s.channel s.manager (.exchange payload frame 0 0 false (some s.wait)) (answer :: rest) = some ended ∧
        ended.returned = .exchange payload .ok (some 1) callback := by
  have inside : 0 < s.channel.linkCount := by rw [single]; exact Nat.one_pos
  have going : finishes s.channel (.exchange payload frame 0 0 false (some s.wait)) = false := by
    simp [finishes, nextAction, inside]
  have count := (pollAccess s.channel s.manager answer 0).posts.count.trans single
  have last : ∀ up, finishes { (pollLinkOnce s.channel s.manager 0 answer).channel with linkUp := up }
      (.exchange payload frame 1 1 false none) = true := by
    intro up
    have : (pollLinkOnce s.channel s.manager 0 answer).channel.linkCount = 1 := count
    simp [finishes, nextAction, this]
  have run : runOn s.channel s.manager (.exchange payload frame 0 0 false (some s.wait)) (answer :: rest) =
      finishOn { (pollLinkOnce s.channel s.manager 0 answer).channel with
          linkUp := Function.update (pollLinkOnce s.channel s.manager 0 answer).channel.linkUp 0 true }
        (pollLinkOnce s.channel s.manager 0 answer).manager (.exchange payload frame 1 1 false none) := by
    simp only [runOn, going, Bool.false_eq_true, if_false]
    simp only [advance, nextAction, inside, if_true, perform, conclude, settle, judgePoll, acked, linkDone, and_self]
    cases rest <;> simp only [runOn, last, if_true, Nat.zero_add]
  rw [run, finishOn]
  simp only [finishCall]
  exact ⟨_, _, rfl, rfl⟩

end Send

theorem sendAcknowledged {channel : DualChannel} {m : ChecksumManager} {payload : Bytes} {first : Answer}
    {rest : List Answer} {n : Nat} (single : channel.linkCount = 1) (budget : 0 < channel.ackTimeoutMs)
    (small : payload.length ≤ dualChannelMaxPayload)
    (sent : (sendOnLink channel m 0 (dataFrame payload) first).status = .ok) (within : n < rest.length)
    (ack : AckInTime (sendOnLink channel m 0 (dataFrame payload) first).channel
      (sendOnLink channel m 0 (dataFrame payload) first).manager (channel.links 0).nextSequence first.nowMs
      (stream rest) n) :
    ∃ ended callback, runCall channel m (.send payload) (first :: rest) = some ended ∧
      ended.returned = .exchange (some payload) .ok (some 1) callback := by
  obtain ⟨k, upTo, acked, undecided⟩ := firstAck ack
  have timeout := (sendOnLinkPosts channel m 0 (dataFrame payload) first).1.timeout
  have on : ∀ j < k, ¬Leaves channel.ackTimeoutMs first.nowMs (channel.links 0).nextSequence
      (pollOf (sendOnLink channel m 0 (dataFrame payload) first).channel
        (sendOnLink channel m 0 (dataFrame payload) first).manager (stream rest)) j := by
    rintro j before (decided | up | still)
    · exact undecided j before decided
    · have early := ack.early j (Nat.lt_of_lt_of_le before upTo)
      rw [timeout] at early
      exact Nat.not_le.mpr early up
    · exact ack.moves j (Nat.lt_of_lt_of_le before upTo) still
  obtain ⟨s, entered, number⟩ := waitReaches (some payload) budget single sent on
  obtain ⟨single_, state⟩ := waitStates single k s entered
  have inside : k < rest.length := Nat.lt_of_le_of_lt upTo within
  rw [pollOf, ← state, ← number] at acked
  rw [runCall, startCall, if_neg (Nat.not_lt.mpr small)]
  dsimp only
  rw [waitRuns single k s entered (Nat.le_of_lt inside), List.drop_eq_getElem_cons inside]
  rw [streamInside inside] at acked
  exact ackEnds single_ acked

theorem sendRefused {channel : DualChannel} {m : ChecksumManager} {payload : Bytes} {answers : List Answer}
    (large : dualChannelMaxPayload < payload.length) : runCall channel m (.send payload) answers =
      some ⟨channel, m, .exchange (some payload) .invalidParam none none⟩ := by
  rw [runCall, startCall, if_pos large]

theorem transmits (channel : DualChannel) {m : ChecksumManager} {raw : Bytes} {answer : Answer} (i : Nat)
    (ready : m.initialized = true) (short : raw.length ≤ vitalPayloadMax) (up : answer.linkStatus = .ok) :
    (sendOnLink channel m i raw answer).status = .ok := by
  simp only [sendOnLink, dualMsgchannelSend, createsMessage ready _ _ short, up, if_true]

section Receive
variable {channel : DualChannel} {m : ChecksumManager} {ackTimeoutMs : UInt32} {maxSize : UInt8} {answer : Answer}

theorem receiveEnds (fault : Bool) (serves : Serves ackTimeoutMs maxSize.toNat channel m) :
    ∃ ended status payload, finishOn channel m (.receive maxSize 1 fault) = some ended ∧
      ended.returned = .receive status payload ∧ (status = .ok ∨ status = if fault then .hardwareFault else .timeout) := by
  simp only [finishOn, finishCall]
  cases pending : channel.pendingData with
  | none => exact ⟨_, _, none, rfl, rfl, Or.inr rfl⟩
  | some payload =>
    simp only [if_neg (Nat.not_lt.mpr (serves.fits payload pending))]
    exact ⟨_, .ok, some payload, rfl, rfl, Or.inl rfl⟩

theorem receivePolls (m : ChecksumManager) (answer : Answer) (some_ : maxSize ≠ 0)
    (single : channel.linkCount = 1) :
    ((∃ payload, channel.pendingData = some payload) ∧ runCall channel m (.receive maxSize) [answer] =
        finishOn channel m (.receive maxSize 1 false)) ∨
      (channel.pendingData = none ∧ runCall channel m (.receive maxSize) [answer] =
        finishOn (pollLinkOnce channel m 0 answer).channel (pollLinkOnce channel m 0 answer).manager
          (.receive maxSize 1 ((pollLinkOnce channel m 0 answer).status == .hardwareFault))) := by
  have last : ∀ (channel : DualChannel) (fault : Bool), channel.linkCount = 1 →
      finishes channel (.receive maxSize 1 fault) = true := by
    intro channel fault single
    simp [finishes, nextAction, single]
  rw [runCall, startCall, if_neg some_]
  cases pending : channel.pendingData with
  | some payload =>
    refine Or.inl ⟨⟨payload, rfl⟩, ?_⟩
    simp only [Option.isSome_some, if_true, single, runOn, last channel false single]
  | none =>
    have going : finishes channel (.receive maxSize 0 false) = false := by
      simp [finishes, nextAction, single]
    have after : (pollLinkOnce channel m 0 answer).channel.linkCount = 1 :=
      (pollAccess channel m answer 0).posts.count.trans single
    refine Or.inr ⟨rfl, ?_⟩
    simp only [Option.isSome_none, Bool.false_eq_true, if_false, runOn, going]
    simp only [advance, nextAction, single, Nat.one_pos, if_true, perform, conclude, settle, Bool.false_or,
      Nat.zero_add, last _ _ after]

theorem receiveRuns (some_ : maxSize ≠ 0) (serves : Serves ackTimeoutMs maxSize.toNat channel m)
    (fits : Fits maxSize.toNat answer) :
    ∃ channel' m' fault, runCall channel m (.receive maxSize) [answer] =
        finishOn channel' m' (.receive maxSize 1 fault) ∧ Serves ackTimeoutMs maxSize.toNat channel' m' ∧
      (fault = true → channel.pendingData = none ∧ (pollLinkOnce channel m 0 answer).status = .hardwareFault) := by
  rcases receivePolls m answer some_ serves.single with ⟨_, runs⟩ | ⟨pending, runs⟩
  · exact ⟨channel, m, false, runs, serves, by simp⟩
  · have polled : Serves ackTimeoutMs maxSize.toNat (pollLinkOnce channel m 0 answer).channel
        (pollLinkOnce channel m 0 answer).manager := performServes (.poll 0) (fun _ => fits) serves
    exact ⟨_, _, _, runs, polled, fun fault => ⟨pending, beq_iff_eq.mp fault⟩⟩

def presented (channel : DualChannel) (m : ChecksumManager) (answer : Answer) : Option Bytes :=
  channel.pendingData.or (pollLinkOnce channel m 0 answer).staged

theorem receiveTakes {payload : Bytes} (some_ : maxSize ≠ 0) (single : channel.linkCount = 1)
    (waits : presented channel m answer = some payload) :
    ∃ ended, runCall channel m (.receive maxSize) [answer] = some ended ∧ ended.returned =
      if maxSize.toNat < payload.length then .receive .invalidParam none else .receive .ok (some payload) := by
  have taken : ∀ (channel : DualChannel) (m : ChecksumManager) fault, channel.pendingData = some payload →
      ∃ ended, finishOn channel m (.receive maxSize 1 fault) = some ended ∧ ended.returned =
        if maxSize.toNat < payload.length then .receive .invalidParam none else .receive .ok (some payload) := by
    intro channel m fault pending
    simp only [finishOn, finishCall, pending]
    by_cases long : maxSize.toNat < payload.length
    · simp only [if_pos long]
      exact ⟨_, rfl, rfl⟩
    · simp only [if_neg long]
      exact ⟨_, rfl, rfl⟩
  unfold presented at waits
  rcases receivePolls m answer some_ single with ⟨⟨staged, pending⟩, runs⟩ | ⟨pending, runs⟩
  · rw [pending, Option.some_or] at waits
    rw [runs]
    exact taken channel m false (pending.trans waits)
  · have slot := (pollAccess channel m answer 0).slot
    rw [pending, Option.or_none] at slot
    rw [pending, Option.none_or] at waits
    rw [runs]
    exact taken _ _ _ (slot.trans waits)

theorem receiveFinishes (some_ : maxSize ≠ 0) (serves : Serves ackTimeoutMs maxSize.toNat channel m)
    (fits : Fits maxSize.toNat answer) :
    ∃ ended status payload, runCall channel m (.receive maxSize) [answer] = some ended ∧
      ended.returned = .receive status payload := by
  obtain ⟨channel', m', fault, runs, after, _⟩ := receiveRuns some_ serves fits
  obtain ⟨ended, status, payload, finished, returned, _⟩ := receiveEnds fault after
  exact ⟨ended, status, payload, runs.trans finished, returned⟩

theorem receiveDelivered (some_ : maxSize ≠ 0) (serves : Serves ackTimeoutMs maxSize.toNat channel m)
    (fits : Fits maxSize.toNat answer)
    (delivered : channel.pendingData = none → Delivered (channel.links 0) m answer.arrival) :
    ∃ ended status payload, runCall channel m (.receive maxSize) [answer] = some ended ∧
      ended.returned = .receive status payload ∧ (status = .ok ∨ status = .timeout) := by
  obtain ⟨channel', m', fault, runs, after, broken⟩ := receiveRuns some_ serves fits
  obtain ⟨ended, status, payload, finished, returned, either⟩ := receiveEnds fault after
  have sound : fault = false := by
    rw [← Bool.not_eq_true]
    intro faulty
    obtain ⟨pending, hard⟩ := broken faulty
    exact deliveredPoll (delivered pending) hard
  rw [sound] at either
  exact ⟨ended, status, payload, runs.trans finished, returned, either⟩

end Receive

structure Provides (ackTimeoutMs : UInt32) (size : Nat) (s : Links) : Prop where
  serves : Serves ackTimeoutMs size s.channel s.manager
  fits : ∀ i, ∀ answer ∈ s.reads i, Fits size answer

section Round
variable {ackTimeoutMs : UInt32} {size : Nat} {s : Links}

theorem pollProvides (i : Nat) (provides : Provides ackTimeoutMs size s) :
    Provides ackTimeoutMs size (s.pollLink i) := by
  refine ⟨performServes (.poll i) (fun _ => ?_) provides.serves, fun j answer waiting => ?_⟩
  · cases waiting : s.reads i with
    | nil => simp [Fits, silence]
    | cons answer rest => exact provides.fits i answer (by rw [waiting]; exact List.mem_cons_self)
  · refine provides.fits j answer ?_
    simp only [Links.pollLink] at waiting
    rcases eq_or_ne j i with rfl | elsewhere
    · rw [Function.update_self] at waiting
      exact List.mem_of_mem_tail waiting
    · rwa [Function.update_of_ne elsewhere] at waiting

theorem sendProvides (answers : Nat → Answer) (raw : Bytes) (i : Nat) (provides : Provides ackTimeoutMs size s) :
    Provides ackTimeoutMs size (s.sendOn answers raw i) :=
  ⟨performServes (.transmit i raw) (by simp) provides.serves, provides.fits⟩

theorem foldProvides {f : Links → Nat → Links}
    (keeps : ∀ s i, Provides ackTimeoutMs size s → Provides ackTimeoutMs size (f s i)) (links : List Nat)
    (provides : Provides ackTimeoutMs size s) : Provides ackTimeoutMs size (links.foldl f s) := by
  induction links generalizing s with
  | nil => exact provides
  | cons i rest ih => exact ih (keeps s i provides)

theorem receiveProvides (provides : Provides ackTimeoutMs size s) :
    Provides ackTimeoutMs size s.receiveStateFrame.1 := by
  have swept : Provides ackTimeoutMs size (if s.channel.pendingState.isSome then s else s.sweep) := by
    split
    · exact provides
    · exact foldProvides (fun _ i => pollProvides i) _ provides
  unfold Links.receiveStateFrame
  dsimp only
  split
  · exact swept
  · exact ⟨⟨swept.serves.single, swept.serves.timeout, swept.serves.fits, swept.serves.ready⟩, swept.fits⟩

theorem drainProvides {fuel : Nat} {r r' : Round} (provides : Provides ackTimeoutMs size r.links)
    (drained : drain fuel r = some r') : Provides ackTimeoutMs size r'.links := by
  induction fuel generalizing r with
  | zero => cases drained
  | succ fuel ih =>
    have received := receiveProvides provides
    simp only [drain] at drained
    split at drained
    · rename_i quiet
      cases drained
      rw [quiet] at received
      exact received
    · rename_i heard
      rw [heard] at received
      exact ih received drained

theorem executeProvides {n : DualNegotiator} {clock : Nat → UInt64} {answers : Nat → Answer}
    {after : DualNegotiator × Links} (provides : Provides ackTimeoutMs size s)
    (executed : execute n s clock answers = some after) : Provides ackTimeoutMs size after.2 := by
  obtain ⟨r, drained, rfl⟩ := Option.map_eq_some_iff.mp executed
  refine drainProvides ?_ drained
  have sent := foldProvides (fun _ i => sendProvides answers
    (stateFrame (negotiatorAnnounce n s.channel.lastStatus).2) i) (List.range s.channel.linkCount) provides
  have received := receiveProvides sent
  unfold Round.take
  split <;> exact received

end Round

end PlatformRte.Dual.Channel
