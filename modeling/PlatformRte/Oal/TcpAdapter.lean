import PlatformRte.Lib.Bytes
import PlatformRte.Lib.Machine
import PlatformRte.Status

/-! The TCP protocol adapter: messages over a stream socket. A send is one call of the
socket's send and a receive one call of its recv; how many bytes the socket took or gave
is not looked at. What the socket answers comes from outside. -/
namespace PlatformRte.Oal
open Bytes Machine

structure OsSocketOps where
  send : Bool
  recv : Bool
  poll : Bool
  deriving DecidableEq, Repr

/- sock: none for the invalid handle. osSockets: none for NULL. -/
structure ProtocolTcpState where
  sock : Option Nat
  osSockets : Option OsSocketOps
  deriving DecidableEq, Repr

def osSocketEventRead : UInt32 := 1
def osSocketEventWrite : UInt32 := 2

structure PollAnswer where
  status : RteStatus
  revents : UInt32
  deriving DecidableEq, Repr

structure SocketAnswer where
  status : RteStatus
  count : Nat
  deriving DecidableEq, Repr

/- The checks in front of the socket call, the same for both directions but for the slot
and the event; none for a buffer that is NULL. -/
def tcpAdapterReady (state : Option ProtocolTcpState) (buffer : Option Bytes) (slot : OsSocketOps → Bool)
    (event : UInt32) (poll : PollAnswer) : Except RteStatus Bytes :=
  match state, buffer with
  | some state, some raw =>
      if raw.length = 0 then .error .invalidParam
      else if state.sock.isNone then .error .invalidState
      else
        match state.osSockets with
        | none => .error .notInitialized
        | some ops =>
            if !slot ops then .error .notInitialized
            else if !ops.poll then .ok raw
            else if poll.status ≠ .ok then .error poll.status
            else if poll.revents &&& event = 0 then .error .timeout
            else .ok raw
  | _, _ => .error .invalidParam

def tcpAdapterSend (state : Option ProtocolTcpState) (data : Option Bytes) (poll : PollAnswer) (answer : SocketAnswer) :
    RteStatus × Bytes :=
  match tcpAdapterReady state data OsSocketOps.send osSocketEventWrite poll with
  | .error status => (status, [])
  | .ok raw => (answer.status, if answer.status = .ok then raw.take answer.count else [])

structure Received where
  status : RteStatus
  outBuf : Option Bytes
  -- what is left of the stream
  stream : Bytes
  deriving DecidableEq, Repr

def tcpAdapterReceive (state : Option ProtocolTcpState) (outBuf : Option Bytes) (poll : PollAnswer)
    (answer : SocketAnswer) (stream : Bytes) : Received :=
  match tcpAdapterReady state outBuf OsSocketOps.recv osSocketEventRead poll with
  | .error status => ⟨status, outBuf, stream⟩
  | .ok raw =>
      if answer.status = .ok then
        ⟨.ok, some (overwrite raw (stream.take answer.count)), stream.drop answer.count⟩
      else ⟨answer.status, some raw, stream⟩

theorem readyGiven {state : Option ProtocolTcpState} {buffer : Option Bytes} {slot : OsSocketOps → Bool}
    {event : UInt32} {poll : PollAnswer} {raw : Bytes}
    (ready : tcpAdapterReady state buffer slot event poll = .ok raw) : buffer = some raw ∧ 0 < raw.length := by
  unfold tcpAdapterReady at ready
  split at ready
  · rename_i given
    have same : given = raw ∧ 0 < given.length := by
      split at ready
      · cases ready
      rename_i some_
      refine ⟨?_, Nat.pos_of_ne_zero some_⟩
      split at ready
      · cases ready
      split at ready
      · cases ready
      split_ifs at ready <;> cases ready <;> rfl
    exact ⟨congrArg some same.1, same.1 ▸ same.2⟩
  · cases ready

theorem readyRefused {state : Option ProtocolTcpState} {buffer : Option Bytes} {slot : OsSocketOps → Bool}
    {event : UInt32} {poll : PollAnswer} {status : RteStatus}
    (refused : tcpAdapterReady state buffer slot event poll = .error status) : status ≠ .ok := by
  unfold tcpAdapterReady at refused
  split at refused
  · split at refused
    · cases refused
      simp
    split at refused
    · cases refused
      simp
    split at refused
    · cases refused
      simp
    split_ifs at refused with missing unpolled failed
    · cases refused
      simp
    · cases refused
      exact failed
    · cases refused
      simp
  · cases refused
    simp

theorem sendAnswers (state : Option ProtocolTcpState) (data : Bytes) (poll : PollAnswer) (answer : SocketAnswer) :
    (∃ status, status ≠ .ok ∧ tcpAdapterSend state (some data) poll answer = (status, []) ∧
        ∀ raw, tcpAdapterReady state (some data) OsSocketOps.send osSocketEventWrite poll = .ok raw →
          answer.status ≠ .ok) ∨
      (tcpAdapterReady state (some data) OsSocketOps.send osSocketEventWrite poll = .ok data ∧ answer.status = .ok ∧
        tcpAdapterSend state (some data) poll answer = (.ok, data.take answer.count)) := by
  unfold tcpAdapterSend
  cases ready : tcpAdapterReady state (some data) OsSocketOps.send osSocketEventWrite poll with
  | error status => exact Or.inl ⟨status, readyRefused ready, rfl, by simp⟩
  | ok raw =>
    obtain rfl := Option.some.inj (readyGiven ready).1
    by_cases taken : answer.status = .ok
    · exact Or.inr ⟨rfl, taken, by simp [taken]⟩
    · exact Or.inl ⟨answer.status, taken, by simp [taken], fun _ _ => taken⟩

theorem receiveAnswers (state : Option ProtocolTcpState) (outBuf : Bytes) (poll : PollAnswer) (answer : SocketAnswer)
    (stream : Bytes) :
    (∃ status, status ≠ .ok ∧
        tcpAdapterReceive state (some outBuf) poll answer stream = ⟨status, some outBuf, stream⟩ ∧
        ∀ raw, tcpAdapterReady state (some outBuf) OsSocketOps.recv osSocketEventRead poll = .ok raw →
          answer.status ≠ .ok) ∨
      (tcpAdapterReady state (some outBuf) OsSocketOps.recv osSocketEventRead poll = .ok outBuf ∧ answer.status = .ok ∧
        tcpAdapterReceive state (some outBuf) poll answer stream =
          ⟨.ok, some (overwrite outBuf (stream.take answer.count)), stream.drop answer.count⟩) := by
  unfold tcpAdapterReceive
  cases ready : tcpAdapterReady state (some outBuf) OsSocketOps.recv osSocketEventRead poll with
  | error status => exact Or.inl ⟨status, readyRefused ready, rfl, by simp⟩
  | ok raw =>
    obtain rfl := Option.some.inj (readyGiven ready).1
    by_cases given : answer.status = .ok
    · exact Or.inr ⟨rfl, given, by simp [given]⟩
    · exact Or.inl ⟨answer.status, given, by simp [given], fun _ _ => given⟩

/- Two adapters and the stream between them. sent and received: the messages for which the
calls gave OK; shortSends and shortReceives: how many of these were not whole. -/
structure Conversation where
  near : Option ProtocolTcpState
  far : Option ProtocolTcpState
  stream : Bytes
  sent : List Bytes
  received : List Bytes
  shortSends : Nat
  shortReceives : Nat
  deriving DecidableEq, Repr

inductive Transfer where
  | send (data : Bytes) (poll : PollAnswer) (answer : SocketAnswer)
  | receive (outBuf : Bytes) (poll : PollAnswer) (answer : SocketAnswer)
  deriving DecidableEq, Repr

def short (moved size count : Nat) : Nat := if moved < size then count + 1 else count

def transfer (c : Conversation) : Transfer → Conversation
  | .send data poll answer =>
      match tcpAdapterSend c.near (some data) poll answer with
      | (.ok, taken) =>
          { c with
            stream := c.stream ++ taken
            sent := c.sent ++ [data]
            shortSends := short taken.length data.length c.shortSends }
      | (_, taken) => { c with stream := c.stream ++ taken }
  | .receive outBuf poll answer =>
      match tcpAdapterReceive c.far (some outBuf) poll answer c.stream with
      | ⟨.ok, some message, stream⟩ =>
          { c with
            stream := stream
            received := c.received ++ [message]
            shortReceives := short (c.stream.length - stream.length) outBuf.length c.shortReceives }
      | ⟨_, _, stream⟩ => { c with stream := stream }

/- The socket takes and gives some bytes whenever it says OK, and no more than there are;
the buffer has the size of the message whose turn it is. -/
def Streamed (c : Conversation) : Transfer → Prop
  | .send data _ answer => answer.status = .ok → 0 < answer.count ∧ answer.count ≤ data.length
  | .receive outBuf _ answer =>
      (answer.status = .ok → 0 < answer.count ∧ answer.count ≤ outBuf.length ∧ answer.count ≤ c.stream.length) ∧
        ∀ message, c.sent[c.received.length]? = some message → outBuf.length = message.length

/- The socket call, if it is made and gives OK, is for all of the bytes. -/
def WholeTransfer (c : Conversation) : Transfer → Prop
  | .send data poll answer => ∀ raw, tcpAdapterReady c.near (some data) OsSocketOps.send osSocketEventWrite poll = .ok raw →
      answer.status = .ok → answer.count = raw.length
  | .receive outBuf poll answer => ∀ raw,
      tcpAdapterReady c.far (some outBuf) OsSocketOps.recv osSocketEventRead poll = .ok raw →
        answer.status = .ok → answer.count = raw.length

structure Bounded (c : Conversation) : Prop where
  ordered : c.received <+: c.sent
  sends : c.shortSends = 0
  receives : c.shortReceives = 0

def UnderWay (c : Conversation) : Prop :=
  c.shortSends = 0 → c.shortReceives = 0 →
    c.received <+: c.sent ∧ c.stream = (c.sent.drop c.received.length).flatten

theorem shortZero {moved size count : Nat} : short moved size count = 0 ↔ count = 0 ∧ size ≤ moved := by
  unfold short
  split <;> omega

inductive SendEffect (c : Conversation) (data : Bytes) (poll : PollAnswer) (answer : SocketAnswer) : Prop where
  | unsent (same : transfer c (.send data poll answer) = c) (whole : WholeTransfer c (.send data poll answer))
  | sent (ok : answer.status = .ok) (whole : WholeTransfer c (.send data poll answer) ↔ answer.count = data.length)
      (same : transfer c (.send data poll answer) =
        { c with
          stream := c.stream ++ data.take answer.count
          sent := c.sent ++ [data]
          shortSends := short (data.take answer.count).length data.length c.shortSends })

theorem sendEffect (c : Conversation) (data : Bytes) (poll : PollAnswer) (answer : SocketAnswer) :
    SendEffect c data poll answer := by
  rcases sendAnswers c.near data poll answer with ⟨status, failed, same, never⟩ | ⟨ready, ok, same⟩
  · refine .unsent ?_ fun raw ready ok => absurd ok (never raw ready)
    simp only [transfer, same, List.append_nil]
  · refine .sent ok ?_ (by simp only [transfer, same])
    simp [WholeTransfer, ready, ok]

inductive ReceiveEffect (c : Conversation) (outBuf : Bytes) (poll : PollAnswer) (answer : SocketAnswer) : Prop where
  | nothing (same : transfer c (.receive outBuf poll answer) = c) (whole : WholeTransfer c (.receive outBuf poll answer))
  | received (ok : answer.status = .ok)
      (whole : WholeTransfer c (.receive outBuf poll answer) ↔ answer.count = outBuf.length)
      (same : transfer c (.receive outBuf poll answer) =
        { c with
          stream := c.stream.drop answer.count
          received := c.received ++ [overwrite outBuf (c.stream.take answer.count)]
          shortReceives :=
            short (c.stream.length - (c.stream.drop answer.count).length) outBuf.length c.shortReceives })

theorem receiveEffect (c : Conversation) (outBuf : Bytes) (poll : PollAnswer) (answer : SocketAnswer) :
    ReceiveEffect c outBuf poll answer := by
  rcases receiveAnswers c.far outBuf poll answer c.stream with ⟨status, failed, same, never⟩ | ⟨ready, ok, same⟩
  · refine .nothing ?_ fun raw ready ok => absurd ok (never raw ready)
    simp only [transfer, same]
    split
    · rename_i given
      exact absurd (congrArg Received.status given) failed
    · rename_i given
      cases given
      rfl
  · refine .received ok ?_ (by simp only [transfer, same])
    simp [WholeTransfer, ready, ok]

theorem nextMessage {c : Conversation} (prefix_ : c.received <+: c.sent)
    (underWay : c.stream = (c.sent.drop c.received.length).flatten) (some_ : 0 < c.stream.length) :
    ∃ message rest, c.sent = c.received ++ message :: rest ∧ c.stream = message ++ rest.flatten := by
  obtain ⟨waiting, split⟩ := prefix_
  rw [← split, List.drop_left] at underWay
  cases waiting with
  | nil =>
    rw [underWay] at some_
    simp at some_
  | cons message rest => exact ⟨message, rest, split.symm, underWay⟩

theorem underWayStep {c : Conversation} {t : Transfer} (underWay : UnderWay c) (streamed : Streamed c t) :
    UnderWay (transfer c t) := by
  intro sends receives
  cases t with
  | send data poll answer =>
    cases sendEffect c data poll answer with
    | unsent same =>
      rw [same] at sends receives ⊢
      exact underWay sends receives
    | sent ok whole same =>
      rw [same] at sends receives ⊢
      obtain ⟨before, all⟩ := shortZero.mp sends
      obtain ⟨⟨waiting, split⟩, stream⟩ := underWay before receives
      have taken : data.take answer.count = data := by
        rw [List.length_take] at all
        exact List.take_of_length_le (by omega)
      refine ⟨⟨waiting ++ [data], by rw [← split, List.append_assoc]⟩, ?_⟩
      simp only [stream, taken, ← split, List.append_assoc, List.drop_left, List.flatten_append, List.flatten_cons,
        List.flatten_nil, List.append_nil]
  | receive outBuf poll answer =>
    cases receiveEffect c outBuf poll answer with
    | nothing same =>
      rw [same] at sends receives ⊢
      exact underWay sends receives
    | received ok whole same =>
      rw [same] at sends receives ⊢
      obtain ⟨before, all⟩ := shortZero.mp receives
      obtain ⟨prefix_, stream⟩ := underWay sends before
      obtain ⟨bounds, size⟩ := streamed
      obtain ⟨some_, fits, there⟩ := bounds ok
      obtain ⟨message, rest, split, flow⟩ := nextMessage prefix_ stream (some_.trans_le there)
      have turn : c.sent[c.received.length]? = some message := by
        rw [split, List.getElem?_append_right (le_refl _), Nat.sub_self]
        rfl
      have length := size message turn
      have count : answer.count = message.length := by
        rw [List.length_drop] at all
        omega
      have given : overwrite outBuf (c.stream.take answer.count) = message := by
        rw [flow, count, List.take_left, overwrite, List.drop_of_length_le length.le, List.append_nil]
      rw [given, flow, count, List.drop_left]
      refine ⟨⟨rest, by rw [split, List.append_assoc]; rfl⟩, ?_⟩
      have here : c.sent = (c.received ++ [message]) ++ rest := by rw [split, List.append_assoc]; rfl
      rw [here, List.drop_left]

theorem boundedStep {c : Conversation} {t : Transfer} (underWay : UnderWay c) (streamed : Streamed c t) :
    Bounded (transfer c t) ↔ Bounded c ∧ WholeTransfer c t := by
  have counts : ((transfer c t).shortSends = 0 ∧ (transfer c t).shortReceives = 0) ↔
      (c.shortSends = 0 ∧ c.shortReceives = 0) ∧ WholeTransfer c t := by
    cases t with
    | send data poll answer =>
      cases sendEffect c data poll answer with
      | unsent same whole => rw [same, and_iff_left whole]
      | sent ok whole same =>
        have bounds := streamed ok
        rw [same, whole]
        simp only [shortZero, List.length_take]
        omega
    | receive outBuf poll answer =>
      cases receiveEffect c outBuf poll answer with
      | nothing same whole => rw [same, and_iff_left whole]
      | received ok whole same =>
        have bounds := streamed.1 ok
        rw [same, whole]
        simp only [shortZero, List.length_drop]
        omega
  constructor
  · intro bounded
    obtain ⟨⟨sends, receives⟩, whole⟩ := counts.mp ⟨bounded.sends, bounded.receives⟩
    exact ⟨⟨(underWay sends receives).1, sends, receives⟩, whole⟩
  · rintro ⟨bounded, whole⟩
    obtain ⟨sends, receives⟩ := counts.mpr ⟨⟨bounded.sends, bounded.receives⟩, whole⟩
    exact ⟨(underWayStep underWay streamed sends receives).1, sends, receives⟩

def connected (near far : Option ProtocolTcpState) : Conversation := ⟨near, far, [], [], [], 0, 0⟩

theorem boundariesKeptIff {near far : Option ProtocolTcpState} {transfers : List Transfer}
    (streamed : Always transfer Streamed (connected near far) transfers) :
    Bounded (run transfer (connected near far) transfers) ↔
      Always transfer WholeTransfer (connected near far) transfers :=
  admittedIff (fun _ _ => ⟨List.prefix_refl [], rfl⟩) ⟨List.prefix_refl [], rfl, rfl⟩
    (fun _ _ underWay streamed => underWayStep underWay streamed)
    (fun _ _ underWay streamed => boundedStep underWay streamed) streamed

def tcpState : ProtocolTcpState := ⟨some 3, some ⟨true, true, true⟩⟩

def writable : PollAnswer := ⟨.ok, osSocketEventWrite⟩
def readable : PollAnswer := ⟨.ok, osSocketEventRead⟩

def cutShort : List Transfer :=
  [.send [1, 2] writable ⟨.ok, 1⟩, .send [3, 4] writable ⟨.ok, 2⟩, .receive [0, 0] readable ⟨.ok, 2⟩]

/- The message that is received was never sent. -/
theorem messagesJoined : Always transfer Streamed (connected (some tcpState) (some tcpState)) cutShort ∧
    (run transfer (connected (some tcpState) (some tcpState)) cutShort).sent = [[1, 2], [3, 4]] ∧
      (run transfer (connected (some tcpState) (some tcpState)) cutShort).received = [[1, 3]] ∧
        ¬Bounded (run transfer (connected (some tcpState) (some tcpState)) cutShort) := by
  refine ⟨?_, rfl, rfl, fun bounded => ?_⟩
  · refine alwaysCons.mpr ⟨fun _ => by decide, alwaysCons.mpr ⟨fun _ => by decide, alwaysCons.mpr ⟨⟨fun _ => by decide, ?_⟩,
      alwaysNil transfer Streamed _⟩⟩⟩
    intro message turn
    cases turn
    rfl
  · exact absurd bounded.sends (by decide)

def wholeOnes : List Transfer := [.send [1, 2] writable ⟨.ok, 2⟩, .receive [0, 0] readable ⟨.ok, 2⟩]

theorem wholeOnesKept : Bounded (run transfer (connected (some tcpState) (some tcpState)) wholeOnes) := by
  have streamed : Always transfer Streamed (connected (some tcpState) (some tcpState)) wholeOnes := by
    refine alwaysCons.mpr ⟨fun _ => by decide, alwaysCons.mpr ⟨⟨fun _ => by decide, ?_⟩, alwaysNil transfer Streamed _⟩⟩
    intro message turn
    cases turn
    rfl
  refine (boundariesKeptIff streamed).mpr (alwaysCons.mpr ⟨?_, alwaysCons.mpr ⟨?_, alwaysNil transfer WholeTransfer _⟩⟩)
  · intro raw ready _
    obtain rfl := Option.some.inj (readyGiven ready).1
    rfl
  · intro raw ready _
    obtain rfl := Option.some.inj (readyGiven ready).1
    rfl

end PlatformRte.Oal
