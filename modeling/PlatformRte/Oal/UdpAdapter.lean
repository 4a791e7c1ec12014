import PlatformRte.Oal.TcpAdapter

/-! The UDP protocol adapter, and where its datagrams go: over the connection it was opened
with, or else to whoever it heard from last. What the socket answers comes from outside. -/
namespace PlatformRte.Oal
open Bytes Machine

inductive ProtocolRole where
  | listen
  | connect
  | pub
  | sub
  deriving DecidableEq, Repr

def protocolEndpointStrMax : Nat := 64

abbrev HostName := Vector UInt8 protocolEndpointStrMax

structure ProtocolConfig where
  role : ProtocolRole
  host : HostName
  port : UInt16
  deriving DecidableEq, Repr

structure RteOsSocketOps extends OsSocketOps where
  openSocket : Bool
  closeSocket : Bool
  bind : Bool
  connect : Bool
  setNonblocking : Bool
  sendto : Bool
  recvfrom : Bool
  deriving DecidableEq, Repr

inductive OsSocketType where
  | udp
  | tcp
  deriving DecidableEq, Repr

inductive SocketCall where
  | opened (type : OsSocketType) (sock : Nat)
  | madeNonblocking (sock : Nat)
  | bound (sock : Nat) (host : Option HostName) (port : UInt16)
  | connected (sock : Nat) (host : HostName) (port : UInt16)
  | polled (sock : Nat) (event : UInt32)
  | sent (sock : Nat) (data : Bytes)
  | sentTo (sock : Nat) (data : Bytes) (host : HostName) (port : UInt16)
  | received (sock : Nat)
  | receivedFrom (sock : Nat)
  | closed (sock : Nat)
  deriving DecidableEq, Repr

inductive SocketOpenAnswer where
  | opened (sock : Nat)
  | failed (status : {status : RteStatus // status ≠ .ok})
  deriving DecidableEq, Repr

structure OpenAnswers where
  openSocket : SocketOpenAnswer
  setNonblocking : RteStatus
  bind : RteStatus
  connect : RteStatus
  deriving DecidableEq, Repr

/- The checks of both adapters' open; config: none for NULL, fits: the storage is large
enough. -/
def adapterOpenChecks (fits : Bool) (config : Option ProtocolConfig) (osSockets registered : Option RteOsSocketOps) :
    Except RteStatus (ProtocolConfig × RteOsSocketOps) :=
  match config with
  | none => .error .invalidParam
  | some config =>
    if !fits then .error .resourceExhausted
    else
      match osSockets.or registered with
      | none => .error .notInitialized
      | some ops => if !ops.openSocket || !ops.closeSocket then .error .notInitialized else .ok (config, ops)

def nonblockingSocket (type : OsSocketType) (ops : RteOsSocketOps) (answers : OpenAnswers) :
    Except RteStatus Nat × List SocketCall :=
  match answers.openSocket with
  | .failed status => (.error status, [])
  | .opened sock =>
    if !ops.setNonblocking then (.ok sock, [.opened type sock])
    else if answers.setNonblocking ≠ .ok then
      (.error answers.setNonblocking, [.opened type sock, .madeNonblocking sock, .closed sock])
    else (.ok sock, [.opened type sock, .madeNonblocking sock])

def bindSocket (config : ProtocolConfig) (ops : RteOsSocketOps) (sock : Nat) (answers : OpenAnswers) :
    Except RteStatus Unit × List SocketCall :=
  let bound := SocketCall.bound sock (if config.host[0] ≠ 0 then some config.host else none) config.port
  if !ops.bind then (.error .notSupported, [.closed sock])
  else if answers.bind ≠ .ok then (.error answers.bind, [bound, .closed sock])
  else (.ok (), [bound])

/- sock: none for the invalid handle. osSockets: none for NULL. -/
structure ProtocolUdpState where
  sock : Option Nat
  osSockets : Option RteOsSocketOps
  isConnected : Bool
  peerKnown : Bool
  peerHost : HostName
  peerPort : UInt16
  deriving DecidableEq, Repr

def noHost : HostName := Vector.replicate protocolEndpointStrMax 0

def unopenedUdp : ProtocolUdpState := ⟨none, none, false, false, noHost, 0⟩

def udpAdapterOpen (state : ProtocolUdpState) (fits : Bool) (config : Option ProtocolConfig)
    (osSockets registered : Option RteOsSocketOps) (answers : OpenAnswers) :
    ProtocolUdpState × RteStatus × List SocketCall :=
  match adapterOpenChecks fits config osSockets registered with
  | .error status => (state, status, [])
  | .ok (config, ops) =>
    let cleared := { unopenedUdp with osSockets := some ops }
    match nonblockingSocket .udp ops answers with
    | (.error status, calls) => (cleared, status, calls)
    | (.ok sock, calls) =>
      let opened := { cleared with sock := some sock }
      match config.role with
      | .listen =>
        match bindSocket config ops sock answers with
        | (.error status, more) => (cleared, status, calls ++ more)
        | (.ok (), more) => (opened, .ok, calls ++ more)
      | .connect =>
        -- a connect that fails leaves the destination to sendto
        ({ opened with
            isConnected := ops.connect && answers.connect == .ok
            peerHost := config.host
            peerPort := config.port
            peerKnown := true }, .ok,
          calls ++ if ops.connect then [.connected sock config.host config.port] else [])
      | _ =>
        ({ opened with peerHost := config.host, peerPort := config.port, peerKnown := decide (0 < config.port) }, .ok,
          calls)

def awaitEvent (ops : RteOsSocketOps) (sock : Nat) (event : UInt32) (poll : PollAnswer) : RteStatus × List SocketCall :=
  if !ops.poll then (.ok, [])
  else if poll.status ≠ .ok then (poll.status, [.polled sock event])
  else if poll.revents &&& event = 0 then (.timeout, [.polled sock event])
  else (.ok, [.polled sock event])

def udpAdapterReady (state : ProtocolUdpState) (buffer : Option Bytes) (event : UInt32) (poll : PollAnswer) :
    Except RteStatus (Nat × RteOsSocketOps × Bytes) × List SocketCall :=
  match buffer with
  | none => (.error .invalidParam, [])
  | some raw =>
    if raw.length = 0 then (.error .invalidParam, [])
    else
      match state.sock, state.osSockets with
      | none, _ => (.error .invalidState, [])
      | some _, none => (.error .notInitialized, [])
      | some sock, some ops =>
        match awaitEvent ops sock event poll with
        | (.ok, calls) => (.ok (sock, ops, raw), calls)
        | (status, calls) => (.error status, calls)

def udpAdapterSend (state : ProtocolUdpState) (data : Option Bytes) (poll : PollAnswer) (answer : RteStatus) :
    RteStatus × List SocketCall :=
  match udpAdapterReady state data osSocketEventWrite poll with
  | (.error status, calls) => (status, calls)
  | (.ok (sock, ops, raw), calls) =>
    if state.isConnected && ops.send then (answer, calls ++ [.sent sock raw])
    else if state.peerKnown && ops.sendto then (answer, calls ++ [.sentTo sock raw state.peerHost state.peerPort])
    else (.invalidState, calls)

/- written: what is left in the buffer. sender: what recvfrom leaves as the endpoint, none if
it does not write it. -/
structure DatagramAnswer where
  status : RteStatus
  written : Bytes
  sender : Option (HostName × UInt16)
  deriving DecidableEq, Repr

structure UdpReceived where
  state : ProtocolUdpState
  status : RteStatus
  outBuf : Option Bytes
  calls : List SocketCall
  deriving DecidableEq, Repr

def noteSender (state : ProtocolUdpState) (answer : DatagramAnswer) : ProtocolUdpState where
  sock := state.sock
  osSockets := state.osSockets
  isConnected := state.isConnected
  peerKnown := state.peerKnown || answer.status == .ok
  peerHost := (answer.sender.map Prod.fst).getD state.peerHost
  peerPort := (answer.sender.map Prod.snd).getD state.peerPort

def udpAdapterReceive (state : ProtocolUdpState) (outBuf : Option Bytes) (poll : PollAnswer) (answer : DatagramAnswer) :
    UdpReceived :=
  match udpAdapterReady state outBuf osSocketEventRead poll with
  | (.error status, calls) => ⟨state, status, outBuf, calls⟩
  | (.ok (sock, ops, raw), calls) =>
    if state.isConnected && ops.recv then
      ⟨state, answer.status, some (overwrite raw answer.written), calls ++ [.received sock]⟩
    else if ops.recvfrom then
      ⟨noteSender state answer, answer.status, some (overwrite raw answer.written), calls ++ [.receivedFrom sock]⟩
    else ⟨state, .notSupported, some raw, calls⟩

def udpAdapterClose (state : ProtocolUdpState) : ProtocolUdpState × RteStatus × List SocketCall :=
  match state.sock with
  | none => (state, .ok, [])
  | some sock =>
    ({ state with sock := none, isConnected := false }, .ok,
      if (state.osSockets.map RteOsSocketOps.closeSocket).getD false then [.closed sock] else [])

inductive UdpEvent where
  | openAdapter (fits : Bool) (config : Option ProtocolConfig) (osSockets registered : Option RteOsSocketOps)
      (answers : OpenAnswers)
  | send (data : Option Bytes) (poll : PollAnswer) (answer : RteStatus)
  | receive (outBuf : Option Bytes) (poll : PollAnswer) (answer : DatagramAnswer)
  | close

def udpPerform (state : ProtocolUdpState) : UdpEvent → ProtocolUdpState × List SocketCall
  | .openAdapter fits config osSockets registered answers =>
    let done := udpAdapterOpen state fits config osSockets registered answers
    (done.1, done.2.2)
  | .send data poll answer => (state, (udpAdapterSend state data poll answer).2)
  | .receive outBuf poll answer =>
    let done := udpAdapterReceive state outBuf poll answer
    (done.state, done.calls)
  | .close =>
    let done := udpAdapterClose state
    (done.1, done.2.2)

def udpStep (state : ProtocolUdpState) (e : UdpEvent) : ProtocolUdpState := (udpPerform state e).1

structure Opening where
  sock : Nat
  ops : RteOsSocketOps
  config : ProtocolConfig
  -- what its connect answered
  connect : RteStatus
  deriving DecidableEq, Repr

structure Heard where
  status : RteStatus
  sender : Option (HostName × UInt16)
  deriving DecidableEq, Repr

def Opening.connects (o : Opening) : Bool := decide (o.config.role = .connect) && o.ops.connect && o.connect == .ok

def Opening.someone (o : Opening) (heard : List Heard) : Bool :=
  decide (o.config.role = .connect) || (decide (o.config.role ≠ .listen) && decide (0 < o.config.port)) ||
    heard.any (·.status == .ok)

def Opening.endpoint (o : Opening) (heard : List Heard) : HostName × UInt16 :=
  (heard.findSome? Heard.sender).getD (if o.config.role = .listen then (noHost, 0) else (o.config.host, o.config.port))

def Opening.destination (o : Opening) (heard : List Heard) (data : Bytes) : Option SocketCall :=
  if o.connects && o.ops.send then some (.sent o.sock data)
  else if o.someone heard && o.ops.sendto then
    some (.sentTo o.sock data (o.endpoint heard).1 (o.endpoint heard).2)
  else none

structure UdpWatched where
  state : ProtocolUdpState
  since : Option Opening
  heard : List Heard
  deriving DecidableEq, Repr

def sinceOpen (s : UdpWatched) : UdpEvent → Option Opening
  | .openAdapter fits config osSockets registered answers =>
    match adapterOpenChecks fits config osSockets registered with
    | .error _ => s.since
    | .ok (config, ops) =>
      match (nonblockingSocket .udp ops answers).1 with
      | .error _ => none
      | .ok sock =>
        if config.role = .listen ∧ (!ops.bind ∨ answers.bind ≠ .ok) then none
        else some ⟨sock, ops, config, answers.connect⟩
  | .close => none
  | _ => s.since

def isReceivedFrom (call : SocketCall) : Bool := call matches .receivedFrom _

def heardSince (s : UdpWatched) (e : UdpEvent) : List Heard :=
  match e with
  | .openAdapter fits config osSockets registered _ =>
    match adapterOpenChecks fits config osSockets registered with
    | .error _ => s.heard
    | .ok _ => []
  | .receive _ _ answer =>
    if (udpPerform s.state e).2.any isReceivedFrom then ⟨answer.status, answer.sender⟩ :: s.heard else s.heard
  | _ => s.heard

def udpWatch (s : UdpWatched) (e : UdpEvent) : UdpWatched := ⟨udpStep s.state e, sinceOpen s e, heardSince s e⟩

def isSend (call : SocketCall) : Bool := call matches .sent _ _ | .sentTo _ _ _ _

def dueSends (since : Option Opening) (heard : List Heard) : UdpEvent → List SocketCall
  | .send (some data) poll _ =>
    match since with
    | none => []
    | some o =>
      if data = [] ∨ (awaitEvent o.ops o.sock osSocketEventWrite poll).1 ≠ .ok then []
      else (o.destination heard data).toList
  | _ => []

def SendsAsDue (s : UdpWatched) (e : UdpEvent) : Prop :=
  (udpPerform s.state e).2.filter isSend = dueSends s.since s.heard e

structure Tells (state : ProtocolUdpState) (o : Opening) (heard : List Heard) : Prop where
  sock : state.sock = some o.sock
  osSockets : state.osSockets = some o.ops
  connected : state.isConnected = o.connects
  known : state.peerKnown = o.someone heard
  peer : (state.peerHost, state.peerPort) = o.endpoint heard

def Told (s : UdpWatched) : Prop :=
  match s.since with
  | none => s.state.sock = none
  | some o => Tells s.state o s.heard

section Runs
variable {s : UdpWatched}

theorem toldSomewhere (told : Told s) : s.state.sock = s.since.map Opening.sock := by
  cases since : s.since with
  | none =>
    rw [Told, since] at told
    exact told
  | some o =>
    rw [Told, since] at told
    exact told.sock

theorem bindCases (config : ProtocolConfig) (ops : RteOsSocketOps) (sock : Nat) (answers : OpenAnswers) :
    ((!ops.bind ∨ answers.bind ≠ .ok) ∧ ∃ status more, bindSocket config ops sock answers = (.error status, more)) ∨
      (¬(!ops.bind ∨ answers.bind ≠ .ok) ∧ ∃ more, bindSocket config ops sock answers = (.ok (), more)) := by
  unfold bindSocket
  by_cases missing : (!ops.bind) = true
  · rw [if_pos missing]
    exact Or.inl ⟨Or.inl missing, _, _, rfl⟩
  rw [if_neg missing]
  by_cases refused : answers.bind ≠ .ok
  · rw [if_pos refused]
    exact Or.inl ⟨Or.inr refused, _, _, rfl⟩
  · rw [if_neg refused]
    exact Or.inr ⟨by simp [missing, refused], _, rfl⟩

theorem openedTells {config : ProtocolConfig} {ops : RteOsSocketOps} {answers : OpenAnswers} {sock : Nat}
    {calls : List SocketCall} (state : ProtocolUdpState) {fits : Bool} {given : Option ProtocolConfig}
    {osSockets registered : Option RteOsSocketOps}
    (checks : adapterOpenChecks fits given osSockets registered = .ok (config, ops))
    (socket : nonblockingSocket .udp ops answers = (.ok sock, calls)) :
    if config.role = .listen ∧ (!ops.bind ∨ answers.bind ≠ .ok) then
      (udpAdapterOpen state fits given osSockets registered answers).1.sock = none
    else Tells (udpAdapterOpen state fits given osSockets registered answers).1 ⟨sock, ops, config, answers.connect⟩ [] := by
  unfold udpAdapterOpen
  simp only [checks, socket]
  cases role : config.role with
  | listen =>
    rcases bindCases config ops sock answers with ⟨refused, status, more, runs⟩ | ⟨accepted, more, runs⟩
    · rw [if_pos ⟨rfl, refused⟩, runs]
      rfl
    · rw [if_neg (fun both => accepted both.2), runs]
      exact ⟨rfl, rfl, by simp [Opening.connects, role, unopenedUdp], by simp [Opening.someone, role, unopenedUdp],
        by simp [Opening.endpoint, role, unopenedUdp]⟩
  | connect =>
    rw [if_neg (by simp)]
    exact ⟨rfl, rfl, by simp [Opening.connects, role], by simp [Opening.someone, role], by simp [Opening.endpoint, role]⟩
  | pub =>
    rw [if_neg (by simp)]
    exact ⟨rfl, rfl, by simp [Opening.connects, role, unopenedUdp], by simp [Opening.someone, role],
      by simp [Opening.endpoint, role]⟩
  | sub =>
    rw [if_neg (by simp)]
    exact ⟨rfl, rfl, by simp [Opening.connects, role, unopenedUdp], by simp [Opening.someone, role],
      by simp [Opening.endpoint, role]⟩

theorem openTold (told : Told s) (fits : Bool) (config : Option ProtocolConfig)
    (osSockets registered : Option RteOsSocketOps) (answers : OpenAnswers) :
    Told (udpWatch s (.openAdapter fits config osSockets registered answers)) := by
  cases checks : adapterOpenChecks fits config osSockets registered with
  | error status =>
    have still : udpWatch s (.openAdapter fits config osSockets registered answers) = s := by
      simp [udpWatch, udpStep, udpPerform, udpAdapterOpen, sinceOpen, heardSince, checks]
    rwa [still]
  | ok admitted =>
    obtain ⟨config, ops⟩ := admitted
    cases socket : nonblockingSocket .udp ops answers with
    | mk got calls =>
      cases got with
      | error status =>
        simp [Told, udpWatch, udpStep, udpPerform, udpAdapterOpen, sinceOpen, checks, socket, unopenedUdp]
      | ok sock =>
        have opened := openedTells s.state checks socket
        simp only [Told, udpWatch, udpStep, udpPerform, sinceOpen, heardSince, checks, socket]
        by_cases unbound : config.role = .listen ∧ (!ops.bind ∨ answers.bind ≠ .ok)
        · rw [if_pos unbound] at opened ⊢
          exact opened
        · rw [if_neg unbound] at opened ⊢
          exact opened

theorem closeTold : Told (udpWatch s .close) := by
  have shut : (udpStep s.state .close).sock = none := by
    unfold udpStep udpPerform udpAdapterClose
    cases sock : s.state.sock with
    | none => exact sock
    | some _ => rfl
  exact shut

theorem awaitPolls (ops : RteOsSocketOps) (sock : Nat) (event : UInt32) (poll : PollAnswer) :
    (awaitEvent ops sock event poll).2 = [] ∨ (awaitEvent ops sock event poll).2 = [.polled sock event] := by
  unfold awaitEvent
  split_ifs <;> simp

theorem readyPolls (state : ProtocolUdpState) (buffer : Option Bytes) (event : UInt32) (poll : PollAnswer) :
    (udpAdapterReady state buffer event poll).2 = [] ∨
      ∃ sock, state.sock = some sock ∧ (udpAdapterReady state buffer event poll).2 = [.polled sock event] := by
  unfold udpAdapterReady
  split
  · exact Or.inl rfl
  split
  · exact Or.inl rfl
  split
  · exact Or.inl rfl
  · exact Or.inl rfl
  rename_i sock ops held slots
  have polls := awaitPolls ops sock event poll
  split <;> rename_i awaited <;> rw [awaited] at polls
  · exact polls.imp id fun polled => ⟨sock, held, polled⟩
  · exact polls.imp id fun polled => ⟨sock, held, polled⟩

theorem readyHolds {state : ProtocolUdpState} {buffer : Option Bytes} {event : UInt32} {poll : PollAnswer} {sock : Nat}
    {ops : RteOsSocketOps} {raw : Bytes} {calls : List SocketCall}
    (ready : udpAdapterReady state buffer event poll = (.ok (sock, ops, raw), calls)) :
    buffer = some raw ∧ raw ≠ [] ∧ state.sock = some sock ∧ state.osSockets = some ops ∧
      (awaitEvent ops sock event poll).1 = .ok := by
  unfold udpAdapterReady at ready
  split at ready
  · simp at ready
  split at ready
  · simp at ready
  rename_i given some_
  split at ready
  · simp at ready
  · simp at ready
  rename_i held slots
  split at ready
  · rename_i awaited
    simp only [Prod.mk.injEq, Except.ok.injEq] at ready
    obtain ⟨⟨rfl, rfl, rfl⟩, -⟩ := ready
    exact ⟨rfl, fun empty => some_ (by rw [empty]; rfl), held, slots, by rw [awaited]⟩
  · simp at ready

theorem receiveCases (state : ProtocolUdpState) (outBuf : Option Bytes) (poll : PollAnswer) (answer : DatagramAnswer) :
    let done := udpAdapterReceive state outBuf poll answer
    (done.state = state ∧ done.calls.any isReceivedFrom = false) ∨
      (state.sock.isSome ∧ done.state = noteSender state answer ∧ done.calls.any isReceivedFrom = true) := by
  have polls := readyPolls state outBuf osSocketEventRead poll
  have quiet : (udpAdapterReady state outBuf osSocketEventRead poll).2.any isReceivedFrom = false := by
    rcases polls with none_ | ⟨sock, -, polled⟩
    · rw [none_]
      rfl
    · rw [polled]
      rfl
  dsimp only
  unfold udpAdapterReceive
  split <;> rename_i ready <;> rw [ready] at quiet
  · exact Or.inl ⟨rfl, quiet⟩
  dsimp only at quiet
  split
  · exact Or.inl ⟨rfl, by simp [quiet, isReceivedFrom]⟩
  split
  · exact Or.inr ⟨by simp [(readyHolds ready).2.2.1], rfl, by simp [isReceivedFrom]⟩
  · exact Or.inl ⟨rfl, quiet⟩

theorem notedTells {state : ProtocolUdpState} {o : Opening} {heard : List Heard} (tells : Tells state o heard)
    (answer : DatagramAnswer) : Tells (noteSender state answer) o (⟨answer.status, answer.sender⟩ :: heard) := by
  refine ⟨tells.sock, tells.osSockets, tells.connected, ?_, ?_⟩
  · rw [noteSender, tells.known]
    simp [Opening.someone, Bool.or_assoc, Bool.or_comm, Bool.or_left_comm]
  · cases sender : answer.sender with
    | none =>
      have still : (noteSender state answer).peerHost = state.peerHost ∧
          (noteSender state answer).peerPort = state.peerPort := by simp [noteSender, sender]
      rw [still.1, still.2, tells.peer]
      simp [Opening.endpoint]
    | some endpoint => simp [noteSender, sender, Opening.endpoint]

theorem receiveTold (told : Told s) (outBuf : Option Bytes) (poll : PollAnswer) (answer : DatagramAnswer) :
    Told (udpWatch s (.receive outBuf poll answer)) := by
  rcases receiveCases s.state outBuf poll answer with ⟨same, quiet⟩ | ⟨held, noted, hears⟩
  · have still : udpWatch s (.receive outBuf poll answer) = s := by
      simp [udpWatch, udpStep, udpPerform, same, sinceOpen, heardSince, quiet]
    rwa [still]
  · have after : udpWatch s (.receive outBuf poll answer) =
        ⟨noteSender s.state answer, s.since, ⟨answer.status, answer.sender⟩ :: s.heard⟩ := by
      simp [udpWatch, udpStep, udpPerform, noted, sinceOpen, heardSince, hears]
    rw [after]
    cases since : s.since with
    | none =>
      rw [toldSomewhere told, since] at held
      cases held
    | some o =>
      rw [Told, since] at told
      exact notedTells told answer

theorem toldStep (told : Told s) (e : UdpEvent) : Told (udpWatch s e) := by
  cases e with
  | openAdapter fits config osSockets registered answers => exact openTold told fits config osSockets registered answers
  | send data poll answer => exact told
  | receive outBuf poll answer => exact receiveTold told outBuf poll answer
  | close => exact closeTold

theorem pollsSendNothing (state : ProtocolUdpState) (buffer : Option Bytes) (event : UInt32) (poll : PollAnswer) :
    (udpAdapterReady state buffer event poll).2.filter isSend = [] := by
  rcases readyPolls state buffer event poll with none_ | ⟨sock, -, polled⟩
  · rw [none_]
    rfl
  · rw [polled]
    rfl

theorem readyTold {state : ProtocolUdpState} {o : Opening} {heard : List Heard} (tells : Tells state o heard)
    (raw : Bytes) (event : UInt32) (poll : PollAnswer) :
    if raw = [] ∨ (awaitEvent o.ops o.sock event poll).1 ≠ .ok then
      ∃ status, (udpAdapterReady state (some raw) event poll).1 = .error status
    else (udpAdapterReady state (some raw) event poll).1 = .ok (o.sock, o.ops, raw) := by
  simp only [udpAdapterReady, tells.sock, tells.osSockets, List.length_eq_zero_iff]
  by_cases empty : raw = []
  · rw [if_pos (Or.inl empty), if_pos empty]
    exact ⟨_, rfl⟩
  rw [if_neg empty]
  cases awaited : awaitEvent o.ops o.sock event poll with
  | mk status calls => cases status <;> simp [empty]

theorem sendDue (told : Told s) (data : Option Bytes) (poll : PollAnswer) (answer : RteStatus) :
    SendsAsDue s (.send data poll answer) := by
  have quiet := pollsSendNothing s.state data osSocketEventWrite poll
  cases since : s.since with
  | none =>
    have shut : s.state.sock = none := by rw [toldSomewhere told, since]; rfl
    have nothing : (udpAdapterSend s.state data poll answer).2.filter isSend = [] := by
      unfold udpAdapterSend
      split <;> rename_i ready
      · rwa [ready] at quiet
      · have holds := (readyHolds ready).2.2.1
        rw [shut] at holds
        cases holds
    cases data <;> simp [SendsAsDue, udpPerform, dueSends, since, nothing]
  | some o =>
    rw [Told, since] at told
    cases data with
    | none => rfl
    | some raw =>
      have told_ := readyTold told raw osSocketEventWrite poll
      simp only [SendsAsDue, udpPerform, udpAdapterSend, dueSends, since]
      split at told_
      · rename_i undue
        obtain ⟨status, failed⟩ := told_
        rw [if_pos undue]
        split <;> rename_i ready <;> rw [ready] at quiet failed
        · exact quiet
        · cases failed
      · rename_i due
        rw [if_neg due]
        split <;> rename_i ready <;> rw [ready] at quiet told_
        · cases told_
        · simp only [Except.ok.injEq, Prod.mk.injEq] at told_ quiet
          obtain ⟨rfl, rfl, rfl⟩ := told_
          rw [Opening.destination, told.connected, told.known]
          have peer := Prod.mk.inj told.peer
          split
          · rw [List.filter_append, quiet]
            rfl
          split
          · rw [List.filter_append, quiet, peer.1, peer.2]
            rfl
          · exact quiet

theorem openSendsNothing (state : ProtocolUdpState) (fits : Bool) (config : Option ProtocolConfig)
    (osSockets registered : Option RteOsSocketOps) (answers : OpenAnswers) :
    (udpAdapterOpen state fits config osSockets registered answers).2.2.filter isSend = [] := by
  have socket (ops : RteOsSocketOps) : (nonblockingSocket .udp ops answers).2.filter isSend = [] := by
    unfold nonblockingSocket
    split
    · rfl
    split_ifs <;> rfl
  have bound (config : ProtocolConfig) (ops : RteOsSocketOps) (sock : Nat) :
      (bindSocket config ops sock answers).2.filter isSend = [] := by
    simp only [bindSocket]
    split_ifs <;> rfl
  unfold udpAdapterOpen
  split
  · rfl
  rename_i config ops _
  dsimp only
  have quiet := socket ops
  split
  · rename_i got
    rwa [got] at quiet
  rename_i sock calls got
  rw [got] at quiet
  dsimp only at quiet
  split
  · have still := bound config ops sock
    split <;> rename_i more <;> rw [more] at still <;> rw [List.filter_append, quiet, still] <;> rfl
  · rw [List.filter_append, quiet]
    split <;> rfl
  · exact quiet

theorem receiveSendsNothing (state : ProtocolUdpState) (outBuf : Option Bytes) (poll : PollAnswer)
    (answer : DatagramAnswer) : (udpAdapterReceive state outBuf poll answer).calls.filter isSend = [] := by
  have quiet := pollsSendNothing state outBuf osSocketEventRead poll
  unfold udpAdapterReceive
  split <;> rename_i ready <;> rw [ready] at quiet
  · exact quiet
  dsimp only at quiet
  split
  · rw [List.filter_append, quiet]
    rfl
  split
  · rw [List.filter_append, quiet]
    rfl
  · exact quiet

/- Whatever is called on an adapter, and in whatever order, it hands a datagram to its socket
exactly when one is due, and for where the open and the last datagram it took say. -/
theorem sendsAsDue {start : ProtocolUdpState} (unopened : start.sock = none) (events : List UdpEvent) :
    Always udpWatch SendsAsDue ⟨start, none, []⟩ events := by
  have any : Always udpWatch (fun _ _ => True) ⟨start, none, []⟩ events := fun _ _ _ _ => trivial
  have begun : Told ⟨start, none, []⟩ := unopened
  refine alwaysOfInvariant begun (fun m e told _ => toldStep told e) (fun m e told _ => ?_) any
  cases e with
  | openAdapter fits config osSockets registered answers =>
    exact openSendsNothing m.state fits config osSockets registered answers
  | send data poll answer => exact sendDue told data poll answer
  | receive outBuf poll answer => exact receiveSendsNothing m.state outBuf poll answer
  | close =>
    simp only [SendsAsDue, udpPerform, udpAdapterClose, dueSends]
    split
    · rfl
    · split_ifs <;> rfl

def everySlot : RteOsSocketOps := ⟨⟨true, true, true⟩, true, true, true, true, true, true, true⟩

def hostNamed (letter : UInt8) : HostName := noHost.set 0 letter

def refusedConnect : List UdpEvent :=
  [.openAdapter true (some ⟨.connect, hostNamed 0x61, 7000⟩) (some everySlot) none ⟨.opened 3, .ok, .ok, .timeout⟩,
    .send (some [1]) writable .ok, .receive (some [0, 0]) readable ⟨.ok, [9], some (hostNamed 0x62, 7001)⟩,
    .send (some [2]) writable .ok]

theorem strangerAnswered :
    Always udpWatch SendsAsDue ⟨unopenedUdp, none, []⟩ refusedConnect ∧
      (udpPerform (run udpStep unopenedUdp (refusedConnect.take 1)) (.send (some [1]) writable .ok)).2 =
        [.polled 3 osSocketEventWrite, .sentTo 3 [1] (hostNamed 0x61) 7000] ∧
      (udpPerform (run udpStep unopenedUdp (refusedConnect.take 3)) (.send (some [2]) writable .ok)).2 =
        [.polled 3 osSocketEventWrite, .sentTo 3 [2] (hostNamed 0x62) 7001] :=
  ⟨sendsAsDue rfl refusedConnect, by decide +kernel, by decide +kernel⟩

end Runs
end PlatformRte.Oal
