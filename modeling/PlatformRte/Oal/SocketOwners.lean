import PlatformRte.Lib.Ledger
import PlatformRte.Oal.UdpAdapter

/-! Any number of UDP and TCP adapters over one set of socket operations. Each uses and closes
the socket it has opened itself, and closes it wherever its open fails; a socket that is left
open belongs to an open adapter, or to one that was opened again without a close. -/
namespace PlatformRte.Oal
open Bytes Machine Ledger

structure TcpStorage where
  sock : Option Nat
  osSockets : Option RteOsSocketOps
  isConnected : Bool
  deriving DecidableEq, Repr

def TcpStorage.state (storage : TcpStorage) : ProtocolTcpState :=
  ⟨storage.sock, storage.osSockets.map RteOsSocketOps.toOsSocketOps⟩

def tcpAdapterOpen (storage : TcpStorage) (fits : Bool) (config : Option ProtocolConfig)
    (osSockets registered : Option RteOsSocketOps) (answers : OpenAnswers) : TcpStorage × RteStatus × List SocketCall :=
  match adapterOpenChecks fits config osSockets registered with
  | .error status => (storage, status, [])
  | .ok (config, ops) =>
    let cleared := ⟨none, some ops, false⟩
    match nonblockingSocket .tcp ops answers with
    | (.error status, calls) => (cleared, status, calls)
    | (.ok sock, calls) =>
      let opened := { cleared with sock := some sock }
      match config.role with
      | .listen =>
        match bindSocket config ops sock answers with
        | (.error status, more) => (cleared, status, calls ++ more)
        | (.ok (), more) => (opened, .ok, calls ++ more)
      | .connect =>
        if !ops.connect then (cleared, .notSupported, calls ++ [.closed sock])
        else
          ({ opened with isConnected := answers.connect == .ok }, .ok,
            calls ++ [.connected sock config.host config.port])
      | _ => (opened, .ok, calls)

def tcpAdapterCalls (storage : TcpStorage) (buffer : Option Bytes) (slot : OsSocketOps → Bool) (event : UInt32)
    (poll : PollAnswer) (call : Nat → Bytes → SocketCall) : List SocketCall :=
  match buffer, storage.sock, storage.osSockets with
  | some raw, some sock, some ops =>
    if raw.length = 0 ∨ slot ops.toOsSocketOps = false then []
    else
      match awaitEvent ops sock event poll with
      | (.ok, calls) => calls ++ [call sock raw]
      | (_, calls) => calls
  | _, _, _ => []

/- The socket call is made where tcpAdapterSend and tcpAdapterReceive are ready for it. -/
theorem tcpCallMade {storage : TcpStorage} {buffer : Option Bytes} {slot : OsSocketOps → Bool} {event : UInt32}
    {poll : PollAnswer} {call : Nat → Bytes → SocketCall} (noPoll : ∀ sock raw polled, call sock raw ≠ .polled polled event) :
    (∃ sock raw, call sock raw ∈ tcpAdapterCalls storage buffer slot event poll call) ↔
      ∃ raw, tcpAdapterReady (some storage.state) buffer slot event poll = .ok raw := by
  obtain ⟨sock, osSockets, isConnected⟩ := storage
  cases buffer with
  | none => simp [tcpAdapterCalls, tcpAdapterReady]
  | some raw =>
    cases sock with
    | none => by_cases empty : raw = [] <;> simp [tcpAdapterCalls, tcpAdapterReady, TcpStorage.state, empty]
    | some sock =>
      cases osSockets with
      | none => by_cases empty : raw = [] <;> simp [tcpAdapterCalls, tcpAdapterReady, TcpStorage.state, empty]
      | some ops =>
        simp only [tcpAdapterCalls, tcpAdapterReady, TcpStorage.state, awaitEvent, Option.map_some]
        split_ifs <;> simp_all

def tcpAdapterClose (storage : TcpStorage) : TcpStorage × RteStatus × List SocketCall :=
  match storage.sock with
  | none => (storage, .ok, [])
  | some sock =>
    ({ storage with sock := none, isConnected := false }, .ok,
      if (storage.osSockets.map RteOsSocketOps.closeSocket).getD false then [.closed sock] else [])

inductive Adapter where
  | udp (state : ProtocolUdpState)
  | tcp (storage : TcpStorage)
  deriving DecidableEq, Repr

def adapterPerform : Adapter → UdpEvent → Adapter × List SocketCall
  | .udp state, e =>
    let done := udpPerform state e
    (.udp done.1, done.2)
  | .tcp storage, .openAdapter fits config osSockets registered answers =>
    let done := tcpAdapterOpen storage fits config osSockets registered answers
    (.tcp done.1, done.2.2)
  | .tcp storage, .send data poll _ =>
    (.tcp storage, tcpAdapterCalls storage data OsSocketOps.send osSocketEventWrite poll .sent)
  | .tcp storage, .receive outBuf poll _ =>
    (.tcp storage, tcpAdapterCalls storage outBuf OsSocketOps.recv osSocketEventRead poll fun sock _ => .received sock)
  | .tcp storage, .close =>
    let done := tcpAdapterClose storage
    (.tcp done.1, done.2.2)

def adapterStep (adapter : Adapter) (e : UdpEvent) : Adapter := (adapterPerform adapter e).1

def entryOfCall : SocketCall → Entry Nat
  | .opened _ sock => .taken sock
  | .madeNonblocking sock => .used sock
  | .bound sock _ _ => .used sock
  | .connected sock _ _ => .used sock
  | .polled sock _ => .used sock
  | .sent sock _ => .used sock
  | .sentTo sock _ _ _ => .used sock
  | .received sock => .used sock
  | .receivedFrom sock => .used sock
  | .closed sock => .returned sock

def socketEntries (adapter : Adapter) (e : UdpEvent) : List (Entry Nat) := (adapterPerform adapter e).2.map entryOfCall

def sockOf : Adapter → Option Nat
  | .udp state => state.sock
  | .tcp storage => storage.sock

def slotsOf : Adapter → Option RteOsSocketOps
  | .udp state => state.osSockets
  | .tcp storage => storage.osSockets

def socketHeld (adapter : Adapter) : Finset Nat := (sockOf adapter).elim ∅ fun sock => {sock}

def clears : UdpEvent → Bool
  | .openAdapter fits config osSockets registered _ => (adapterOpenChecks fits config osSockets registered).isOk
  | _ => false

def socketLost (adapter : Adapter) (e : UdpEvent) : Finset Nat := if clears e then socketHeld adapter else ∅

def socketHolder : Holder Adapter UdpEvent Nat := ⟨adapterStep, socketEntries, socketHeld, socketLost⟩

def Closable (adapter : Adapter) : Prop :=
  ∀ sock, sockOf adapter = some sock → ∃ ops, slotsOf adapter = some ops ∧ ops.closeSocket = true

section Shapes

inductive OpenShape (calls : List SocketCall) (left : Option Nat) : Prop
  | nothing (quiet : calls = []) (shut : left = none)
  | kept (sock times : Nat)
      (takes : calls.map entryOfCall = .taken sock :: (List.replicate times sock).map .used) (has : left = some sock)
  | givenUp (sock times : Nat)
      (takes : calls.map entryOfCall = .taken sock :: (List.replicate times sock).map .used ++ [.returned sock])
      (shut : left = none)

theorem nonblockingCases (type : OsSocketType) (ops : RteOsSocketOps) (answers : OpenAnswers) :
    (∃ status calls, nonblockingSocket type ops answers = (.error status, calls) ∧ OpenShape calls none) ∨
      ∃ sock times calls, nonblockingSocket type ops answers = (.ok sock, calls) ∧
        calls.map entryOfCall = .taken sock :: (List.replicate times sock).map .used := by
  unfold nonblockingSocket
  split
  · exact Or.inl ⟨_, _, rfl, .nothing rfl rfl⟩
  split_ifs
  · exact Or.inr ⟨_, 0, _, rfl, rfl⟩
  · exact Or.inl ⟨_, _, rfl, .givenUp _ 1 rfl rfl⟩
  · exact Or.inr ⟨_, 1, _, rfl, rfl⟩

theorem boundEntries (config : ProtocolConfig) (ops : RteOsSocketOps) (sock : Nat) (answers : OpenAnswers) :
    (∃ status more times, bindSocket config ops sock answers = (.error status, more) ∧
        more.map entryOfCall = (List.replicate times sock).map .used ++ [.returned sock]) ∨
      ∃ more, bindSocket config ops sock answers = (.ok (), more) ∧ more.map entryOfCall = [.used sock] := by
  simp only [bindSocket]
  split
  · exact Or.inl ⟨_, _, 0, rfl, rfl⟩
  split
  · exact Or.inl ⟨_, _, 1, rfl, rfl⟩
  · exact Or.inr ⟨_, rfl, rfl⟩

theorem replicateJoin (sock m n : Nat) :
    (List.replicate m sock).map Entry.used ++ (List.replicate n sock).map .used = (List.replicate (m + n) sock).map .used := by
  rw [← List.map_append, List.replicate_append_replicate]

theorem shapeKept {sock times : Nat} {calls further : List SocketCall} (more : Nat)
    (takes : calls.map entryOfCall = .taken sock :: (List.replicate times sock).map .used)
    (uses : further.map entryOfCall = (List.replicate more sock).map .used) : OpenShape (calls ++ further) (some sock) :=
  .kept sock (times + more) (by rw [List.map_append, takes, uses, List.cons_append, replicateJoin]) rfl

theorem shapeGivenUp {sock times : Nat} {calls further : List SocketCall} (more : Nat)
    (takes : calls.map entryOfCall = .taken sock :: (List.replicate times sock).map .used)
    (returns : further.map entryOfCall = (List.replicate more sock).map .used ++ [.returned sock]) :
    OpenShape (calls ++ further) none :=
  .givenUp sock (times + more)
    (by rw [List.map_append, takes, returns, List.cons_append, ← List.append_assoc, replicateJoin, List.cons_append]) rfl

variable {fits : Bool} {config : Option ProtocolConfig} {osSockets registered : Option RteOsSocketOps}

theorem udpOpenShape (state : ProtocolUdpState) (answers : OpenAnswers)
    (passed : (adapterOpenChecks fits config osSockets registered).isOk = true) :
    OpenShape (udpAdapterOpen state fits config osSockets registered answers).2.2
      (udpAdapterOpen state fits config osSockets registered answers).1.sock := by
  unfold udpAdapterOpen
  split
  · rename_i checks
    rw [checks] at passed
    cases passed
  rename_i config ops _
  dsimp only
  rcases nonblockingCases .udp ops answers with ⟨status, calls, got, shape⟩ | ⟨sock, times, calls, got, takes⟩
  · rw [got]
    exact shape
  rw [got]
  dsimp only
  split
  · rcases boundEntries config ops sock answers with ⟨status, more, n, bound, returns⟩ | ⟨more, bound, uses⟩
    · rw [bound]
      exact shapeGivenUp _ takes returns
    · rw [bound]
      exact shapeKept 1 takes uses
  · split
    · exact shapeKept 1 takes rfl
    · exact shapeKept 0 takes rfl
  · exact .kept sock times takes rfl

theorem tcpOpenShape (storage : TcpStorage) (answers : OpenAnswers)
    (passed : (adapterOpenChecks fits config osSockets registered).isOk = true) :
    OpenShape (tcpAdapterOpen storage fits config osSockets registered answers).2.2
      (tcpAdapterOpen storage fits config osSockets registered answers).1.sock := by
  unfold tcpAdapterOpen
  split
  · rename_i checks
    rw [checks] at passed
    cases passed
  rename_i config ops _
  dsimp only
  rcases nonblockingCases .tcp ops answers with ⟨status, calls, got, shape⟩ | ⟨sock, times, calls, got, takes⟩
  · rw [got]
    exact shape
  rw [got]
  dsimp only
  split
  · rcases boundEntries config ops sock answers with ⟨status, more, n, bound, returns⟩ | ⟨more, bound, uses⟩
    · rw [bound]
      exact shapeGivenUp _ takes returns
    · rw [bound]
      exact shapeKept 1 takes uses
  · split
    · exact shapeGivenUp 0 takes rfl
    · exact shapeKept 1 takes rfl
  · exact .kept sock times takes rfl

end Shapes
section Keeps
variable {adapter : Adapter} {e : UdpEvent}

theorem usingKeeps {socks : List Nat} (uses : socketEntries adapter e = socks.map .used)
    (mine : ∀ sock ∈ socks, sock ∈ socketHeld adapter)
    (same : socketHeld (adapterStep adapter e) = socketHeld adapter) (none_ : socketLost adapter e = ∅) :
    socketHolder.Keeps adapter e := by
  refine Holder.keepsOf ?_ (fun sock => ?_) (by simp [none_])
  · rw [uses]
    exact ownUsed mine
  · rw [uses, usedOut, same, none_]
    simp

theorem openKeeps (clearing : clears e = true)
    (shape : OpenShape (adapterPerform adapter e).2 (sockOf (adapterStep adapter e)))
    (fresh : Always move Fresh (socketHeld adapter) (socketEntries adapter e)) : socketHolder.Keeps adapter e := by
  have lost : socketLost adapter e = socketHeld adapter := by simp [socketLost, clearing]
  cases shape with
  | nothing quiet shut =>
    have entries : socketEntries adapter e = [] := by simp [socketEntries, quiet]
    have held : socketHeld (adapterStep adapter e) = ∅ := by simp [socketHeld, shut]
    refine Holder.keepsOf ?_ (fun sock => ?_) (by simp [held])
    · rw [entries]
      exact alwaysNil _ _ _
    · rw [entries, held, lost]
      simp [run]
  | kept sock times takes has =>
    have entries : socketEntries adapter e = .taken sock :: (List.replicate times sock).map .used := takes
    have held : socketHeld (adapterStep adapter e) = {sock} := by simp [socketHeld, has]
    rw [entries] at fresh
    have new : sock ∉ socketHeld adapter := (alwaysCons.mp fresh).1
    refine Holder.keepsOf ?_ (fun other => ?_) (fun other lostOne => ?_)
    · rw [entries]
      refine alwaysCons.mpr ⟨trivial, ownUsed fun other member => ?_⟩
      rw [List.eq_of_mem_replicate member]
      exact Finset.mem_insert_self _ _
    · have moved : run move (socketHeld adapter) (.taken sock :: (List.replicate times sock).map .used) =
          insert sock (socketHeld adapter) := usedOut
      rw [entries, moved, held, lost, Finset.mem_insert, Finset.mem_singleton]
    · rw [held, Finset.mem_singleton]
      rw [lost] at lostOne
      rintro rfl
      exact new lostOne
  | givenUp sock times takes shut =>
    have entries : socketEntries adapter e =
        .taken sock :: (List.replicate times sock).map .used ++ [.returned sock] := takes
    have held : socketHeld (adapterStep adapter e) = ∅ := by simp [socketHeld, shut]
    rw [entries, List.cons_append] at fresh
    have new : sock ∉ socketHeld adapter := (alwaysCons.mp fresh).1
    have middle : run move (insert sock (socketHeld adapter)) ((List.replicate times sock).map .used) =
        insert sock (socketHeld adapter) := usedOut
    refine Holder.keepsOf ?_ (fun other => ?_) (by simp [held])
    · rw [entries, List.cons_append]
      refine alwaysCons.mpr ⟨trivial, alwaysAppend.mpr ⟨ownUsed fun other member => ?_, ?_⟩⟩
      · rw [List.eq_of_mem_replicate member]
        exact Finset.mem_insert_self _ _
      · have back : sock ∈ run move (insert sock (socketHeld adapter)) ((List.replicate times sock).map .used) := by
          rw [middle]
          exact Finset.mem_insert_self _ _
        exact alwaysCons.mpr ⟨back, alwaysNil _ _ _⟩
    · have moved : run move (socketHeld adapter)
          (.taken sock :: (List.replicate times sock).map .used ++ [.returned sock]) = socketHeld adapter := by
        rw [List.cons_append, ← List.singleton_append, runAppend, runAppend]
        show (run move (insert sock (socketHeld adapter)) ((List.replicate times sock).map .used)).erase sock = _
        rw [middle, Finset.erase_insert new]
      rw [entries, moved, held, lost]
      simp

def UsesHeld (held : Option Nat) (calls : List SocketCall) : Prop :=
  ∃ socks : List Nat, calls.map entryOfCall = socks.map .used ∧ ∀ sock ∈ socks, held = some sock

theorem usesNothing (held : Option Nat) : UsesHeld held [] := ⟨[], rfl, by simp⟩

theorem usesMore {held : Option Nat} {sock : Nat} {calls : List SocketCall} {call : SocketCall} (uses : UsesHeld held calls)
    (has : held = some sock) (is : entryOfCall call = .used sock) : UsesHeld held (calls ++ [call]) := by
  obtain ⟨socks, are, mine⟩ := uses
  refine ⟨socks ++ [sock], by simp [are, is], fun other member => ?_⟩
  rcases List.mem_append.mp member with before | last
  · exact mine other before
  · rw [List.mem_singleton.mp last, has]

theorem readyUses (state : ProtocolUdpState) (buffer : Option Bytes) (event : UInt32) (poll : PollAnswer) :
    UsesHeld state.sock (udpAdapterReady state buffer event poll).2 := by
  rcases readyPolls state buffer event poll with none_ | ⟨sock, has, polled⟩
  · rw [none_]
    exact usesNothing _
  · rw [polled, has]
    exact ⟨[sock], rfl, by simp⟩

theorem udpSendUses (state : ProtocolUdpState) (data : Option Bytes) (poll : PollAnswer) (answer : RteStatus) :
    UsesHeld state.sock (udpAdapterSend state data poll answer).2 := by
  have uses := readyUses state data osSocketEventWrite poll
  unfold udpAdapterSend
  split <;> rename_i ready <;> rw [ready] at uses
  · exact uses
  have has := (readyHolds ready).2.2.1
  split
  · exact usesMore uses has rfl
  split
  · exact usesMore uses has rfl
  · exact uses

theorem udpReceiveUses (state : ProtocolUdpState) (outBuf : Option Bytes) (poll : PollAnswer) (answer : DatagramAnswer) :
    UsesHeld state.sock (udpAdapterReceive state outBuf poll answer).calls ∧
      (udpAdapterReceive state outBuf poll answer).state.sock = state.sock ∧
      (udpAdapterReceive state outBuf poll answer).state.osSockets = state.osSockets := by
  have uses := readyUses state outBuf osSocketEventRead poll
  unfold udpAdapterReceive
  split <;> rename_i ready <;> rw [ready] at uses
  · exact ⟨uses, rfl, rfl⟩
  have has := (readyHolds ready).2.2.1
  split
  · exact ⟨usesMore uses has rfl, rfl, rfl⟩
  split
  · exact ⟨usesMore uses has rfl, rfl, rfl⟩
  · exact ⟨uses, rfl, rfl⟩

theorem tcpCallUses {storage : TcpStorage} {buffer : Option Bytes} {slot : OsSocketOps → Bool} {event : UInt32}
    {poll : PollAnswer} {call : Nat → Bytes → SocketCall} (is : ∀ sock raw, entryOfCall (call sock raw) = .used sock) :
    UsesHeld storage.sock (tcpAdapterCalls storage buffer slot event poll call) := by
  unfold tcpAdapterCalls
  split
  · rename_i raw sock ops has _
    split
    · exact usesNothing _
    have polls : UsesHeld storage.sock (awaitEvent ops sock event poll).2 := by
      rcases awaitPolls ops sock event poll with none_ | polled
      · rw [none_]
        exact usesNothing _
      · rw [polled]
        exact ⟨[sock], rfl, by simp [has]⟩
    split <;> rename_i awaited <;> rw [awaited] at polls
    · exact usesMore polls has (is sock raw)
    · exact polls
  · exact usesNothing _

theorem heldOf {sock : Nat} (has : sockOf adapter = some sock) : sock ∈ socketHeld adapter := by simp [socketHeld, has]

theorem usesKeep (uses : UsesHeld (sockOf adapter) (adapterPerform adapter e).2)
    (same : sockOf (adapterStep adapter e) = sockOf adapter) (unclearing : clears e = false) :
    socketHolder.Keeps adapter e := by
  obtain ⟨socks, are, mine⟩ := uses
  exact usingKeeps are (fun sock member => heldOf (mine sock member)) (by rw [socketHeld, socketHeld, same])
    (by simp [socketLost, unclearing])

theorem closeKeeps (closable : Closable adapter) : socketHolder.Keeps adapter .close := by
  have none_ : socketLost adapter .close = ∅ := rfl
  cases has : sockOf adapter with
  | none =>
    have still : adapterPerform adapter .close = (adapter, []) := by
      cases adapter with
      | udp state =>
        have shut : state.sock = none := has
        simp [adapterPerform, udpPerform, udpAdapterClose, shut]
      | tcp storage =>
        have shut : storage.sock = none := has
        simp [adapterPerform, tcpAdapterClose, shut]
    refine usesKeep ?_ ?_ rfl
    · rw [still]
      exact usesNothing _
    · rw [adapterStep, still]
  | some sock =>
    obtain ⟨ops, slots, closing⟩ := closable sock has
    have performed : (adapterPerform adapter .close).2 = [.closed sock] ∧ sockOf (adapterStep adapter .close) = none := by
      cases adapter with
      | udp state =>
        have has : state.sock = some sock := has
        have slots : state.osSockets = some ops := slots
        simp [adapterStep, adapterPerform, udpPerform, udpAdapterClose, has, slots, closing, sockOf]
      | tcp storage =>
        have has : storage.sock = some sock := has
        have slots : storage.osSockets = some ops := slots
        simp [adapterStep, adapterPerform, tcpAdapterClose, has, slots, closing, sockOf]
    have entries : socketEntries adapter .close = [.returned sock] := by simp [socketEntries, performed.1, entryOfCall]
    have before : socketHeld adapter = {sock} := by simp [socketHeld, has]
    have after : socketHeld (adapterStep adapter .close) = ∅ := by simp [socketHeld, performed.2]
    refine Holder.keepsOf ?_ (fun other => ?_) (by simp [none_])
    · rw [entries, before]
      exact alwaysCons.mpr ⟨Finset.mem_singleton_self sock, alwaysNil _ _ _⟩
    · rw [entries, before, after, none_]
      simp [run, move]

theorem stepKeeps (closable : Closable adapter) (e : UdpEvent)
    (fresh : Always move Fresh (socketHeld adapter) (socketEntries adapter e)) : socketHolder.Keeps adapter e := by
  cases e with
  | openAdapter fits config osSockets registered answers =>
    cases passed : (adapterOpenChecks fits config osSockets registered).isOk with
    | false =>
      have still : adapterPerform adapter (.openAdapter fits config osSockets registered answers) = (adapter, []) := by
        cases checks : adapterOpenChecks fits config osSockets registered with
        | ok _ => simp [checks, Except.isOk, Except.toBool] at passed
        | error status => cases adapter <;> simp [adapterPerform, udpPerform, udpAdapterOpen, tcpAdapterOpen, checks]
      refine usesKeep ?_ ?_ passed
      · rw [still]
        exact usesNothing _
      · rw [adapterStep, still]
    | true =>
      refine openKeeps passed ?_ fresh
      cases adapter with
      | udp state => exact udpOpenShape state answers passed
      | tcp storage => exact tcpOpenShape storage answers passed
  | send data poll answer =>
    refine usesKeep ?_ ?_ rfl
    · cases adapter with
      | udp state => exact udpSendUses state data poll answer
      | tcp storage => exact tcpCallUses fun _ _ => rfl
    · cases adapter <;> rfl
  | receive outBuf poll answer =>
    refine usesKeep ?_ ?_ rfl
    · cases adapter with
      | udp state => exact (udpReceiveUses state outBuf poll answer).1
      | tcp storage => exact tcpCallUses fun _ _ => rfl
    · cases adapter with
      | udp state => exact (udpReceiveUses state outBuf poll answer).2.1
      | tcp storage => rfl
  | close => exact closeKeeps closable

theorem checkedClose {fits : Bool} {given : Option ProtocolConfig} {osSockets registered : Option RteOsSocketOps}
    {config : ProtocolConfig} {ops : RteOsSocketOps}
    (checks : adapterOpenChecks fits given osSockets registered = .ok (config, ops)) : ops.closeSocket = true := by
  unfold adapterOpenChecks at checks
  split at checks
  · cases checks
  split at checks
  · cases checks
  split at checks
  · cases checks
  split at checks
  · cases checks
  rename_i both
  cases checks
  have slots : ops.openSocket = true ∧ ops.closeSocket = true := by simpa using both
  exact slots.2

theorem openedSlots (adapter : Adapter) {fits : Bool} {given : Option ProtocolConfig}
    {osSockets registered : Option RteOsSocketOps} {config : ProtocolConfig} {ops : RteOsSocketOps}
    (checks : adapterOpenChecks fits given osSockets registered = .ok (config, ops)) (answers : OpenAnswers) :
    slotsOf (adapterStep adapter (.openAdapter fits given osSockets registered answers)) = some ops := by
  cases adapter with
  | udp state =>
    simp only [adapterStep, adapterPerform, udpPerform, udpAdapterOpen, checks, slotsOf]
    split
    · rfl
    split
    · split <;> rfl
    · rfl
    · rfl
  | tcp storage =>
    simp only [adapterStep, adapterPerform, tcpAdapterOpen, checks, slotsOf]
    split
    · rfl
    split
    · split <;> rfl
    · split <;> rfl
    · rfl

theorem closableStep (closable : Closable adapter) (e : UdpEvent) : Closable (adapterStep adapter e) := by
  cases e with
  | openAdapter fits given osSockets registered answers =>
    cases checks : adapterOpenChecks fits given osSockets registered with
    | ok admitted =>
      obtain ⟨config, ops⟩ := admitted
      exact fun sock _ => ⟨ops, openedSlots adapter checks answers, checkedClose checks⟩
    | error status =>
      have still : adapterStep adapter (.openAdapter fits given osSockets registered answers) = adapter := by
        cases adapter <;> simp [adapterStep, adapterPerform, udpPerform, udpAdapterOpen, tcpAdapterOpen, checks]
      rwa [still]
  | send data poll answer => cases adapter <;> exact closable
  | receive outBuf poll answer =>
    cases adapter with
    | udp state =>
      obtain ⟨-, sameSock, sameSlots⟩ := udpReceiveUses state outBuf poll answer
      intro sock has
      obtain ⟨ops, slots, closing⟩ := closable sock (sameSock.symm.trans has)
      exact ⟨ops, sameSlots.trans slots, closing⟩
    | tcp storage => exact closable
  | close =>
    have shut : sockOf (adapterStep adapter .close) = none := by
      cases adapter with
      | udp state =>
        simp only [adapterStep, adapterPerform, udpPerform, udpAdapterClose]
        split
        · assumption
        · rfl
      | tcp storage =>
        simp only [adapterStep, adapterPerform, tcpAdapterClose]
        split
        · assumption
        · rfl
    intro sock has
    rw [shut] at has
    cases has

end Keeps

section Pool
variable {ι : Type} [DecidableEq ι] {pool : ι → Adapter} {events : List (ι × UdpEvent)}

/- Whatever is called on the adapters, in whatever order: each socket that is used or closed is
open, no two adapters have the same socket, and the sockets that are open are those of the
adapters and those that an adapter had when it was opened again. -/
theorem socketsOwned (unopened : ∀ i, sockOf (pool i) = none)
    (fresh : Always move Fresh ∅ (socketHolder.traceFrom pool events)) :
    Always move Own ∅ (socketHolder.traceFrom pool events) ∧
      (∀ i j, i ≠ j → ∀ sock, sockOf (run socketHolder.poolStep pool events i) = some sock →
        sockOf (run socketHolder.poolStep pool events j) ≠ some sock) ∧
      ∀ sock, sock ∈ run move ∅ (socketHolder.traceFrom pool events) ↔
        (∃ i, sockOf (run socketHolder.poolStep pool events i) = some sock) ∨
          ∃ before i e after, events = before ++ (i, e) :: after ∧ clears e = true ∧
            sockOf (run socketHolder.poolStep pool before i) = some sock := by
  have held (adapter : Adapter) (sock : Nat) : sock ∈ socketHeld adapter ↔ sockOf adapter = some sock := by
    unfold socketHeld
    cases sockOf adapter <;> simp [eq_comm]
  have none_ : ∀ i, socketHolder.held (pool i) = ∅ := fun i => by
    show socketHeld (pool i) = ∅
    simp [socketHeld, unopened i]
  have begun : ∀ i, Closable (pool i) := fun i sock has => by
    rw [unopened i] at has
    cases has
  have accounts := (Holder.accountsRun begun none_ (fun _ e closable _ => closableStep closable e)
    (fun _ e closable fresh => stepKeeps closable e fresh) fresh).1
  refine ⟨accounts.own, fun i j different sock has has' => ?_, fun sock => (accounts.out sock).trans (or_congr ?_ ?_)⟩
  · exact accounts.apart i j different sock ((held _ sock).mpr has) ((held _ sock).mpr has')
  · exact exists_congr fun i => held _ sock
  · have forgotten (adapter : Adapter) (e : UdpEvent) :
        sock ∈ socketLost adapter e ↔ clears e = true ∧ sockOf adapter = some sock := by
      unfold socketLost
      cases clears e <;> simp [held]
    constructor
    · rintro ⟨before, i, e, after, split, lost⟩
      obtain ⟨clearing, has⟩ := (forgotten _ e).mp lost
      exact ⟨before, i, e, after, split, clearing, has⟩
    · rintro ⟨before, i, e, after, split, clearing, has⟩
      exact ⟨before, i, e, after, split, (forgotten _ e).mpr ⟨clearing, has⟩⟩

def oneOfEach : Nat → Adapter
  | 0 => .tcp ⟨none, none, false⟩
  | _ => .udp unopenedUdp

def openingAs (role : ProtocolRole) (sock : Nat) (bind : RteStatus) : UdpEvent :=
  .openAdapter true (some ⟨role, hostNamed 0x61, 7000⟩) (some everySlot) none ⟨.opened sock, .ok, bind, .ok⟩

def reconnected : List (Nat × UdpEvent) :=
  [(0, openingAs .listen 3 .timeout), (0, openingAs .connect 4 .ok), (1, openingAs .pub 5 .ok),
    (0, .send (some [1]) writable .ok), (0, openingAs .connect 6 .ok), (1, .send (some [1]) writable .ok),
    (1, .close), (0, .close)]

theorem reconnectedLeavesOpen :
    Always move Own ∅ (socketHolder.traceFrom oneOfEach reconnected) ∧
      4 ∈ run move ∅ (socketHolder.traceFrom oneOfEach reconnected) ∧
      3 ∉ run move ∅ (socketHolder.traceFrom oneOfEach reconnected) := by
  have fresh : Always move Fresh ∅ (socketHolder.traceFrom oneOfEach reconnected) := by decide +kernel
  have unopened : ∀ i, sockOf (oneOfEach i) = none := fun i => by
    cases i <;> rfl
  have owned := socketsOwned unopened fresh
  refine ⟨owned.1, (owned.2.2 4).mpr (Or.inr ⟨reconnected.take 4, 0, _, reconnected.drop 5, rfl, rfl, ?_⟩), ?_⟩
  · decide +kernel
  · decide +kernel

end Pool
end PlatformRte.Oal
